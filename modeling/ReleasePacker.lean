import ReleasePacker.FileSystem.Listing
import ReleasePacker.Main
import ReleasePacker.Program
import ReleasePacker.Process.Scripted
import ReleasePacker.Shell.Programs
import ReleasePacker.Proofs.Task
import ReleasePacker.Proofs.Release.Stages
import ReleasePacker.Proofs.Release.Order
import ReleasePacker.Proofs.FileSystem.Entries
import ReleasePacker.Proofs.FileSystem.Following
import ReleasePacker.Proofs.FileSystem.Paths
import ReleasePacker.Proofs.FileSystem.Effects
import ReleasePacker.Proofs.Tool.Installation
import ReleasePacker.Proofs.Staging
import ReleasePacker.Proofs.Release.Delivery
import ReleasePacker.Proofs.Release.Frame
import ReleasePacker.Proofs.Digest
import ReleasePacker.Proofs.Digest.Specification
import ReleasePacker.Proofs.Digest.Reading
import ReleasePacker.Proofs.Gzip
import ReleasePacker.Proofs.Text.Utf8
import ReleasePacker.Proofs.Tar.Header
import ReleasePacker.Proofs.Tar.RoundTrip
import ReleasePacker.Proofs.FileSystem.Mentions
import ReleasePacker.Proofs.Archive
import ReleasePacker.Proofs.Release.Contents
import ReleasePacker.Proofs.FileSystem.Components
import ReleasePacker.Proofs.Naming
import ReleasePacker.Proofs.Release.Attribution
import ReleasePacker.Proofs.Release.ExitStatus
import ReleasePacker.Proofs.Config.Precedence
import ReleasePacker.Proofs.Config.Anchoring
import ReleasePacker.Proofs.Archive.Outcome
import ReleasePacker.Proofs.FileSystem.Crossing
import ReleasePacker.Proofs.FileSystem.TemporaryNames
import ReleasePacker.Proofs.Release.Ready
import ReleasePacker.Proofs.Release.Answers
import ReleasePacker.Proofs.Release.Again
import ReleasePacker.Proofs.Text.Separators
import ReleasePacker.Proofs.Archive.Members
import ReleasePacker.Proofs.Archive.Unpacking
import ReleasePacker.Proofs.Archive.Extraction
import ReleasePacker.Proofs.FileSystem.Copies
import ReleasePacker.Proofs.Staging.Copying
import ReleasePacker.Proofs.Staging.Session
import ReleasePacker.Proofs.Staging.AllOrNothing
import ReleasePacker.Proofs.Text.Trimming
import ReleasePacker.Proofs.Version
import ReleasePacker.Proofs.Manifest
import ReleasePacker.Proofs.Target
import ReleasePacker.Proofs.Release.Progress
import ReleasePacker.Proofs.Release.Streams
import ReleasePacker.Proofs.Release.Leftover
import ReleasePacker.Proofs.Process.Replay
