import ReleasePacker.Text.Lines

/-!
# Help texts

What the command line says about itself.
-/

namespace ReleasePacker

/-- The lines of the short help. -/
def shortHelp : List String :=
  ["Cross-compile, test and package kak-lsp release archives",
   "",
   "Usage: kak-lsp-release [OPTIONS] [TARGET]",
   "",
   "Arguments:",
   "  [TARGET]  Target triple to build [default: derived from the host OS]",
   "",
   "Options:",
   "      --from-env            Read TARGET, CRATE_NAME, and RELEASE_TAG or TRAVIS_TAG " ++
     "from the environment",
   "      --name <NAME>         Archive name [default: kak-lsp]",
   "      --binary <NAME>       File stem of the built binary [default: kak-lsp]",
   "      --tag <VERSION>       Release version; skips `git describe`",
   "  -C, --project-root <DIR>  Project root [default: current directory]",
   "  -o, --output-dir <DIR>    Directory the archive is written to [default: current " ++
     "directory]",
   "      --tool <PROGRAM>      Cross-compilation tool to invoke [default: cross]",
   "      --skip-install        Never download the tool when it is missing",
   "      --skip-tests          Build only; do not run the test suite",
   "      --timeout <SECS>      Kill any subprocess that runs longer than this many " ++
     "seconds",
   "      --dry-run             Show the release plan and exit without building",
   "      --json                Print the release report as JSON on stdout",
   "  -v, --verbose...          Increase log and tool verbosity (repeatable: -v, -vv, " ++
     "-vvv)",
   "  -q, --quiet               Suppress progress output (errors still shown)",
   "  -h, --help                Print help (see more with '--help')",
   "  -V, --version             Print version",
   "",
   "ENVIRONMENT (with --from-env):",
   "  TARGET                     target triple",
   "  CRATE_NAME                 archive name",
   "  RELEASE_TAG, TRAVIS_TAG    release version",
   "",
   "EXAMPLES:",
   "  Package for the host platform:",
   "    $ kak-lsp-release",
   "",
   "  Package an explicit target and version:",
   "    $ kak-lsp-release x86_64-unknown-linux-musl --tag 1.2.0",
   "",
   "  Preview a CI release:",
   "    $ kak-lsp-release --from-env --dry-run"]

/-- The lines of the long help. -/
def longHelp : List String :=
  ["Cross-compile, test, and package a kak-lsp release archive.",
   "",
   "Builds the release binary for one target triple with `cross`, runs the test suite " ++
     "under the target's runner, and packs the binary, default config, readme, and " ++
     "license files into \x7bname\x7d-\x7bversion\x7d-\x7btarget\x7d.tar.gz.",
   "",
   "Without a TARGET the triple is derived from the host OS. The version is taken from " ++
     "`git describe --tags` unless --tag (or a CI tag variable with --from-env) supplies " ++
     "it.",
   "",
   "Usage: kak-lsp-release [OPTIONS] [TARGET]",
   "",
   "Arguments:",
   "  [TARGET]",
   "          Target triple to build [default: derived from the host OS]",
   "",
   "Options:",
   "      --from-env",
   "          Read TARGET, CRATE_NAME, and RELEASE_TAG or TRAVIS_TAG from the " ++
     "environment",
   "",
   "      --name <NAME>",
   "          Archive name [default: kak-lsp]",
   "",
   "      --binary <NAME>",
   "          File stem of the built binary [default: kak-lsp]",
   "",
   "      --tag <VERSION>",
   "          Release version; skips `git describe`",
   "",
   "  -C, --project-root <DIR>",
   "          Project root [default: current directory]",
   "",
   "  -o, --output-dir <DIR>",
   "          Directory the archive is written to [default: current directory]",
   "",
   "      --tool <PROGRAM>",
   "          Cross-compilation tool to invoke [default: cross]",
   "",
   "      --skip-install",
   "          Never download the tool when it is missing",
   "",
   "      --skip-tests",
   "          Build only; do not run the test suite",
   "",
   "      --timeout <SECS>",
   "          Kill any subprocess that runs longer than this many seconds",
   "",
   "      --dry-run",
   "          Show the release plan and exit without building",
   "",
   "      --json",
   "          Print the release report as JSON on stdout",
   "",
   "  -v, --verbose...",
   "          Increase log and tool verbosity (repeatable: -v, -vv, -vvv)",
   "",
   "  -q, --quiet",
   "          Suppress progress output (errors still shown)",
   "",
   "  -h, --help",
   "          Print help (see a summary with '-h')",
   "",
   "  -V, --version",
   "          Print version",
   "",
   "ENVIRONMENT (with --from-env):",
   "  TARGET                     target triple",
   "  CRATE_NAME                 archive name",
   "  RELEASE_TAG, TRAVIS_TAG    release version",
   "",
   "EXAMPLES:",
   "  Package for the host platform:",
   "    $ kak-lsp-release",
   "",
   "  Package an explicit target and version:",
   "    $ kak-lsp-release x86_64-unknown-linux-musl --tag 1.2.0",
   "",
   "  Preview a CI release:",
   "    $ kak-lsp-release --from-env --dry-run"]

/-- The help, each line with its end. -/
def helpText (long : Bool) : String :=
  String.join ((if long then longHelp else shortHelp).map (· ++ "\n"))

/-- The version of the packager, with the end of the line. -/
def versionText : String := "kak-lsp-release 0.1.0\n"

end ReleasePacker
