/-!
# Wait statuses

How a process ended, as the system reports it in one number: an exit code in the second byte,
or a signal in the low seven bits with a flag for a memory dump.
-/

namespace ReleasePacker

/-- How a process ended. -/
structure WaitStatus where
  /-- The number that the system reports. -/
  raw : Nat
  deriving DecidableEq, Repr

namespace WaitStatus

/-- The status of a process that ended by itself. -/
def exited (code : Nat) : WaitStatus := ⟨code % 256 * 256⟩

/-- The status of a process that a signal ended. -/
def signaled (signal : Nat) (dumped : Bool) : WaitStatus :=
  ⟨signal ||| (if dumped then 0x80 else 0)⟩

/-- Whether the process ended by itself with code zero. -/
def isSuccess (status : WaitStatus) : Bool := status.raw = 0

/-- The exit code of a process that ended by itself. -/
def exitCode? (status : WaitStatus) : Option Nat :=
  if status.raw % 128 = 0 then some (status.raw / 256 % 256) else none

/-- The signal that ended the process. -/
def signal? (status : WaitStatus) : Option Nat :=
  if status.raw % 128 = 0 || status.raw % 128 = 127 then none else some (status.raw % 128)

/-- Whether the memory of the process was dumped. -/
def isDumped (status : WaitStatus) : Bool := status.signal?.isSome && status.raw / 128 % 2 = 1

/-- The names of the signals from one on. -/
def signalNames : List String :=
  ["SIGHUP", "SIGINT", "SIGQUIT", "SIGILL", "SIGTRAP", "SIGABRT", "SIGBUS", "SIGFPE", "SIGKILL",
   "SIGUSR1", "SIGSEGV", "SIGUSR2", "SIGPIPE", "SIGALRM", "SIGTERM", "SIGSTKFLT", "SIGCHLD",
   "SIGCONT", "SIGSTOP", "SIGTSTP", "SIGTTIN", "SIGTTOU", "SIGURG", "SIGXCPU", "SIGXFSZ",
   "SIGVTALRM", "SIGPROF", "SIGWINCH", "SIGIO", "SIGPWR", "SIGSYS"]

/-- A signal with its name, if it has one. -/
def signalText (signal : Nat) : String :=
  match (if signal = 0 then none else signalNames[signal - 1]?) with
  | some name => toString signal ++ " (" ++ name ++ ")"
  | none => toString signal

/-- The text shown for a status. -/
def message (status : WaitStatus) : String :=
  match status.exitCode?, status.signal? with
  | some code, _ => "exit status: " ++ toString code
  | none, some signal =>
    "signal: " ++ signalText signal ++ (if status.isDumped then " (core dumped)" else "")
  | none, none =>
    if status.raw % 256 = 127 then
      "stopped (not terminated) by signal: " ++ signalText (status.raw / 256 % 256)
    else if status.raw = 0xFFFF then "continued (WIFCONTINUED)"
    else "unrecognised wait status: " ++ toString status.raw ++ " 0x" ++
      String.ofList (Nat.toDigits 16 status.raw)

end WaitStatus
end ReleasePacker
