import SkipChecks.Text.Utf8
import SkipChecks.Tree.Basic
import SkipChecks.Tree.Fault

/-!
# Programs

What running a program gives: how it ended and what it wrote. A program may change the tree it runs
in, and may give something else each time it is run.
-/

namespace SkipChecks

/-- How a program ended. -/
inductive Ending
  | exited (code : UInt8)
  | killed (signal : Nat)
  deriving DecidableEq, Repr

namespace Ending

/-- The names of the signals, from the first one on. -/
def signalNames : List String :=
  ["HUP", "INT", "QUIT", "ILL", "TRAP", "ABRT", "BUS", "FPE", "KILL", "USR1", "SEGV", "USR2",
    "PIPE", "ALRM", "TERM", "STKFLT", "CHLD", "CONT", "STOP", "TSTP", "TTIN", "TTOU", "URG",
    "XCPU", "XFSZ", "VTALRM", "PROF", "WINCH", "IO", "PWR", "SYS"]

/-- What signals are called in sentences, from the first one on. -/
def signalWords : List String :=
  ["Hangup", "Interrupt", "Quit", "Illegal instruction", "Trace/breakpoint trap", "Aborted",
    "Bus error", "Floating point exception", "Killed", "User defined signal 1", "Segmentation fault",
    "User defined signal 2", "Broken pipe", "Alarm clock", "Terminated", "Stack fault",
    "Child exited", "Continued", "Stopped (signal)", "Stopped", "Stopped (tty input)",
    "Stopped (tty output)", "Urgent I/O condition", "CPU time limit exceeded",
    "File size limit exceeded", "Virtual timer expired", "Profiling timer expired",
    "Window changed", "I/O possible", "Power failure", "Bad system call"]

/-- The status that a shell gives for an ending. -/
def status : Ending → Nat
  | exited code => code.toNat
  | killed signal => 128 + signal

/-- Whether a program says that it did its job. -/
def isSuccess (ending : Ending) : Bool := ending == .exited 0

def message : Ending → Text
  | exited code => "exit status: ".toList ++ Text.ofNat code.toNat
  | killed signal =>
    "signal: ".toList ++ Text.ofNat signal ++
      match signalNames[signal - 1]? with
      | some name => " (SIG".toList ++ name.toList ++ [')']
      | none => []

end Ending

/-- A run of a program. -/
structure Run where
  ending : Ending
  /-- What it wrote to its standard output. -/
  output : Bytes
  /-- What it wrote to its standard error. -/
  diagnostics : Bytes

/-- Runs a command line in a tree: a run, or the reason why there was none, and the tree behind. -/
abbrev Programs := List Text → Tree → Except Fault Run × Tree

end SkipChecks
