import Graft.Shell.Bytes

/-!
# Signals

Signals by number and by name, and what they do to a process that says nothing about them.
-/
namespace Graft.Shell.Signal

/-- The names of signals, from number 1 on. -/
def names : List String :=
  ["HUP", "INT", "QUIT", "ILL", "TRAP", "ABRT", "BUS", "FPE", "KILL", "USR1", "SEGV", "USR2", "PIPE",
    "ALRM", "TERM", "STKFLT", "CHLD", "CONT", "STOP", "TSTP", "TTIN", "TTOU", "URG", "XCPU", "XFSZ",
    "VTALRM", "PROF", "WINCH", "IO", "PWR", "SYS"]

/-- The name of a signal; number 0 is the end of a script. -/
def name? : Nat → Option String
  | 0 => some "EXIT"
  | n + 1 => names[n]?

/-- The signal that a number or a name stands for. Names begin with that of number `least`. -/
def find? (least : Nat) (t : Bytes) : Option Nat :=
  if !t.isEmpty && t.all Char.isDigit then (String.ofList t).toNat?.filter (· < 65)
  else
    let name := String.ofList (t.map Char.toUpper)
    (("EXIT" :: names).findIdx? (· == name)).filter (least ≤ ·)

/-- What a shell says when a program was ended by a signal. -/
def text (n : Nat) : String :=
  match name? n with
  | some "HUP" => "Hangup"
  | some "QUIT" => "Quit"
  | some "ILL" => "Illegal instruction"
  | some "TRAP" => "Trace/breakpoint trap"
  | some "ABRT" => "Aborted"
  | some "BUS" => "Bus error"
  | some "FPE" => "Floating point exception"
  | some "KILL" => "Killed"
  | some "USR1" => "User defined signal 1"
  | some "SEGV" => "Segmentation fault"
  | some "USR2" => "User defined signal 2"
  | some "ALRM" => "Alarm clock"
  | some "TERM" => "Terminated"
  | some "STKFLT" => "Stack fault"
  | some "XCPU" => "CPU time limit exceeded"
  | some "XFSZ" => "File size limit exceeded"
  | some "VTALRM" => "Virtual timer expired"
  | some "PROF" => "Profiling timer expired"
  | some "IO" => "I/O possible"
  | some "PWR" => "Power failure"
  | some "SYS" => "Bad system call"
  | _ => ""

/-- Signals that do not end a process. -/
def isHarmless (n : Nat) : Bool :=
  n == 0 || n == 17 || n == 18 || n == 23 || n == 28 || (19 ≤ n && n ≤ 22)

/-- The number of the signal that a writer gets when nobody reads. -/
def brokenPipe : Nat := 13

end Graft.Shell.Signal
