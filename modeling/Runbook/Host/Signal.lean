/-!
# Signals

A signal is known by its number. Some end the process that gets them, some stop it, and some do
nothing unless they are caught.
-/

namespace Runbook.Host

/-- The names of the signals with their numbers and the words for a process that one ended. -/
def signalTable : List (String × Nat × String) :=
  [("HUP", 1, "Hangup"), ("INT", 2, "Interrupt"), ("QUIT", 3, "Quit"),
   ("ILL", 4, "Illegal instruction"), ("TRAP", 5, "Trace/breakpoint trap"), ("ABRT", 6, "Aborted"),
   ("BUS", 7, "Bus error"), ("FPE", 8, "Floating point exception"), ("KILL", 9, "Killed"),
   ("USR1", 10, "User defined signal 1"), ("SEGV", 11, "Segmentation fault"),
   ("USR2", 12, "User defined signal 2"), ("PIPE", 13, "Broken pipe"), ("ALRM", 14, "Alarm clock"),
   ("TERM", 15, "Terminated"), ("STKFLT", 16, "Stack fault"), ("CHLD", 17, "Child exited"),
   ("CONT", 18, "Continued"), ("STOP", 19, "Stopped (signal)"), ("TSTP", 20, "Stopped"),
   ("TTIN", 21, "Stopped (tty input)"), ("TTOU", 22, "Stopped (tty output)"),
   ("URG", 23, "Urgent I/O condition"), ("XCPU", 24, "CPU time limit exceeded"),
   ("XFSZ", 25, "File size limit exceeded"), ("VTALRM", 26, "Virtual timer expired"),
   ("PROF", 27, "Profiling timer expired"), ("WINCH", 28, "Window changed"),
   ("IO", 29, "I/O possible"), ("PWR", 30, "Power failure"), ("SYS", 31, "Bad system call")]

/-- The greatest number of a signal. -/
def greatestSignal : Nat := 64

/-- The number of the signal with a name. -/
def signalNumber? (name : String) : Option Nat := (signalTable.lookup name).map (·.1)

/-- The name of the signal with a number. -/
def signalName? (number : Nat) : Option String :=
  (signalTable.find? fun entry => entry.2.1 = number).map (·.1)

/-- The words for a process that a signal ended. -/
def signalText (number : Nat) : String :=
  match signalTable.find? fun entry => entry.2.1 = number with
  | some entry => entry.2.2
  | none => "Real-time signal " ++ toString (number - 34)

/-- The signal that nothing reads what is written. -/
def pipeSignal : Nat := 13

/-- The signal for an interruption from the outside. -/
def interruptSignal : Nat := 2

/-- The signal that asks for an end. -/
def endSignal : Nat := 15

/-- The signal for an access outside of what a process may use. -/
def accessSignal : Nat := 11

/-- The signal that neither can be caught nor ignored. -/
def killSignal : Nat := 9

/-- Whether a signal that is not caught does nothing. -/
def isHarmless (number : Nat) : Bool := [17, 18, 23, 28].contains number

/-- Whether a signal that is not caught only stops a process. -/
def isStopping (number : Nat) : Bool := [19, 20, 21, 22].contains number

end Runbook.Host
