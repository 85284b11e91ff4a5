import RouteLens.Shell.Arithmetic

/-!
# Signals

What scripts call the signals, and how a shell describes them when they have ended a program.
-/

namespace RouteLens.Shell

namespace Signal

/-- How many signals there are. -/
def count : Nat := 65

/-- The names and the descriptions of the lower signals; 0 stands for the end of the script. -/
def lower : List (Nat × String × String) :=
  [(0, "EXIT", ""), (1, "HUP", "Hangup"), (2, "INT", "Interrupt"), (3, "QUIT", "Quit"),
    (4, "ILL", "Illegal instruction"), (5, "TRAP", "Trace/breakpoint trap"),
    (6, "ABRT", "Aborted"), (7, "BUS", "Bus error"), (8, "FPE", "Floating point exception"),
    (9, "KILL", "Killed"), (10, "USR1", "User defined signal 1"),
    (11, "SEGV", "Segmentation fault"), (12, "USR2", "User defined signal 2"),
    (13, "PIPE", "Broken pipe"), (14, "ALRM", "Alarm clock"), (15, "TERM", "Terminated"),
    (16, "16", "Stack fault"), (17, "CHLD", "Child exited"), (18, "CONT", "Continued"),
    (19, "STOP", "Stopped (signal)"), (20, "TSTP", "Stopped"),
    (21, "TTIN", "Stopped (tty input)"), (22, "TTOU", "Stopped (tty output)"),
    (23, "URG", "Urgent I/O condition"), (24, "XCPU", "CPU time limit exceeded"),
    (25, "XFSZ", "File size limit exceeded"), (26, "VTALRM", "Virtual timer expired"),
    (27, "PROF", "Profiling timer expired"), (28, "WINCH", "Window changed"),
    (29, "IO", "I/O possible"), (30, "PWR", "Power failure"), (31, "SYS", "Bad system call")]

/-- The name of a signal. Those from 34 to 64 are counted from both ends. -/
def name (signal : Nat) : Chars :=
  match lower.lookup signal with
  | some (name, _) => name.toList
  | none =>
    if signal = 34 then "RTMIN".toList
    else if signal = 64 then "RTMAX".toList
    else if 34 < signal && signal < 50 then "RTMIN+".toList ++ Chars.ofInt (signal - 34)
    else if 50 ≤ signal && signal < 64 then "RTMAX-".toList ++ Chars.ofInt (64 - signal)
    else Chars.ofInt signal

/-- The number of a signal that is given by number or by name. -/
def ofText? (text : Chars) : Option Nat :=
  if !text.isEmpty && text.all Char.isDigit then
    let n := (Expression.digits 10 0 text).1
    if n < count then some n else none
  else (List.range count).find? fun signal => name signal == text.map Char.toUpper

/-- How a shell describes the signal that has ended a program; not at all if that is usual. -/
def description? (signal : Nat) : Option Chars :=
  if signal = 2 || signal = 13 then none
  else match lower.lookup signal with
    | some (_, text) => some text.toList
    | none => some ("Real-time signal ".toList ++ Chars.ofInt (signal - 34))

end Signal

end RouteLens.Shell
