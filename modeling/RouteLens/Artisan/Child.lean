import RouteLens.Files.Tree
import RouteLens.Text.Duration

/-!
# Child processes

What is asked of a child process and how it ends. Whatever starts programs is given as a function
from a command and the files before to the outcome and the files after.
-/

namespace RouteLens

/-- How a program ended. -/
inductive ExitStatus
  | exited (code : Nat)
  /-- A signal ended it; `dumped` if it left an image of its memory behind. -/
  | signaled (signal : Nat) (dumped : Bool)
  deriving DecidableEq, Repr

namespace ExitStatus

/-- The names of signals by number. -/
def signalNames : List (Nat × String) :=
  [(1, "SIGHUP"), (2, "SIGINT"), (3, "SIGQUIT"), (4, "SIGILL"), (5, "SIGTRAP"), (6, "SIGABRT"),
    (7, "SIGBUS"), (8, "SIGFPE"), (9, "SIGKILL"), (10, "SIGUSR1"), (11, "SIGSEGV"),
    (12, "SIGUSR2"), (13, "SIGPIPE"), (14, "SIGALRM"), (15, "SIGTERM"), (16, "SIGSTKFLT"),
    (17, "SIGCHLD"), (18, "SIGCONT"), (19, "SIGSTOP"), (20, "SIGTSTP"), (21, "SIGTTIN"),
    (22, "SIGTTOU"), (23, "SIGURG"), (24, "SIGXCPU"), (25, "SIGXFSZ"), (26, "SIGVTALRM"),
    (27, "SIGPROF"), (28, "SIGWINCH"), (29, "SIGIO"), (30, "SIGPWR"), (31, "SIGSYS")]

/-- Whether the program reports success. -/
def isSuccess : ExitStatus → Bool
  | exited code => code == 0
  | signaled _ _ => false

/-- The wording of a status. -/
def text : ExitStatus → String
  | exited code => "exit status: " ++ toString code
  | signaled signal dumped =>
    let name := match signalNames.lookup signal with
      | some name => " (" ++ name ++ ")"
      | none => ""
    "signal: " ++ toString signal ++ name ++ if dumped then " (core dumped)" else ""

end ExitStatus

/-- A program to run in a directory, without input. -/
structure Command where
  program : String
  args : List String
  dir : Path
  /-- How long it may take. -/
  limit : Duration
  deriving DecidableEq, Repr

/-- What became of a command. -/
inductive Outcome
  /-- The program could not be started. -/
  | notStarted (failure : IoFailure)
  /-- The program was started, but its end could not be awaited. -/
  | notAwaited (failure : IoFailure)
  /-- The program was still running at its limit. -/
  | overdue
  | ended (status : ExitStatus) (stdout stderr : Bytes)
  deriving DecidableEq, Repr

/-- Whatever starts programs: a command and the files before, to its outcome and the files after. -/
abbrev Launcher := Command → FileTree → Outcome × FileTree

end RouteLens
