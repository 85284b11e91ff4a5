import RouteLens.Shell.Builtin.Basic
import RouteLens.Shell.Expansion
import RouteLens.Shell.Quote
import RouteLens.Shell.Signal

/-!
# Signals and commands in the background

The commands `kill`, `trap` and `wait`. The shell itself is the only process that signals reach;
commands in the background have ended before they could be sent one.
-/

namespace RouteLens.Shell

namespace Builtin

open Effect

/-- Sends a signal to the shell. -/
def deliver (signal : Nat) : Effect Unit := do
  match (← get).traps.lookup signal with
  | some action => modify fun s => { s with pending := s.pending ++ [action] }
  | none =>
    if signal = 0 || [17, 18, 23, 28].contains signal then return
    else if [19, 20, 21, 22].contains signal then throw .overdue
    else throw (.killed signal)

/-- How signals are sent. -/
def killUsage : String :=
  "Usage: kill [-s sigspec | -signum | -sigspec] [pid | job]... or\nkill -l [exitstatus]"

/-- Sends a signal to processes. -/
def killAll (signal : Nat) : List Chars → Effect Nat
  | [] => pure 0
  | target :: rest => do
    let (isGroup, digits) := match target with
      | '-' :: digits => (true, digits)
      | _ => (false, target)
    if (← number digits) = processId && !isGroup then
      deliver signal
      killAll signal rest
    else
      complain "No such process\n".toList
      let _ ← killAll signal rest
      return 1

/-- Writes the name of the signal with which a command ended, by the status of the command. -/
def nameSignal (status : Chars) : Effect Nat := do
  let n ← number status
  let signal := if n > 128 then n - 128 else n
  if 0 < signal && signal < Signal.count && n ≠ 128 then print (Signal.name signal ++ ['\n'])
  else fatal ("invalid signal number or exit status: ".toList ++ status)

/-- Sends a signal to processes, as arguments say. -/
def kill (args : List Chars) : Effect Nat := do
  let usage : Effect Nat := fatal killUsage.toList
  let send (signal : Nat) (targets : List Chars) : Effect Nat :=
    if targets.isEmpty then usage else killAll signal targets
  match args with
  | [['-', 's']] => fatal "No arg for -s option".toList
  | ['-', 's'] :: name :: targets => match Signal.ofText? name with
    | some signal =>
      send signal (if targets.head? == some ['-', '-'] then targets.drop 1 else targets)
    | none => fatal ("invalid signal number or name: ".toList ++ name)
  | ['-', 'l'] :: status :: _ => nameSignal status
  | [['-', 'l']] => print ('0' :: '\n' ::
      ((List.range Signal.count).drop 1).flatMap fun signal => Signal.name signal ++ ['\n'])
  | ['-', '-'] :: targets => send 15 targets
  | ('-' :: c :: letters) :: targets => match Signal.ofText? (c :: letters) with
    | some signal => send signal targets
    | none => fatal ("Illegal option -".toList ++ [c])
  | targets => send 15 targets

/-- What is done on signals, as commands that set it. -/
def trapListing (s : State) : Chars :=
  (List.range Signal.count).flatMap fun signal => match s.traps.lookup signal with
    | some action =>
      "trap -- ".toList ++ Quote.parts action ++ ' ' :: Signal.name signal ++ ['\n']
    | none => []

/-- Sets what is done on each of some signals, or that nothing special is done. -/
def setTraps (action : Option Chars) : List Chars → Effect Nat
  | [] => pure 0
  | name :: rest => match Signal.ofText? name with
    | some signal => do
      modify fun s =>
        let others := s.traps.filter (·.1 != signal)
        { s with traps := match action with
          | some action => (signal, action) :: others
          | none => others }
      setTraps action rest
    | none => do
      let _ ← write 2 ("trap: ".toList ++ name ++ ": bad trap\n".toList)
      return 1

/-- Sets what is done on signals. -/
def trap (args : List Chars) : Effect Nat := do
  match (← takeOptions "" args).2 with
  | [] => print (trapListing (← get))
  | [name] => setTraps none [name]
  | action :: names =>
    if (Signal.ofText? action).isSome && action.all Char.isDigit then
      setTraps none (action :: names)
    else setTraps (if action == ['-'] then none else some action) names

/-- The status of the command in the background that an argument means. -/
def jobStatus (arg : Chars) : Effect Nat := do
  let jobs := (← get).jobs.reverse
  let nth? (n : Nat) : Option Nat := if n = 0 then none else jobs[n - 1]?
  match arg with
  | '%' :: digits =>
    match nth? (Expression.digits 10 0 digits).1 with
    | some status => return status
    | none => fatal ("No such job: ".toList ++ arg)
  | _ =>
    if jobs.isEmpty then return 127
    else return (nth? ((← number arg) - processId)).getD 127

/-- Waits for commands in the background; the status of the last one. -/
def wait (args : List Chars) : Effect Nat := do
  let (_, operands) ← takeOptions "" args
  operands.foldlM (fun _ arg => jobStatus arg) 0

/-- Fails, since there is no command in the background that could be carried on. -/
def resume (args : List Chars) : Effect Nat := do
  let _ ← takeOptions "" args
  fatal "No current job".toList

end Builtin

end RouteLens.Shell
