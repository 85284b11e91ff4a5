import RouteLens.Shell.Builtin.Directory
import RouteLens.Shell.Builtin.Input
import RouteLens.Shell.Builtin.Mask
import RouteLens.Shell.Builtin.Parameters
import RouteLens.Shell.Builtin.Signals
import RouteLens.Shell.Condition
import RouteLens.Shell.Found

/-!
# Commands of the shell itself

The commands that a shell carries out without a program, as far as they carry out no other
statements.
-/

namespace RouteLens.Shell

namespace Builtin

open Effect

/-- Writes formatted arguments. -/
def printf (args : List Chars) : Effect Nat := do
  match (← takeOptions "" args).2 with
  | [] => fatal "usage: printf format [arg ...]".toList
  | format :: rest =>
    let result := formatted format rest
    for error in result.errors do complain error.message
    let written ← print result.text
    return if result.errors.any FormatError.isFatal then 2
      else if result.errors.isEmpty then written else 1

/-- Finds out whether a condition holds. -/
def test (args : List Chars) : Effect Nat := do
  match Condition.eval (← get) args with
  | .ok answer => return if answer then 0 else 1
  | .error error => fatal error.message

/-- Finds out whether a condition in brackets holds. -/
def bracket (args : List Chars) : Effect Nat := do
  if (args.getLast?.bind List.head?) == some ']' then test args.dropLast
  else fatal "missing ]".toList

/-- The number of loops that a command takes as its argument, at most as many as there are. -/
def loopsArgument (args : List Chars) : Effect Nat := do
  let n ← match args with
    | [] => pure 1
    | arg :: _ => do
      let n ← number arg
      if n = 0 then fatal ("Illegal number: ".toList ++ arg) else pure n
  return min n (← get).loops

/-- Stops loops, if there are any. -/
def stopLoops (stop : Nat → Stop) (args : List Chars) : Effect Nat := do
  let n ← loopsArgument args
  if n = 0 then return 0
  else
    modify fun s => { s with status := 0 }
    throw (stop n)

/-- Ends the shell. -/
def exit (args : List Chars) : Effect Nat := do
  match args, (← get).interrupted with
  | [], some status => throw (.exit status)
  | _, _ => throw (.exit (← statusArgument args))

/-- Looks for programs; fails if one of them is missing. -/
def look : List Chars → Effect Nat
  | [] => pure 0
  | name :: rest => do
    let status ← match ← find name with
      | .program _ _ => pure 0
      | .missing => do
        complain (name ++ ": not found".toList)
        pure 1
      | .denied => do
        complain (name ++ ": Permission denied".toList)
        pure 1
    let others ← look rest
    return if status = 0 then others else status

/-- Writes how long the shell and its programs have worked: not long enough to be measured. -/
def times : Effect Nat :=
  print "0m0.000000s 0m0.000000s\n0m0.000000s 0m0.000000s\n".toList

/-- The commands that may not fail, and before which assignments last. -/
def special : List String :=
  [":", ".", "break", "continue", "eval", "exec", "exit", "export", "readonly",
    "local", "return", "set", "shift", "times", "trap", "unset"]

/-- Whether arguments start a command that declares variables, and that assignments may follow. -/
def declares : List Chars → Bool
  | [] => false
  | name :: rest =>
    if ["export", "local", "readonly"].contains (String.ofList name) then true
    else if name != "command".toList then false
    else match rest with
      | ['-', 'p'] :: rest => declares rest
      | ['-', '-'] :: rest => declares rest
      | rest => declares rest

/-- Carries out the command with a name, if the shell has it; its status. -/
def run? (name : String) (args : List Chars) : Option (Effect Nat) :=
  match name with
  | ":" => some (pure 0)
  | "true" => some (pure 0)
  | "false" => some (pure 1)
  | "echo" => some (print (echoText args))
  | "printf" => some (printf args)
  | "test" => some (test args)
  | "[" => some (bracket args)
  | "cd" => some (changeDirectory args)
  | "chdir" => some (changeDirectory args)
  | "pwd" => some (printDirectory args)
  | "read" => some (read args)
  | "kill" => some (kill args)
  | "trap" => some (trap args)
  | "wait" => some (wait args)
  | "jobs" => some (pure 0)
  | "bg" => some (resume args)
  | "fg" => some (resume args)
  | "export" => some (exportAll args)
  | "readonly" => some (protect args)
  | "unset" => some (unset args)
  | "local" => some (makeLocal args)
  | "set" => some (setAll args)
  | "shift" => some (shift args)
  | "getopts" => some (nextOption args)
  | "umask" => some (umask args)
  | "hash" => some do look (← takeOptions "r" args).2
  | "times" => some times
  | "exit" => some (exit args)
  | "return" => some do throw (.return (← statusArgument args))
  | "break" => some (stopLoops .leave args)
  | "continue" => some (stopLoops .repeat args)
  | _ => none

/-- The commands that need the rest of the shell. -/
def evaluating : List String := ["eval", ".", "exec", "command", "type"]

/-- Whether a name is that of a command of the shell. -/
def isName (name : Chars) : Bool :=
  (run? (String.ofList name) []).isSome || evaluating.contains (String.ofList name)

end Builtin

end RouteLens.Shell
