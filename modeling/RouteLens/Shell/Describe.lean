import RouteLens.Shell.Builtin
import RouteLens.Shell.Token

/-!
# What names stand for

What `type` and `command -v` say about the names of commands.
-/

namespace RouteLens.Shell

namespace Effect

/-- Writes what the name of a command stands for, in a sentence or with `brief` as it is called. -/
def describe (brief : Bool) (name : Chars) : Effect Nat := do
  let say (kind : String) : Effect Nat :=
    Builtin.print (name ++ (if brief then [] else kind.toList) ++ ['\n'])
  if Token.reservedWords.contains (String.ofList name) then say " is a shell keyword"
  else if ((← get).functions.lookup name).isSome then say " is a shell function"
  else if Builtin.isName name then
    say (if Builtin.special.contains (String.ofList name) then " is a special shell builtin"
      else " is a shell builtin")
  else
    let found (path : Chars) : Effect Nat :=
      Builtin.print ((if brief then [] else name ++ " is ".toList) ++ path ++ ['\n'])
    let missing : Effect Nat := do
      if !brief then let _ ← Builtin.print (name ++ ": not found\n".toList)
      return 127
    match ← find name with
    | .program path _ => found path
    | .missing => missing
    | .denied => if name.contains '/' then found name else missing

/-- Writes what each name stands for; fails if that is nothing. -/
def describeAll : List Chars → Effect Nat
  | [] => pure 0
  | name :: rest => do
    let status ← describe false name
    let others ← describeAll rest
    return if status = 0 then others else status

end Effect

end RouteLens.Shell
