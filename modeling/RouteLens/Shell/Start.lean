import RouteLens.Shell.Builtin.Parameters
import RouteLens.Shell.Redirect

/-!
# The start of a shell

What a shell makes of its arguments before it carries out its script: settings, the name of the
script and its arguments, and where the script comes from.
-/

namespace RouteLens.Shell

/-- A script, and whether it is read from somewhere rather than given as an argument. -/
structure Opening where
  script : Chars
  isRead : Bool

namespace Effect

/-- Forgets what a shell that is started does not get from the one that starts it. -/
def renew (name : Chars) : Effect Unit := do
  modify fun s => { s with
    name
    args := []
    line := 0
    status := 0
    functions := []
    jobs := []
    traps := []
    interrupted := none
    frames := []
    loops := 0
    reached := 1
    command := []
    bindings := s.bindings.filter (·.2.exported)
    settings := []
    place := {} }
  assign "PWD".toList (Chars.ofBytes (← get).dir)
  for (name, value) in [("IFS", " \t\n"), ("OPTIND", "1"), ("PS1", "# "), ("PS2", "> "),
      ("PS4", "+ "), ("PPID", toString (processId - 1))] do
    putVariable name.toList (some { value := some value.toList })

/-- The script that comes in through the first descriptor. -/
def standardScript : Effect Opening := do
  return ⟨(← readAll 0).getD [], true⟩

/-- The script in a file, which gives the shell its name. -/
def fileScript (name : Chars) (args : List Chars) : Effect Opening := do
  let s ← get
  match s.files.resolve (← pathOf name) with
  | .ok place =>
    set { s with name, args }
    return ⟨(← contentAt place).getD [], true⟩
  | .error _ =>
    let _ ← complainOpening false name .noEntry
    throw .failed

/-- Begins the script of a shell that is called by a name, once its settings, its own name and its
arguments are set. -/
def begin (called : Chars) (args : List Chars) : Effect Opening := do
  renew called
  let result ← Builtin.switchAll (args.length + 1) true { args }
  match result.takesScript, result.args with
  | true, [] => fatal "-c requires an argument".toList
  | true, script :: operands =>
    modify fun s => { s with name := operands.head?.getD s.name, args := operands.drop 1 }
    if (← get).has .stdin then
      return ⟨script ++ '\n' :: (← standardScript).script, false⟩
    else return ⟨script, false⟩
  | false, [] =>
    Builtin.switch true .stdin
    standardScript
  | false, name :: operands =>
    if (← get).has .stdin then
      modify fun s => { s with args := name :: operands }
      standardScript
    else fileScript name operands

end Effect

end RouteLens.Shell
