import RouteLens.Shell.Builtin.Basic
import RouteLens.Shell.Quote
import RouteLens.Shell.Word

/-!
# Variables of a shell

The commands that mark variables, list them, remove them, and make them local to a function.
-/

namespace RouteLens.Shell

namespace Builtin

open Effect

/-- A list of variables in the order of their names, as commands that give them their values. -/
def variableListing (command : Chars) (bindings : List (Chars × Variable)) : Chars :=
  (bindings.mergeSort fun a b => !decide (b.1 < a.1)).flatMap fun (name, v) =>
    command ++ (if command.isEmpty then [] else [' ']) ++ name ++ (match v.value with
      | some value => '=' :: Quote.parts value
      | none => []) ++ ['\n']

/-- A name and, behind an equality sign, a value. -/
def splitValue (arg : Chars) : Chars × Option Chars :=
  match arg.dropWhile (· != '=') with
  | _ :: value => (arg.takeWhile (· != '='), some value)
  | [] => (arg, none)

/-- Complains about what is no name. -/
def checkName (name : Chars) : Effect Unit := do
  if !isName name then fatal (name ++ ": bad variable name".toList)

/-- Marks variables, and gives values to those that come with one. -/
def markAll (f : Variable → Variable) : List Chars → Effect Nat
  | [] => pure 0
  | arg :: rest => do
    let (name, value) := splitValue arg
    checkName name
    match value with
    | some value => assign name value
    | none => pure ()
    putVariable name (some (f (((← get).bindings.lookup name).getD { value := none })))
    markAll f rest

/-- Marks variables; without any, lists those that are marked. -/
def mark (isMarked : Variable → Bool) (f : Variable → Variable) (args : List Chars) :
    Effect Nat := do
  let (options, operands) ← takeOptions "p" args
  let s ← get
  if gives 'p' options || operands.isEmpty then
    print (variableListing s.command (s.bindings.filter fun (_, v) => isMarked v))
  else markAll f operands

/-- Marks variables so that programs find them. -/
def exportAll (args : List Chars) : Effect Nat :=
  mark (·.exported) (fun v => { v with exported := true }) args

/-- Marks variables so that they keep their values. -/
def protect (args : List Chars) : Effect Nat :=
  mark (·.readOnly) (fun v => { v with readOnly := true }) args

/-- Removes variables. -/
def removeAll : List Chars → Effect Nat
  | [] => pure 0
  | name :: rest => do
    checkName name
    if (((← get).bindings.lookup name).map Variable.readOnly).getD false then
      fatal (name ++ ": is read only".toList)
    else
      putVariable name none
      removeAll rest

/-- Removes variables, or with `-f` functions. -/
def unset (args : List Chars) : Effect Nat := do
  let (options, names) ← takeOptions "vf" args
  if (options.getLast?.map (·.letter)) == some 'f' then
    modify fun s => { s with functions := s.functions.filter fun f => !names.contains f.1 }
    return 0
  else removeAll names

/-- Keeps what is to be put back at the end of the function under way. -/
def keep (f : Frame → Frame) : Effect Unit :=
  modify fun s => match s.frames with
    | [] => s
    | frame :: outer => { s with frames := f frame :: outer }

/-- Makes variables, and for a dash the settings, local to the function under way. -/
def makeEachLocal : List Chars → Effect Nat
  | [] => pure 0
  | ['-'] :: rest => do
    let settings := (← get).settings
    keep fun frame => { frame with settings := some (frame.settings.getD settings) }
    makeEachLocal rest
  | arg :: rest => do
    let (name, value) := splitValue arg
    checkName name
    let before := (← get).bindings.lookup name
    keep fun frame => { frame with bindings := (name, before) :: frame.bindings }
    match value with
    | some value => assign name value
    | none => pure ()
    makeEachLocal rest

/-- Makes variables local to the function under way. -/
def makeLocal (args : List Chars) : Effect Nat := do
  match (← get).frames with
  | [] => fatal "not in a function".toList
  | _ :: _ => makeEachLocal (← takeOptions "" args).2

end Builtin

end RouteLens.Shell
