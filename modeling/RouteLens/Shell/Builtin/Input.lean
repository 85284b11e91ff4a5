import RouteLens.Shell.Builtin.Basic
import RouteLens.Shell.Word

/-!
# Reading lines into variables

The command `read`. A backslash at the end of a line joins it with the next one, and before any other
character lets that mean itself.
-/

namespace RouteLens.Shell

namespace Builtin

open Effect

/-- A character of a line, and whether a backslash stood before it. -/
structure Marked where
  char : Char
  escaped : Bool

/-- Reads a line whose backslashes have a meaning, and the lines that it goes on with: its characters
and whether it has an end. -/
def readMarked (fuel : Nat) : Effect (List Marked × Bool) :=
  match fuel with
  | 0 => return ([], false)
  | fuel + 1 => do
    let (line, ended) ← readLine 0
    let (marked, goesOn) := marks line
    if goesOn && ended then
      let (rest, ended) ← readMarked fuel
      return (marked ++ rest, ended)
    else return (marked, ended)
where
  /-- The characters of a line, and whether a backslash is left at its end. -/
  marks : Chars → List Marked × Bool
    | [] => ([], false)
    | [c] => if c == backslash then ([], true) else ([⟨c, false⟩], false)
    | c :: d :: rest =>
      if c == backslash then
        let (others, goesOn) := marks rest
        (⟨d, true⟩ :: others, goesOn)
      else
        let (others, goesOn) := marks (d :: rest)
        (⟨c, false⟩ :: others, goesOn)

/-- How far the division of a line has come. -/
structure Division where
  /-- How many more fields may end. -/
  left : Nat
  /-- The field begun last, backwards. -/
  field : Chars := []
  /-- Where all that follows belongs to the last field: what it is if only separators follow. -/
  cut : Option Chars := none
  /-- Whether the separators that have been met last were blanks. -/
  spaced : Bool := false

/-- Divides a line into fields at separators. The last field takes all that is left; separators at
its end belong to it only if there is more than a single one that is no blank. -/
def divide (separators : Chars) (d : Division) : List Marked → List Chars
  | [] =>
    let last := d.cut.getD d.field
    if last.isEmpty then [] else [last.reverse]
  | ⟨c, escaped⟩ :: rest =>
    let isSeparator := separators.contains c
    let isBlank := isSeparator && " \t\n".toList.contains c
    let longer : Division := { d with field := c :: d.field }
    if escaped then divide separators { longer with spaced := false } rest
    else if d.left = 0 then
      if isBlank then divide separators { longer with cut := some (d.cut.getD d.field) } rest
      else
        let cut := if isSeparator && d.spaced then d.cut else none
        divide separators { longer with cut, spaced := false } rest
    else if d.spaced then
      if isBlank then divide separators { d with field := [] } rest
      else
        divide separators { d with field := if isSeparator then [] else [c], spaced := false } rest
    else if !isSeparator then divide separators longer rest
    else if isBlank && d.field.isEmpty then divide separators d rest
    else if d.left = 1 then
      divide separators { longer with left := 0, cut := some d.field, spaced := isBlank } rest
    else
      d.field.reverse ::
        divide separators { d with left := d.left - 1, field := [], spaced := isBlank } rest

/-- Gives the fields of a line to variables; those without a field become empty. -/
def assignFields : List Chars → List Chars → Effect Unit
  | [], _ => return
  | name :: names, fields => do
    if !isName name then fatal (name ++ ": bad variable name".toList)
    assign name (fields.head?.getD [])
    assignFields names fields.tail

/-- Reads a line into variables. -/
def read (args : List Chars) : Effect Nat := do
  let (options, names) ← takeOptions "p:r" args
  if names.isEmpty then fatal "arg count".toList
  else
    let separators ← separators
    let (marked, ended) ←
      if gives 'r' options then do
        let (line, ended) ← readLine 0
        pure (line.map fun c => ⟨c, false⟩, ended)
      else readMarked 0x10000
    let marked := marked.filter (·.char != '\x00')
    assignFields names (divide separators { left := names.length } marked)
    return if ended then 0 else 1

end Builtin

end RouteLens.Shell
