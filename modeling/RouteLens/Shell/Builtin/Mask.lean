import RouteLens.Shell.Builtin.Basic
import RouteLens.Shell.Format

/-!
# Permissions of new files

The command `umask`: the permissions that new files do not get, in octal digits, or those that they
do get, in letters.
-/

namespace RouteLens.Shell

namespace Builtin

open Effect

/-- The users whose permissions are told apart, and how far to the left theirs stand. -/
def users : List (Char × Nat) :=
  [('u', 6), ('g', 3), ('o', 0)]

/-- The permissions by letter. -/
def permissions : List (Char × Nat) :=
  [('r', 4), ('w', 2), ('x', 1)]

/-- The permissions that a mask leaves, in letters. -/
def maskLetters (mask : Nat) : Chars :=
  List.intercalate [','] (users.map fun (user, shift) =>
    user :: '=' :: permissions.filterMap fun (letter, bit) =>
      if (mask >>> shift) &&& bit = 0 then some letter else none)

/-- A mask in four octal digits. -/
def maskDigits (mask : Nat) : Chars :=
  let digits := Nat.toDigits 8 mask
  List.replicate (4 - digits.length) '0' ++ digits

/-- The permissions that are left after a change of those of some users. -/
def changePermissions (sign : Char) (shifts : List Nat) (bits granted : Nat) : Nat :=
  shifts.foldl (fun granted shift =>
    let others := granted - (granted &&& (7 <<< shift))
    let own := (granted >>> shift) &&& 7
    let next := match sign with
      | '+' => own ||| bits
      | '-' => own - (own &&& bits)
      | _ => bits
    others + (next <<< shift)) granted

/-- The permissions that are left after the changes that a sign and those behind it ask for. -/
def changeEach (fuel : Nat) (shifts : List Nat) (granted : Nat) (text : Chars) : Option Nat :=
  match fuel, text with
  | 0, _ => none
  | _, [] => some granted
  | fuel + 1, sign :: rest =>
    if ['+', '-', '='].contains sign then
      let isLetter (c : Char) : Bool := (permissions.lookup c).isSome
      let bits := ((rest.takeWhile isLetter).filterMap fun c => permissions.lookup c).foldl (· ||| ·) 0
      changeEach fuel shifts (changePermissions sign shifts bits granted)
        (rest.dropWhile isLetter)
    else none

/-- The permissions that are left after changes by letters. -/
def changeAll (granted : Nat) (text : Chars) : Option Nat :=
  (text.splitOn ',').foldlM (fun granted clause =>
    let isUser (c : Char) : Bool := c == 'a' || (users.lookup c).isSome
    let who := clause.takeWhile isUser
    let changes := clause.dropWhile isUser
    let shifts := if who.isEmpty || who.contains 'a' then users.map (·.2)
      else users.filterMap fun (user, shift) => if who.contains user then some shift else none
    changeEach (changes.length + 1) shifts granted changes) granted

/-- Writes or changes which permissions new files get. -/
def umask (args : List Chars) : Effect Nat := do
  let (options, operands) ← takeOptions "S" args
  let s ← get
  match operands with
  | [] => print ((if gives 'S' options then maskLetters s.mask else maskDigits s.mask) ++ ['\n'])
  | text :: _ =>
    if (text.head?.map Char.isDigit).getD false then
      if text.all isOctal then
        set { s with mask := (Expression.digits 8 0 text).1 % 0x200 }
        return 0
      else fatal ("Illegal number: ".toList ++ text)
    else match changeAll (0x1ff - s.mask) text with
      | some granted =>
        set { s with mask := 0x1ff - granted }
        return 0
      | none => fatal ("Illegal mode: ".toList ++ text)

end Builtin

end RouteLens.Shell
