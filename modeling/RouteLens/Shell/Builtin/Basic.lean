import RouteLens.Shell.State

/-!
# Arguments of commands

What the commands of the shell itself have in common: numbers and options among their arguments,
and how they say something.
-/

namespace RouteLens.Shell

namespace Builtin

open Effect

/-- The number that an argument is, if it is not negative and fits into 32 bits. -/
def number (text : Chars) : Effect Nat := do
  match Expression.decimal? text with
  | some n =>
    if 0 ≤ n && n < 0x80000000 then return n.toNat
    else fatal ("Illegal number: ".toList ++ text)
  | none => fatal ("Illegal number: ".toList ++ text)

/-- The status that a command takes as its argument, or else that of the last command. -/
def statusArgument (args : List Chars) : Effect Nat := do
  match args with
  | [] => return (← get).status
  | arg :: _ => number arg

/-- Writes what a command has to say; fails with a complaint if that is not possible. -/
def print (text : Chars) : Effect Nat := do
  if text.isEmpty then return 0
  else if ← write 1 text then return 0
  else
    complain ((← get).command ++ ": I/O error".toList)
    return 1

/-- An option of a command, with its argument if it takes one. -/
structure Given where
  letter : Char
  argument : Chars := []
  deriving DecidableEq, Repr

/-- Reads letters behind a dash, where colons stand behind the letters in `known` that take an
argument: the options, and the letter whose argument is still to come. -/
def readLetters (known : Chars) : Chars → Except Chars (List Given × Option Char)
  | [] => .ok ([], none)
  | letter :: rest =>
    match known.dropWhile (· != letter) with
    | [] => .error ("Illegal option -".toList ++ [letter])
    | _ :: ':' :: _ =>
      if rest.isEmpty then .ok ([], some letter) else .ok ([⟨letter, rest⟩], none)
    | _ => do
      let (others, waiting) ← readLetters known rest
      return (⟨letter, []⟩ :: others, waiting)

/-- Reads the options that stand before the operands: the options, and the operands. -/
def readOptions (known : Chars) : List Chars → Except Chars (List Given × List Chars)
  | ['-', '-'] :: rest => .ok ([], rest)
  | ('-' :: c :: letters) :: rest => do
    let (options, waiting) ← readLetters known (c :: letters)
    match waiting, rest with
    | none, rest =>
      let (others, operands) ← readOptions known rest
      return (options ++ others, operands)
    | some letter, argument :: rest =>
      let (others, operands) ← readOptions known rest
      return (options ++ ⟨letter, argument⟩ :: others, operands)
    | some letter, [] => .error ("No arg for -".toList ++ letter :: " option".toList)
  | operands => .ok ([], operands)

/-- Takes the options that stand before the operands, or complains about them. -/
def takeOptions (known : String) (args : List Chars) : Effect (List Given × List Chars) := do
  match readOptions known.toList args with
  | .ok result => return result
  | .error text => fatal text

/-- Whether a letter is among options. -/
def gives (letter : Char) (options : List Given) : Bool :=
  options.any (·.letter == letter)

end Builtin

end RouteLens.Shell
