import RouteLens.Shell.Script

/-!
# Options of programs

How programs tell the options among their arguments from the operands. Options may stand anywhere
before a `--`: as letters behind one dash, or behind two as a name or the start of one.
-/

namespace RouteLens.Shell

/-- The options that a program knows: their letters, and the names of some of them. -/
structure Options where
  letters : Chars
  names : List (String × Char) := []

/-- What stands in arguments: the letters of the options, and the operands. -/
structure Arguments where
  options : Chars := []
  operands : List Chars := []
  deriving DecidableEq, Repr

namespace Options

/-- A text between apostrophes. -/
def quote (text : Chars) : Chars :=
  apostrophe :: text ++ [apostrophe]

/-- The letter of the option that is given by name, without the dashes before it. -/
def named (known : Options) (text : Chars) : Except Chars Char :=
  let name := text.takeWhile (· != '=')
  let fitting : List (String × Char) := match known.names.filter (·.1.toList == name) with
    | [] => known.names.filter fun (full, _) => name.isPrefixOf full.toList
    | exact => exact
  let dashed (text : Chars) : Chars := quote ('-' :: '-' :: text)
  match fitting with
  | [] => .error ("unrecognized option ".toList ++ dashed text)
  | [(full, letter)] =>
    if name.length = text.length then .ok letter
    else .error ("option ".toList ++ dashed full.toList ++ " doesn't allow an argument".toList)
  | many => .error ("option ".toList ++ dashed text ++ " is ambiguous; possibilities:".toList ++
      many.flatMap fun (full, _) => ' ' :: dashed full.toList)

/-- The options and operands in arguments, or what is wrong with the first wrong option. -/
def read (known : Options) : List Chars → Except Chars Arguments
  | [] => .ok {}
  | ['-', '-'] :: rest => .ok { operands := rest }
  | ('-' :: '-' :: name) :: rest => do
    let letter ← known.named name
    let others ← read known rest
    return { others with options := letter :: others.options }
  | ('-' :: c :: letters) :: rest =>
    match (c :: letters).find? fun d => !known.letters.contains d with
    | some d => .error ("invalid option -- ".toList ++ quote [d])
    | none => do
      let others ← read known rest
      return { others with options := c :: letters ++ others.options }
  | operand :: rest => do
    let others ← read known rest
    return { others with operands := operand :: others.operands }

end Options

end RouteLens.Shell
