import RouteLens.Shell.Pattern
import RouteLens.Shell.State

/-!
# Expansion

How words become the arguments of commands: parameters, outputs and arithmetic are put in place,
what they give is divided at separators unless it is quoted, and patterns become the names of files
that they fit.
-/

namespace RouteLens.Shell

/-- Where a character of an expanded word comes from. -/
inductive Origin
  | plain
  | quoted
  /-- An expansion outside of quotes, which may be divided. -/
  | expanded
  deriving DecidableEq, Repr

/-- A piece of an expanded word. -/
inductive Piece
  | char (c : Char) (origin : Origin)
  /-- The border of two arguments. -/
  | cut
  /-- Something that makes an argument even without characters. -/
  | mark

namespace Piece

/-- Characters that all come from the same. -/
def ofChars (origin : Origin) (chars : Chars) : List Piece :=
  chars.map (.char · origin)

/-- The pieces of an expansion. -/
def ofValue (quoted : Bool) (value : Chars) : List Piece :=
  if quoted then .mark :: ofChars .quoted value else ofChars .expanded value

/-- The characters of pieces, with blanks for borders. -/
def chars : List Piece → Chars
  | [] => []
  | .char c _ :: rest => c :: chars rest
  | .cut :: rest => ' ' :: chars rest
  | .mark :: rest => chars rest

/-- The characters of pieces, each with whether it is quoted. -/
def marked : List Piece → List (Char × Bool)
  | [] => []
  | .char c origin :: rest => (c, origin == .quoted) :: marked rest
  | .cut :: rest => (' ', false) :: marked rest
  | .mark :: rest => marked rest

/-- Divides pieces into arguments. `current` is the argument begun last, backwards, and `absorbs`
tells that it has been ended by a blank, so that a separator after it does not count again. -/
def fields (separators : Chars) (current : Option (List (Char × Bool))) (absorbs : Bool) :
    List Piece → List (List (Char × Bool))
  | [] => (current.map List.reverse).toList
  | .mark :: rest => fields separators (some (current.getD [])) false rest
  | .cut :: rest => (current.map List.reverse).toList ++ fields separators none false rest
  | .char c origin :: rest =>
    if origin = .expanded && separators.contains c then
      if " \t\n".toList.contains c then match current with
        | some field => field.reverse :: fields separators none true rest
        | none => fields separators none absorbs rest
      else if absorbs then fields separators none false rest
      else (current.getD []).reverse :: fields separators none false rest
    else fields separators (some ((c, origin == .quoted) :: current.getD [])) false rest

end Piece

/-- Whether a field has a character that makes it a pattern. -/
def isPattern (field : List (Char × Bool)) : Bool :=
  field.any fun (c, quoted) => !quoted && ['*', '?', '['].contains c

/-- The paths that start with `before` and go on as the names fit patterns, one for each name. -/
def matchingPaths (s : State) (before : Chars) : List (List (Char × Bool)) → List Chars
  | [] => [before]
  | name :: rest =>
    let path (next : Chars) : Chars := if rest.isEmpty then next else next ++ ['/']
    let found :=
      if isPattern name then
        let dir := if before.isEmpty then s.dir else Path.join s.dir (Chars.toBytes before)
        let names := match s.files.resolve dir with
          | .ok place => (s.files.children place).map Chars.ofBytes
          | .error _ => []
        let names :=
          if name.head?.map (·.1) == some '.' then ['.'] :: ['.', '.'] :: names
          else names.filter fun n => n.head? != some '.'
        let fitting := names.filter (Pattern.ofText name).fits
        (fitting.mergeSort (· ≤ ·)).map fun n => before ++ n
      else
        let next := before ++ name.map (·.1)
        let target := Path.join s.dir (Chars.toBytes next)
        let isThere :=
          if name.isEmpty then next.isEmpty || s.files.isDirectory target
          else s.files.pathExists target
        if isThere then [next] else []
    found.flatMap fun next => matchingPaths s (path next) rest

/-- The arguments that a field becomes: the names of files that it fits, or else itself. -/
def pathsOf (s : State) (field : List (Char × Bool)) : List Chars :=
  let itself := field.map (·.1)
  if s.has .noglob || !isPattern field then [itself]
  else match matchingPaths s [] (field.splitOnP fun (c, _) => c == '/') with
    | [] => [itself]
    | paths => paths

namespace Effect

/-- The value of a parameter as one text. -/
def parameter? (name : Chars) : Effect (Option Chars) := do
  let s ← get
  match name with
  | ['@'] => return some (List.intercalate [' '] s.args)
  | ['*'] =>
    let between := match (← valueOf? "IFS".toList) with
      | some separators => separators.take 1
      | none => [' ']
    return some (List.intercalate between s.args)
  | ['#'] => return some (Chars.ofInt s.args.length)
  | ['?'] => return some (Chars.ofInt s.status)
  | ['$'] => return some (Chars.ofInt processId)
  | ['!'] => return if s.jobs.isEmpty then none else some (Chars.ofInt (processId + s.jobs.length))
  | ['-'] => return some (Setting.letters s.settings)
  | ['0'] => return some s.name
  | _ =>
    if name.all Char.isDigit then
      return s.args[(Expression.digits 10 0 name).1 - 1]?
    else valueOf? name

/-- The value of an arithmetic expression. -/
def arithmetic (text : Chars) : Effect Int := do
  let s ← get
  let texts (name : Chars) : Chars := ((s.bindings.lookup name).bind Variable.value).getD []
  let result := do
    let expression ← Expression.read text
    expression.eval.run { texts }
  match result with
  | .ok (n, values) =>
    for (name, n) in values.assigned.reverse do assign name (Chars.ofInt n)
    return n
  | .error error => fatal (error.message text)

/-- The parts of a word that is kept as it is written. -/
def partsOf (reading : Reading) (text : Chars) : Effect Word := do
  match wordOf reading (← get).line text with
  | .ok parts => return parts
  | .error error => fatal ("Syntax error: " ++ error.message).toList

/-- The directory of a user; without a name, of the one whom the shell works for. -/
def homeOf? (user : Chars) : Effect (Option Chars) := do
  if user.isEmpty then valueOf? "HOME".toList
  else return if user == "root".toList then some "/root".toList else none

/-- A text without quotes with a directory in place of a tilde and a name that it starts with; the
name goes on behind the text unless that is the `last` of a word. A colon ends a name as a slash
does where there may be several paths. -/
def replaceTilde (paths last : Bool) (text : Chars) : Effect Word := do
  match text with
  | '~' :: rest =>
    let ends (c : Char) : Bool := c == '/' || (paths && c == ':')
    let after := rest.dropWhile (!ends ·)
    if after.isEmpty && !last then return [.text false text]
    else match ← homeOf? (rest.takeWhile (!ends ·)) with
      | some home => return [.text true home, .text false after]
      | none => return [.text false text]
  | _ => return [.text false text]

/-- A word with a directory in place of a tilde that it starts with. -/
def withHome (parts : Word) : Effect Word := do
  match parts with
  | .text false text :: others => return (← replaceTilde false others.isEmpty text) ++ others
  | _ => return parts

/-- A text without quotes with directories in place of tildes at the starts of paths that colons
divide. -/
def replaceTildes (last : Bool) (path : Chars) (text : Chars) : Effect Word :=
  match text with
  | [] => replaceTilde true last path.reverse
  | c :: rest => do
    if c == ':' then
      return (← replaceTilde true true path.reverse) ++ .text false [':'] ::
        (← replaceTildes last [] rest)
    else replaceTildes last (c :: path) rest

/-- The value of an assignment with directories in place of tildes. -/
def withHomes (isFirst : Bool) : Word → Effect Word
  | [] => pure []
  | .text false text :: others => do
    let parts ←
      if isFirst then replaceTildes others.isEmpty [] text
      else
        let paths := text.dropWhile (· != ':')
        let parts ← match paths with
          | c :: rest => do pure (.text false [c] :: (← replaceTildes others.isEmpty [] rest))
          | [] => pure []
        pure (.text false (text.takeWhile (· != ':')) :: parts)
    return parts ++ (← withHomes false others)
  | part :: others => do return part :: (← withHomes false others)

mutual

/-- Expands the parts of a word, with the outputs of scripts that start on a line as `output` gives
them. -/
def expand (output : Nat → Chars → Effect Chars) (fuel : Nat) (parts : Word) :
    Effect (List Piece) :=
  match fuel, parts with
  | 0, _ => pure []
  | _, [] => pure []
  | fuel + 1, part :: rest => do
    let pieces ← match part with
      | .text quoted chars =>
        pure (if quoted then .mark :: Piece.ofChars .quoted chars else Piece.ofChars .plain chars)
      | .parameter quoted name use => expandParameter output fuel quoted name use
      | .output quoted line script => pure (Piece.ofValue quoted (← output line script))
      | .arithmetic quoted text =>
        let pieces ← expand output fuel (← partsOf .document text)
        pure (Piece.ofValue quoted (Chars.ofInt (← arithmetic (Piece.chars pieces))))
    return pieces ++ (← expand output fuel rest)

/-- Expands a parameter. -/
def expandParameter (output : Nat → Chars → Effect Chars) (fuel : Nat) (quoted : Bool)
    (name : Chars) (use : ParameterUse) : Effect (List Piece) :=
  match fuel with
  | 0 => pure []
  | fuel + 1 => do
    let value ← parameter? name
    let lacks (orEmpty : Bool) : Bool := match value with
      | none => true
      | some text => orEmpty &&
          (text.isEmpty || ((name == ['@'] || name == ['*']) && text.all (· == ' ')))
    let word (text : Chars) : Effect (List Piece) := do
      let parts ← if quoted then partsOf .braces text else do withHome (← partsOf .whole text)
      let pieces ← expand output fuel parts
      return if quoted then pieces else pieces.map fun
        | .char c .plain => .char c .expanded
        | piece => piece
    let itself : Effect (List Piece) := do
      let each := (← get).args
      match quoted, name with
      | true, ['@'] => return (List.intercalate [.cut] (each.map (Piece.ofValue true)))
      | false, ['@'] => return (List.intercalate [.cut] (each.map (Piece.ofValue false)))
      | false, ['*'] => return (List.intercalate [.cut] (each.map (Piece.ofValue false)))
      | _, _ => return Piece.ofValue quoted (value.getD [])
    match use with
    | .value =>
      if value.isNone && (← get).has .nounset && name != ['!'] then
        fatal (name ++ ": parameter not set".toList)
      else itself
    | .length => return Piece.ofValue quoted (Chars.ofInt (value.getD []).length)
    | .default orEmpty text => if lacks orEmpty then word text else itself
    | .alternative orEmpty text =>
      if lacks orEmpty then return (if quoted then [.mark] else []) else word text
    | .assign orEmpty text =>
      if lacks orEmpty then
        if isName name then
          let value := Piece.chars (← word text)
          assign name value
          return Piece.ofValue quoted value
        else fatal (name ++ ": bad variable name".toList)
      else itself
    | .required orEmpty text =>
      if lacks orEmpty then
        let text := Piece.chars (← word text)
        let text :=
          if !text.isEmpty then text
          else if orEmpty then "parameter not set or null".toList
          else "parameter not set".toList
        fatal (name ++ ": ".toList ++ text)
      else itself
    | .trim atEnd longest text =>
      let parts ← withHome (← partsOf .whole text)
      let pattern := Pattern.ofText (Piece.marked (← expand output fuel parts))
      return Piece.ofValue quoted (pattern.trim atEnd longest (value.getD []))
    | .bad => fatal "Bad substitution".toList

end

/-- Expands a word into one text. -/
def expandText (output : Nat → Chars → Effect Chars) (fuel : Nat) (parts : Word) :
    Effect Chars := do
  return Piece.chars (← expand output fuel (← withHome parts))

/-- Expands the value of an assignment. -/
def expandValue (output : Nat → Chars → Effect Chars) (fuel : Nat) (parts : Word) :
    Effect Chars := do
  return Piece.chars (← expand output fuel (← withHomes true parts))

/-- Expands a word into a pattern. -/
def expandPattern (output : Nat → Chars → Effect Chars) (fuel : Nat) (parts : Word) :
    Effect Pattern := do
  return Pattern.ofText (Piece.marked (← expand output fuel (← withHome parts)))

/-- Expands words into arguments, behind those that there are already. Behind arguments
that `declares` tells to be those of a command that declares variables, an assignment becomes one
argument. -/
def expandFields (output : Nat → Chars → Effect Chars) (fuel : Nat)
    (declares : List Chars → Bool) (fields : List Chars) : List Word → Effect (List Chars)
  | [] => pure fields
  | word :: rest => do
    let found ← match declares fields, word.assignment? with
      | true, some (name, value) => do pure [name ++ '=' :: (← expandValue output fuel value)]
      | _, _ => do
        let pieces ← expand output fuel (← withHome word)
        let found := Piece.fields (← separators) none false pieces
        let s ← get
        pure (found.flatMap (pathsOf s))
    expandFields output fuel declares (fields ++ found) rest

end Effect

end RouteLens.Shell
