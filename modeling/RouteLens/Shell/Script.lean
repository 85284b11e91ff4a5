import RouteLens.Text.Utf8

/-!
# Scripts

The statements of shell scripts and the words in them. Scripts work on octets: the characters of
this part of the library are the octets with their values, U+0000 to U+00FF. It serves to run the
library only, as the launcher `Shell.launch`; nothing is proved of it.
-/

namespace RouteLens.Shell

/-- Octets as characters. -/
abbrev Chars := List Char

namespace Chars

/-- Octets as characters with their values. -/
def ofBytes (bytes : Bytes) : Chars :=
  bytes.map fun b => Char.ofNat b.toNat

/-- The octets that characters stand for. -/
def toBytes (chars : Chars) : Bytes :=
  chars.map fun c => UInt8.ofNat c.toNat

/-- The octets of a string as characters. -/
def ofString (text : String) : Chars :=
  ofBytes (Utf8.encodeString text)

/-- The decimal digits of a number. -/
def ofInt (n : Int) : Chars :=
  (toString n).toList

end Chars

/-- The apostrophe, which quotes everything up to the next one. -/
def apostrophe : Char := Char.ofNat 0x27

/-- The quotation mark. -/
def quotation : Char := Char.ofNat 0x22

/-- The grave accent, which stands around the script of an output in its old form. -/
def grave : Char := Char.ofNat 0x60

/-- The backslash. -/
def backslash : Char := Char.ofNat 0x5c

/-- What a parameter is used for. The words of a use are kept as they are written. -/
inductive ParameterUse
  | value
  | length
  /-- A word where the parameter has no value; with `orEmpty`, nor an empty one. -/
  | default (orEmpty : Bool) (word : Chars)
  /-- A word that becomes the value where there is none. -/
  | assign (orEmpty : Bool) (word : Chars)
  /-- A word where the parameter has a value. -/
  | alternative (orEmpty : Bool) (word : Chars)
  /-- The end of the script, with a word to say, where there is no value. -/
  | required (orEmpty : Bool) (word : Chars)
  /-- The value without a start or an end that fits a pattern. -/
  | trim (atEnd longest : Bool) (pattern : Chars)
  /-- No use that has a meaning. -/
  | bad

/-- A part of a word. Scripts and expressions in it are kept as they are written. -/
inductive Part
  | text (quoted : Bool) (chars : Chars)
  | parameter (quoted : Bool) (name : Chars) (use : ParameterUse)
  /-- The output of a script, and the line that it starts on. -/
  | output (quoted : Bool) (line : Nat) (script : Chars)
  | arithmetic (quoted : Bool) (expression : Chars)

/-- A word: parts that stand together. -/
abbrev Word := List Part

namespace Word

/-- The characters of a word without any quotes and expansions. -/
def plain? : Word → Option Chars
  | [.text false chars] => some chars
  | _ => none

/-- Whether a part of the word is quoted. -/
def hasQuotes (word : Word) : Bool :=
  word.any fun
    | .text quoted _ => quoted
    | .parameter quoted _ _ => quoted
    | .output quoted _ _ => quoted
    | .arithmetic quoted _ => quoted

end Word

/-- Where a redirection leads. -/
inductive Target
  | read (word : Word)
  | write (word : Word)
  /-- A file even if it is there and files are not to be overwritten. -/
  | overwrite (word : Word)
  | append (word : Word)
  | readWrite (word : Word)
  /-- Another descriptor, or none. -/
  | duplicate (word : Word)
  /-- A text within the script. -/
  | document (text : Word)

/-- A redirection of a descriptor. -/
structure Redirection where
  descriptor : Nat
  target : Target

/-- A statement. -/
inductive Statement
  | empty
  | simple (line : Nat) (assignments : List (Chars × Word)) (words : List Word)
      (redirections : List Redirection)
  | pipeline (stages : List Statement)
  | negation (body : Statement)
  | both (first second : Statement)
  | either (first second : Statement)
  | sequence (first second : Statement)
  | background (body : Statement)
  | subshell (body : Statement)
  | choice (test yes no : Statement)
  /-- A loop as long as the test succeeds, or with `untilTrue` as long as it fails. -/
  | loop (untilTrue : Bool) (test body : Statement)
  /-- A loop over words, or over the arguments. -/
  | forEach (name : Chars) (words : Option (List Word)) (body : Statement)
  | select (subject : Word) (arms : List (List Word × Statement))
  | function (name : Chars) (body : Statement)
  | redirected (line : Nat) (body : Statement) (redirections : List Redirection)

/-- Why a script cannot be read. -/
inductive ScriptError
  | unterminatedQuote
  | unterminatedGrave
  | missingBrace
  | missingParentheses
  | badFunctionName
  | badLoopVariable
  /-- Something stands where it cannot stand, and something else may have been expected. -/
  | unexpected (found : String) (expected : Option String)
  deriving DecidableEq, Repr

namespace ScriptError

/-- The wording of an error. -/
def message : ScriptError → String
  | unterminatedQuote => "Unterminated quoted string"
  | unterminatedGrave => "EOF in backquote substitution"
  | missingBrace => "Missing '\x7d'"
  | missingParentheses => "Missing '))'"
  | badFunctionName => "Bad function name"
  | badLoopVariable => "Bad for loop variable"
  | unexpected found none => found ++ " unexpected"
  | unexpected found (some expected) => found ++ " unexpected (expecting " ++ expected ++ ")"

end ScriptError

end RouteLens.Shell
