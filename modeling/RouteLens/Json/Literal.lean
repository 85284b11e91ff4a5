import RouteLens.Text.Hex

/-!
# JSON texts

The grammar of RFC 8259 as a tree of literals. Numbers and strings stay as they are written, so the
tree holds every text the grammar allows, to any depth, before anyone asks what it denotes. Blanks
are space, tab, line feed and carriage return, and nothing but blanks may surround the one value of
a text.
-/

namespace RouteLens

/-- A JSON value as it is written: numbers and the insides of strings are kept as text. -/
inductive Literal
  | null
  | bool (value : Bool)
  | number (token : List Char)
  | string (raw : List Char)
  | array (items : List Literal)
  | object (members : List (List Char × Literal))

namespace Literal

/-- The blanks of the grammar. -/
def isSpace (c : Char) : Bool :=
  c == ' ' || c == '\t' || c == '\n' || c == '\r'

/-- The text after its leading blanks. -/
def skipSpace (text : List Char) : List Char :=
  text.dropWhile isSpace

/-- The characters that may follow a backslash by themselves. -/
def isEscape (c : Char) : Bool :=
  c ∈ ['"', '\\', '/', 'b', 'f', 'n', 'r', 't']

/-- Reads the inside of a string up to its closing quote, after the characters `done`, last first:
the inside and the text after the quote. -/
def readString (done : List Char) : List Char → Option (List Char × List Char)
  | [] => none
  | '"' :: rest => some (done.reverse, rest)
  | '\\' :: 'u' :: a :: b :: c :: d :: rest =>
    if Text.isHex a && Text.isHex b && Text.isHex c && Text.isHex d then
      readString (d :: c :: b :: a :: 'u' :: '\\' :: done) rest
    else none
  | '\\' :: e :: rest => if isEscape e then readString (e :: '\\' :: done) rest else none
  | c :: rest => if ' ' ≤ c && c ≠ '\\' then readString (c :: done) rest else none

/-- Splits off a non-empty run of digits. -/
def readDigits (text : List Char) : Option (List Char × List Char) :=
  match text.takeWhile Char.isDigit with
  | [] => none
  | digits => some (digits, text.dropWhile Char.isDigit)

/-- Splits off the whole part of a number: zero, or digits that do not start with zero. -/
def readWhole (text : List Char) : Option (List Char × List Char) :=
  match readDigits text with
  | some ('0' :: _ :: _, _) => none
  | result => result

/-- Splits off the fraction of a number, if there is one. -/
def readFraction (text : List Char) : Option (List Char × List Char) :=
  match text with
  | '.' :: rest => (readDigits rest).map fun (digits, rest) => ('.' :: digits, rest)
  | _ => some ([], text)

/-- Splits off the sign of a number or an exponent, if there is one. -/
def readSign (signs : List Char) (text : List Char) : List Char × List Char :=
  match text with
  | c :: rest => if c ∈ signs then ([c], rest) else ([], text)
  | [] => ([], [])

/-- Splits off the exponent of a number, if there is one. -/
def readExponent (text : List Char) : Option (List Char × List Char) :=
  match text with
  | c :: rest =>
    if c == 'e' || c == 'E' then
      let (sign, rest) := readSign ['+', '-'] rest
      (readDigits rest).map fun (digits, rest) => (c :: sign ++ digits, rest)
    else some ([], text)
  | [] => some ([], [])

/-- Splits off a number. -/
def readNumber (text : List Char) : Option (List Char × List Char) :=
  let (sign, rest) := readSign ['-'] text
  match readWhole rest with
  | none => none
  | some (whole, rest) => match readFraction rest with
    | none => none
    | some (fraction, rest) => match readExponent rest with
      | none => none
      | some (exponent, rest) => some (sign ++ whole ++ fraction ++ exponent, rest)

/-- Reads a quoted string after blanks, and the text after it. -/
def readKey (text : List Char) : Option (List Char × List Char) :=
  match skipSpace text with
  | '"' :: rest => readString [] rest
  | _ => none

mutual

/-- Reads one value after blanks, and the text after it, in at most `fuel` steps. -/
def readValue (fuel : Nat) (text : List Char) : Option (Literal × List Char) :=
  match fuel with
  | 0 => none
  | fuel + 1 => match skipSpace text with
    | 'n' :: 'u' :: 'l' :: 'l' :: rest => some (.null, rest)
    | 't' :: 'r' :: 'u' :: 'e' :: rest => some (.bool true, rest)
    | 'f' :: 'a' :: 'l' :: 's' :: 'e' :: rest => some (.bool false, rest)
    | '"' :: rest => (readString [] rest).map fun (raw, rest) => (.string raw, rest)
    | '[' :: rest => match skipSpace rest with
      | ']' :: rest => some (.array [], rest)
      | _ => (readItems fuel rest).map fun (items, rest) => (.array items, rest)
    | '{' :: rest => match skipSpace rest with
      | '}' :: rest => some (.object [], rest)
      | _ => (readMembers fuel rest).map fun (members, rest) => (.object members, rest)
    | text => (readNumber text).map fun (token, rest) => (.number token, rest)

/-- Reads values with commas between them up to a closing bracket. -/
def readItems (fuel : Nat) (text : List Char) : Option (List Literal × List Char) :=
  match fuel with
  | 0 => none
  | fuel + 1 => match readValue fuel text with
    | none => none
    | some (item, rest) => match skipSpace rest with
      | ']' :: rest => some ([item], rest)
      | ',' :: rest => (readItems fuel rest).map fun (items, rest) => (item :: items, rest)
      | _ => none

/-- Reads keys and values with commas between them up to a closing brace. -/
def readMembers (fuel : Nat) (text : List Char) :
    Option (List (List Char × Literal) × List Char) :=
  match fuel with
  | 0 => none
  | fuel + 1 => match readKey text with
    | none => none
    | some (key, rest) => match skipSpace rest with
      | ':' :: rest => match readValue fuel rest with
        | none => none
        | some (value, rest) => match skipSpace rest with
          | '}' :: rest => some ([(key, value)], rest)
          | ',' :: rest =>
            (readMembers fuel rest).map fun (members, rest) => ((key, value) :: members, rest)
          | _ => none
      | _ => none

end

/-- The literal that a text is, if it is one JSON value with blanks around it. -/
def parse (text : List Char) : Option Literal :=
  match readValue (2 * text.length + 1) text with
  | some (literal, rest) => if (skipSpace rest).isEmpty then some literal else none
  | none => none

mutual

/-- How many containers stand inside one another at most. -/
def depth : Literal → Nat
  | .array items => itemsDepth items + 1
  | .object members => membersDepth members + 1
  | _ => 0

/-- The greatest depth among items. -/
def itemsDepth : List Literal → Nat
  | [] => 0
  | item :: rest => max (depth item) (itemsDepth rest)

/-- The greatest depth among the values of members. -/
def membersDepth : List (List Char × Literal) → Nat
  | [] => 0
  | (_, value) :: rest => max (depth value) (membersDepth rest)

end

mutual

/-- The text of a literal, without blanks. -/
def render : Literal → List Char
  | .null => ['n', 'u', 'l', 'l']
  | .bool true => ['t', 'r', 'u', 'e']
  | .bool false => ['f', 'a', 'l', 's', 'e']
  | .number token => token
  | .string raw => '"' :: raw ++ ['"']
  | .array items => '[' :: renderItems items ++ [']']
  | .object members => '{' :: renderMembers members ++ ['}']

/-- The texts of values with commas between them. -/
def renderItems : List Literal → List Char
  | [] => []
  | [item] => render item
  | item :: rest => render item ++ ',' :: renderItems rest

/-- The texts of keys and values with commas between them. -/
def renderMembers : List (List Char × Literal) → List Char
  | [] => []
  | [(key, value)] => '"' :: key ++ '"' :: ':' :: render value
  | (key, value) :: rest =>
    '"' :: key ++ '"' :: ':' :: render value ++ ',' :: renderMembers rest

end

end Literal

end RouteLens
