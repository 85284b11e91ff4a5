import RouteLens.Json.Literal

/-!
# Strings of JSON texts

What the inside of a quoted string denotes, and how a text is written inside quotes. Reading takes
a pair of surrogate escapes for one character and refuses a surrogate that stands alone; writing
escapes the quote, the backslash and the control characters, and nothing else.
-/

namespace RouteLens.Escape

/-- The number that four hexadecimal digits spell. -/
def hexUnit? (a b c d : Char) : Option Nat := do
  let a ← Text.hexValue? a
  let b ← Text.hexValue? b
  let c ← Text.hexValue? c
  let d ← Text.hexValue? d
  some (((a * 16 + b) * 16 + c) * 16 + d)

/-- Whether a UTF-16 unit is the first half of a pair. -/
def isHighSurrogate (unit : Nat) : Bool :=
  0xd800 ≤ unit && unit ≤ 0xdbff

/-- Whether a UTF-16 unit is the second half of a pair. -/
def isLowSurrogate (unit : Nat) : Bool :=
  0xdc00 ≤ unit && unit ≤ 0xdfff

/-- The character of a pair of surrogates. -/
def pairedChar (high low : Nat) : Char :=
  Char.ofNat (0x10000 + (high - 0xd800) * 0x400 + (low - 0xdc00))

/-- The character that stands for a short escape. -/
def shortEscape? : Char → Option Char
  | '"' => some '"'
  | '\\' => some '\\'
  | '/' => some '/'
  | 'b' => some '\x08'
  | 'f' => some '\x0c'
  | 'n' => some '\n'
  | 'r' => some '\r'
  | 't' => some '\t'
  | _ => none

/-- The text that the inside of a string denotes, after the characters `done`, last first. -/
def decodeFrom (done : List Char) : List Char → Option (List Char)
  | [] => some done.reverse
  | '\\' :: 'u' :: a :: b :: c :: d :: rest =>
    match hexUnit? a b c d with
    | none => none
    | some unit =>
      if isLowSurrogate unit then none
      else if isHighSurrogate unit then
        match rest with
        | '\\' :: 'u' :: a :: b :: c :: d :: rest =>
          match hexUnit? a b c d with
          | none => none
          | some low =>
            if isLowSurrogate low then decodeFrom (pairedChar unit low :: done) rest else none
        | _ => none
      else decodeFrom (Char.ofNat unit :: done) rest
  | '\\' :: e :: rest =>
    match shortEscape? e with
    | none => none
    | some c => decodeFrom (c :: done) rest
  | c :: rest => if c = '\\' then none else decodeFrom (c :: done) rest

/-- The text that the inside of a string denotes. -/
def decode? (raw : List Char) : Option (List Char) :=
  decodeFrom [] raw

/-- How a character is written inside quotes. -/
def encodeChar (c : Char) : List Char :=
  if c = '"' then ['\\', '"']
  else if c = '\\' then ['\\', '\\']
  else if c = '\x08' then ['\\', 'b']
  else if c = '\x0c' then ['\\', 'f']
  else if c = '\n' then ['\\', 'n']
  else if c = '\r' then ['\\', 'r']
  else if c = '\t' then ['\\', 't']
  else if c < ' ' then ['\\', 'u', '0', '0', Text.hexDigit (c.toNat / 16), Text.hexDigit (c.toNat % 16)]
  else [c]

/-- How a text is written inside quotes. -/
def encode (text : List Char) : List Char :=
  text.flatMap encodeChar

end RouteLens.Escape
