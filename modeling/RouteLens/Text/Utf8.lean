/-!
# UTF-8

Encoding of characters as octets, and decoding with the exact place where a sequence of octets
stops being UTF-8. A fault covers the longest start of a character that the octets still agree
with, and at least one octet; it has no width when the octets end inside a character.
-/

namespace RouteLens

/-- A sequence of octets: file contents, paths and the output of programs. -/
abbrev Bytes := List UInt8

namespace Utf8

/-- The octets of a text. -/
def encode (text : List Char) : Bytes :=
  text.flatMap String.utf8EncodeChar

/-- The octets of a string. -/
def encodeString (text : String) : Bytes :=
  encode text.toList

/-- What must follow a first octet: the bits it contributes, and the range of each later octet. -/
structure Lead where
  bits : Nat
  tails : List (UInt8 × UInt8)

/-- The range of an octet that continues a character. -/
def tail : UInt8 × UInt8 := (0x80, 0xbf)

/-- The first octets of characters of more than one octet. -/
def lead? (b : UInt8) : Option Lead :=
  if b < 0xc2 then none
  else if b ≤ 0xdf then some ⟨b.toNat % 0x20, [tail]⟩
  else if b = 0xe0 then some ⟨0, [(0xa0, 0xbf), tail]⟩
  else if b = 0xed then some ⟨0xd, [(0x80, 0x9f), tail]⟩
  else if b ≤ 0xef then some ⟨b.toNat % 0x10, [tail, tail]⟩
  else if b = 0xf0 then some ⟨0, [(0x90, 0xbf), tail, tail]⟩
  else if b ≤ 0xf3 then some ⟨b.toNat % 0x8, [tail, tail, tail]⟩
  else if b = 0xf4 then some ⟨4, [(0x80, 0x8f), tail, tail]⟩
  else none

/-- How the octets after a first octet go on. -/
inductive Tails
  /-- All are there; the value of the character. -/
  | complete (value : Nat)
  /-- So many are there, and the next octet cannot follow. -/
  | broken (matched : Nat)
  /-- The octets end here. -/
  | cut

/-- Reads the octets after a first octet, against the ranges they must lie in. -/
def readTails (value matched : Nat) : List (UInt8 × UInt8) → Bytes → Tails
  | [], _ => .complete value
  | _ :: _, [] => .cut
  | (low, high) :: ranges, b :: rest =>
    if low ≤ b ∧ b ≤ high then readTails (value * 0x40 + b.toNat % 0x40) (matched + 1) ranges rest
    else .broken matched

/-- What stands at the start of a non-empty sequence of octets. -/
inductive Head
  /-- A character of so many octets. -/
  | char (c : Char) (width : Nat)
  /-- No character; `width` octets belong together, `none` when the octets end too early. -/
  | fault (width : Option Nat)

/-- The start of a sequence of octets: its first octet, and those after it. -/
def head (b : UInt8) (rest : Bytes) : Head :=
  if b < 0x80 then .char (Char.ofNat b.toNat) 1
  else match lead? b with
    | none => .fault (some 1)
    | some lead => match readTails lead.bits 1 lead.tails rest with
      | .complete value => .char (Char.ofNat value) (lead.tails.length + 1)
      | .broken matched => .fault (some matched)
      | .cut => .fault none

/-- The first place where octets are not UTF-8. -/
structure Fault where
  index : Nat
  width : Option Nat
  deriving DecidableEq, Repr

namespace Fault

/-- The wording of a fault. -/
def message (f : Fault) : String :=
  match f.width with
  | some n => "invalid utf-8 sequence of " ++ toString n ++ " bytes from index " ++ toString f.index
  | none => "incomplete utf-8 byte sequence from index " ++ toString f.index

end Fault

/-- Decodes octets after the characters `done`, last first, which took `index` octets. -/
def decodeFrom (index : Nat) (done : List Char) : Bytes → Except Fault (List Char)
  | [] => .ok done.reverse
  | b :: rest => match head b rest with
    | .char c width => decodeFrom (index + width) (c :: done) (rest.drop (width - 1))
    | .fault width => .error ⟨index, width⟩
termination_by bytes => bytes.length
decreasing_by simp only [List.length_drop, List.length_cons]; omega

/-- Decodes octets, or tells the first place where they are not UTF-8. -/
def decode (bytes : Bytes) : Except Fault String :=
  String.ofList <$> decodeFrom 0 [] bytes

/-- The string that octets spell, if they are UTF-8. -/
def decode? (bytes : Bytes) : Option String :=
  (decode bytes).toOption

/-- Decodes octets after the characters `done`, last first, with one replacement character for
every fault. -/
def decodeLossyFrom (done : List Char) : Bytes → List Char
  | [] => done.reverse
  | b :: rest => match head b rest with
    | .char c width => decodeLossyFrom (c :: done) (rest.drop (width - 1))
    | .fault (some width) => decodeLossyFrom ('\ufffd' :: done) (rest.drop (width - 1))
    | .fault none => ('\ufffd' :: done).reverse
termination_by bytes => bytes.length
decreasing_by all_goals simp only [List.length_drop, List.length_cons]; omega

/-- Decodes octets with one replacement character for every fault. -/
def decodeLossy (bytes : Bytes) : String :=
  String.ofList (decodeLossyFrom [] bytes)

end Utf8

end RouteLens
