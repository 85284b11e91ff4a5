import RouteLens.Text.Utf8
import RouteLens.Text.Hex

/-!
# Percent encoding

Characters of a URL that stand for octets: a percent sign and two hexadecimal digits. Encoding
leaves the characters outside a set as they are; decoding keeps an escape that is not one.
-/

namespace RouteLens.Url

/-- The control characters and everything that is not ASCII. -/
def isControl (c : Char) : Bool :=
  c.toNat < 0x20 || 0x7e < c.toNat

/-- The characters encoded in the fragment of a URL. -/
def isFragmentEscape (c : Char) : Bool :=
  isControl c || c ∈ [' ', '"', '<', '>', '`']

/-- The characters encoded in the path of a URL. -/
def isPathEscape (c : Char) : Bool :=
  isFragmentEscape c || c ∈ ['#', '?', '{', '}']

/-- The characters encoded in the credentials of a URL. -/
def isUserEscape (c : Char) : Bool :=
  isPathEscape c || c ∈ ['/', ':', ';', '=', '@', '[', '\\', ']', '^', '|']

/-- The characters encoded in the query of a URL. -/
def isQueryEscape (special : Bool) (c : Char) : Bool :=
  isControl c || c ∈ [' ', '"', '#', '<', '>'] || (special && c.toNat == 0x27)

/-- The escape of an octet. -/
def escapeByte (b : UInt8) : List Char :=
  ['%', Text.upperHexDigit (b.toNat / 16), Text.upperHexDigit (b.toNat % 16)]

/-- A text with the characters of a set escaped. -/
def percentEncode (escaped : Char → Bool) (text : List Char) : List Char :=
  text.flatMap fun c =>
    if escaped c then (String.utf8EncodeChar c).flatMap escapeByte else [c]

/-- The octets that a text with escapes stands for. -/
def percentDecode : List Char → Bytes
  | '%' :: a :: b :: rest =>
    match Text.hexValue? a, Text.hexValue? b with
    | some x, some y => UInt8.ofNat (x * 16 + y) :: percentDecode rest
    | _, _ => 0x25 :: percentDecode (a :: b :: rest)
  | c :: rest => String.utf8EncodeChar c ++ percentDecode rest
  | [] => []

end RouteLens.Url
