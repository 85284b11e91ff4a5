import RouteLens.Json.Literal

/-!
# JSON numbers

A number is an integer when it is written without fraction and exponent and fits 64 bits, and
otherwise a real, kept as it is written. A real is refused when double precision cannot hold it:
the leading digits that fit 64 bits, rounded to double, times the power of ten that is left,
rounded too, must stay below the bound at which a product of doubles becomes infinite.
-/

namespace RouteLens

/-- A number of a JSON value. -/
inductive Number
  | integer (value : Int)
  | real (token : List Char)
  deriving DecidableEq

namespace Number

/-- The greatest unsigned integer of 64 bits. -/
def maxUnsigned : Nat := 0xffffffffffffffff

/-- The greatest magnitude of a negative integer of 64 bits. -/
def maxNegative : Nat := 0x8000000000000000

/-- The value of a decimal digit. -/
def digitValue (c : Char) : Nat :=
  c.toNat - '0'.toNat

/-- The value of a run of decimal digits. -/
def ofDigits (digits : List Char) : Nat :=
  digits.foldl (fun n c => n * 10 + digitValue c) 0

/-- Appends digits to a value while it fits 64 bits: the value, and the number of digits taken. -/
def absorb (value : Nat) : List Char → Nat × Nat
  | [] => (value, 0)
  | c :: rest =>
    let next := value * 10 + digitValue c
    if next ≤ maxUnsigned then
      let (value, taken) := absorb next rest
      (value, taken + 1)
    else (value, 0)

/-- The double nearest to a natural number, of two the one with an even significand. -/
def roundToDouble (n : Nat) : Nat :=
  let extra := n.log2 - 52
  let unit := Nat.pow 2 extra
  let low := n % unit
  let base := n / unit
  if 2 * low > unit ∨ (2 * low = unit ∧ base % 2 = 1) then (base + 1) * unit else base * unit

/-- The least magnitude that rounds to infinity. -/
def infinityBound : Nat := Nat.pow 2 1024 - Nat.pow 2 970

/-- Whether `significand * 10 ^ exponent` is beyond double precision. -/
def overflows (significand : Nat) (exponent : Int) : Bool :=
  if significand = 0 ∨ exponent < 0 then false
  else exponent > 308 ||
    roundToDouble significand * roundToDouble (Nat.pow 10 exponent.toNat) ≥ infinityBound

/-- The parts of a number's token. -/
structure Parts where
  negative : Bool
  whole : List Char
  fraction : List Char
  exponent : List Char

/-- Splits a token into its parts; fraction and exponent come without their marks. -/
def Parts.ofToken (token : List Char) : Parts :=
  let (sign, rest) := Literal.readSign ['-'] token
  let whole := rest.takeWhile Char.isDigit
  let (fraction, rest) := match rest.dropWhile Char.isDigit with
    | '.' :: rest => (rest.takeWhile Char.isDigit, rest.dropWhile Char.isDigit)
    | rest => ([], rest)
  ⟨!sign.isEmpty, whole, fraction, rest.drop 1⟩

/-- The exponent that is written, without its mark. -/
def exponentValue : List Char → Int
  | '-' :: digits => -(ofDigits digits : Int)
  | '+' :: digits => ofDigits digits
  | digits => ofDigits digits

/-- Whether the number of the parts is beyond double precision. -/
def Parts.overflows (p : Parts) : Bool :=
  let (value, taken) := absorb 0 p.whole
  let (value, takenFraction) := absorb value p.fraction
  let exponent : Int := (p.whole.length - taken : Nat) - takenFraction + exponentValue p.exponent
  Number.overflows value exponent

/-- The integer of the parts, if they are a plain one that fits 64 bits; minus zero is none. -/
def Parts.integer? (p : Parts) : Option Int :=
  if p.fraction.isEmpty && p.exponent.isEmpty then
    let value := ofDigits p.whole
    if p.negative then if value ≠ 0 ∧ value ≤ maxNegative then some (-(value : Int)) else none
    else if value ≤ maxUnsigned then some value else none
  else none

/-- The integer that a token is, if it is a plain one that fits 64 bits. -/
def integerOfToken? (token : List Char) : Option Int :=
  (Parts.ofToken token).integer?

/-- The number that a token denotes, unless it is beyond double precision. -/
def ofToken? (token : List Char) : Option Number :=
  let parts := Parts.ofToken token
  match parts.integer? with
  | some value => some (.integer value)
  | none => if parts.overflows then none else some (.real token)

/-- The token of a number. -/
def token : Number → List Char
  | .integer value => (toString value).toList
  | .real token => token

end Number

end RouteLens
