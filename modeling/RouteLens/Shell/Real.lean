import RouteLens.Shell.Arithmetic

/-!
# Real numbers

The real numbers that `printf` writes: a text is read as the nearest number that 64 bits hold, and
that number is written exactly, rounded to as many digits as asked for. A tie goes to the even one.
-/

namespace RouteLens.Shell

/-- A real number of 64 bits. -/
inductive Real
  /-- A multiple of a power of two. -/
  | finite (negative : Bool) (mantissa : Nat) (exponent : Int)
  | infinite (negative : Bool)
  | undefined (negative : Bool)
  deriving DecidableEq, Repr

namespace Real

/-- The integer nearest to a fraction. -/
def nearest (numerator denominator : Nat) : Nat :=
  let quotient := numerator / denominator
  let twice := 2 * (numerator % denominator)
  if twice > denominator || (twice == denominator && quotient % 2 == 1) then quotient + 1
  else quotient

/-- The product of a number and a power, as a fraction. -/
def scale (base n : Nat) (exponent : Int) : Nat × Nat :=
  if 0 ≤ exponent then (n * Nat.pow base exponent.toNat, 1)
  else (n, Nat.pow base (-exponent).toNat)

/-- The least and the greatest exponent of a number whose mantissa has 53 bits. -/
def leastExponent : Int := -1074
def greatestExponent : Int := 971

/-- The number nearest to a fraction, and whether it fits into the range. -/
def ofFraction (negative : Bool) (numerator denominator : Nat) : Real × Bool :=
  if numerator = 0 then (finite negative 0 0, true)
  else
    let guess : Int := (numerator.log2 : Int) - denominator.log2
    let (scaled, unit) := scale 2 denominator guess
    let magnitude := if numerator * unit ≥ scaled then guess else guess - 1
    let exponent := max (magnitude - 52) leastExponent
    let (top, factor) := scale 2 numerator (-exponent)
    let mantissa := nearest top (denominator * factor)
    let isExact := mantissa * (denominator * factor) == top
    if mantissa ≥ 0x20000000000000 && exponent ≥ greatestExponent || exponent > greatestExponent
    then (infinite negative, false)
    else (finite negative mantissa exponent, isExact || mantissa ≥ 0x10000000000000)

/-- How many digits a number may have before and behind the point to be worked with. -/
def reach : Int := 400

/-- The number that digits stand for, with a power of their base; a fraction that is far too great
or too small for 64 bits is cut short. -/
def ofDigits (negative : Bool) (base step : Nat) (digits : Chars) (exponent : Int) :
    Real × Bool :=
  let digits := digits.dropWhile (· == '0')
  let n := (Expression.digits base 0 digits).1
  let size := (digits.length : Int) * (if base = 16 then 4 else 1) + exponent
  let limit := if base = 16 then reach * 4 else reach
  if n = 0 then (finite negative 0 0, true)
  else if size > limit then (infinite negative, false)
  else if size < -limit then (finite negative 0 0, false)
  else match scale step n exponent with
    | (numerator, denominator) => ofFraction negative numerator denominator

/-- The exponent that a text starts with behind one of some letters, and the text after it. -/
def readExponent (letters : List Char) (text : Chars) : Int × Chars :=
  match text with
  | c :: rest =>
    let (negative, digits) := match rest with
      | '-' :: digits => (true, digits)
      | '+' :: digits => (false, digits)
      | _ => (false, rest)
    if letters.contains c && (digits.head?.map Char.isDigit).getD false then
      let (n, after) := Expression.digits 10 0 digits
      (if negative then -(n : Int) else n, after)
    else (0, text)
  | [] => (0, [])

/-- Reads digits with a point among them: the digits, how many stand behind the point, and the text
after them. -/
def readFixed (isDigit : Char → Bool) (text : Chars) : Chars × Nat × Chars :=
  let whole := text.takeWhile isDigit
  match text.dropWhile isDigit with
  | '.' :: rest =>
    let behind := rest.takeWhile isDigit
    if whole.isEmpty && behind.isEmpty then ([], 0, text)
    else (whole ++ behind, behind.length, rest.dropWhile isDigit)
  | after => (whole, 0, after)

/-- Whether a character is a hexadecimal digit. -/
def isHexadecimal (c : Char) : Bool :=
  c.isDigit || "abcdefABCDEF".toList.contains c

/-- Reads a number without its sign: the number, whether it fits, and the text after it. -/
def readMagnitude (negative : Bool) (text : Chars) : Option (Real × Bool × Chars) :=
  let starts (word : String) : Bool :=
    word.toList.isPrefixOf (text.map Char.toLower)
  if starts "infinity" then some (infinite negative, true, text.drop 8)
  else if starts "inf" then some (infinite negative, true, text.drop 3)
  else if starts "nan" then some (undefined negative, true, text.drop 3)
  else
    let (digits, behind, after) := readFixed isHexadecimal (text.drop 2)
    if starts "0x" && !digits.isEmpty then
      let (exponent, after) := readExponent ['p', 'P'] after
      let (n, fits) := ofDigits negative 16 2 digits (exponent - 4 * behind)
      some (n, fits, after)
    else
      let (digits, behind, after) := readFixed Char.isDigit text
      if digits.isEmpty then none
      else
        let (exponent, after) := readExponent ['e', 'E'] after
        let (n, fits) := ofDigits negative 10 10 digits (exponent - behind)
        some (n, fits, after)

/-- Reads a number behind spaces: the number, whether it fits, and the text after it. -/
def read? (text : Chars) : Option (Real × Bool × Chars) :=
  match text.dropWhile Expression.isSpace with
  | '-' :: rest => readMagnitude true rest
  | '+' :: rest => readMagnitude false rest
  | rest => readMagnitude false rest

/-- Digits with a point before the last `places` of them; without places there is none unless it is
`kept`. -/
def withPoint (kept : Bool) (places : Nat) (digits : Chars) : Chars :=
  let digits := List.replicate (places + 1 - digits.length) '0' ++ digits
  let whole := digits.take (digits.length - places)
  if places = 0 && !kept then whole
  else whole ++ '.' :: digits.drop (digits.length - places)

/-- A fraction with a number of decimal places. -/
def fixed (kept : Bool) (places numerator denominator : Nat) : Chars :=
  withPoint kept places
    (Nat.toDigits 10 (nearest (numerator * Nat.pow 10 places) denominator))

/-- The greatest power of ten that a fraction reaches; zero reaches the first. -/
def magnitude (numerator denominator : Nat) : Int :=
  if numerator = 0 then 0
  else
    let size (n : Nat) : Int := (Nat.toDigits 10 n).length
    let guess := size numerator - size denominator
    let (scaled, unit) := scale 10 denominator guess
    if numerator * unit ≥ scaled then guess else guess - 1

/-- The digits of a fraction, one more than `places`, and the power of ten of the first. -/
def significant (places numerator denominator : Nat) : Chars × Int :=
  let power := magnitude numerator denominator
  let (top, bottom) := scale 10 denominator (power - places)
  let n := nearest (numerator * bottom) top
  if n ≥ Nat.pow 10 (places + 1) then (Nat.toDigits 10 (n / 10), power + 1)
  else (Nat.toDigits 10 n, power)

/-- The exponent of a number, with its letter. -/
def exponentText (letter : Char) (power : Int) : Chars :=
  let digits := Nat.toDigits 10 power.natAbs
  letter :: (if power < 0 then '-' else '+') ::
    (List.replicate (2 - digits.length) '0' ++ digits)

/-- A fraction with an exponent. -/
def scientific (kept : Bool) (letter : Char) (places numerator denominator : Nat) : Chars :=
  let (digits, power) := significant places numerator denominator
  let digits := digits ++ List.replicate (places + 1 - digits.length) '0'
  withPoint kept places digits ++ exponentText letter power

/-- Digits without the zeros at the end of those behind the point. -/
def trimZeros (digits : Chars) : Chars :=
  if digits.contains '.' then
    let kept := (digits.reverse.dropWhile (· == '0'))
    (if kept.head? == some '.' then kept.tail else kept).reverse
  else digits

/-- A fraction with a number of digits, with or without an exponent, whichever suits it. -/
def general (kept : Bool) (letter : Char) (digits numerator denominator : Nat) : Chars :=
  let places := digits - 1
  let power := (significant places numerator denominator).2
  let trim (text : Chars) : Chars := if kept then text else trimZeros text
  if -4 ≤ power && power ≤ places then
    trim (fixed kept ((places : Int) - power).toNat numerator denominator)
  else
    let text := scientific kept letter places numerator denominator
    trim (text.takeWhile (· != letter)) ++ text.dropWhile (· != letter)

/-- The number without its sign, as the letter of a directive says. -/
def text (kept : Bool) (letter : Char) (places : Nat) : Real → Chars
  | finite _ mantissa exponent =>
    match scale 2 mantissa exponent with
    | (numerator, denominator) => match letter with
      | 'e' => scientific kept 'e' places numerator denominator
      | 'E' => scientific kept 'E' places numerator denominator
      | 'g' => general kept 'e' (max places 1) numerator denominator
      | 'G' => general kept 'E' (max places 1) numerator denominator
      | _ => fixed kept places numerator denominator
  | infinite _ => cased "inf"
  | undefined _ => cased "nan"
where
  cased (word : String) : Chars :=
    if letter.isUpper then word.toList.map Char.toUpper else word.toList

/-- Whether a number has the sign of negative ones. -/
def isNegative : Real → Bool
  | finite negative _ _ => negative
  | infinite negative => negative
  | undefined negative => negative

/-- Whether a number has digits. -/
def isFinite : Real → Bool
  | finite _ _ _ => true
  | _ => false

end Real

end RouteLens.Shell
