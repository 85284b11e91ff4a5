import RouteLens.Text.Hex

/-!
# Ranges of characters

Sets of characters that are given as ranges of code points, and the way they are written down: in
hexadecimal with blanks between, a range as its first and last code point around a hyphen.
-/

namespace RouteLens.Text

/-- The code points from the first to the last. -/
structure CodeRange where
  first : Nat
  last : Nat
  deriving DecidableEq, Repr

namespace CodeRange

/-- Whether a character is in one of the ranges. -/
def anyHas (ranges : List CodeRange) (c : Char) : Bool :=
  ranges.any fun range => range.first ≤ c.toNat && c.toNat ≤ range.last

/-- The number that hexadecimal digits write. -/
def hexNumber (digits : List Char) : Nat :=
  digits.foldl (fun n c => n * 16 + (hexValue? c).getD 0) 0

/-- The range that a word writes. -/
def ofWord (word : List Char) : CodeRange :=
  let first := word.takeWhile (· ≠ '-')
  match word.dropWhile (· ≠ '-') with
  | _ :: last => ⟨hexNumber first, hexNumber last⟩
  | [] => ⟨hexNumber first, hexNumber first⟩

/-- The ranges that lines write. -/
def ofLines (lines : List String) : List CodeRange :=
  lines.flatMap fun line => (line.toList.splitOn ' ').map ofWord

end CodeRange

end RouteLens.Text
