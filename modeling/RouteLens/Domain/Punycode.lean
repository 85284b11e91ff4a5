/-!
# Punycode

The writing of a text in letters, digits and hyphens. The ASCII characters come first as they are;
then for every other character, in the order of code points, stands how far it is from the one
before, counted in places and code points, as a number whose digits end with one below a threshold.
The thresholds adapt to the numbers before.
-/

namespace RouteLens.Domain.Punycode

/-- The digit with a value: a letter, or from 26 on a decimal digit. -/
def digit (value : Nat) : Char :=
  if value < 26 then Char.ofNat ('a'.toNat + value) else Char.ofNat ('0'.toNat + (value - 26))

/-- The value of a digit. -/
def digitValue? (c : Char) : Option Nat :=
  if 'a' ≤ c ∧ c ≤ 'z' then some (c.toNat - 'a'.toNat)
  else if '0' ≤ c ∧ c ≤ '9' then some (c.toNat - '0'.toNat + 26)
  else none

/-- The threshold of a digit, from 1 to 26; `place` is 36 for the first digit and 36 more for each
further one. -/
def threshold (bias place : Nat) : Nat :=
  max 1 (min 26 (place - bias))

/-- How far a number is from what 36 digits reach, divided down. -/
def scale (number steps : Nat) : Nat × Nat :=
  if 455 < number then scale (number / 35) (steps + 36) else (number, steps)
termination_by number
decreasing_by exact Nat.div_lt_self (by omega) (by omega)

/-- The bias behind a number, the first of all or a later one, in a text of so many characters. -/
def adapt (number length : Nat) (isFirst : Bool) : Nat :=
  let number := if isFirst then number / 700 else number / 2
  let (rest, steps) := scale (number + number / length) 0
  steps + 36 * rest / (rest + 38)

theorem threshold_pos (bias place : Nat) : 1 ≤ threshold bias place := by
  unfold threshold; omega

/-- The digits of a number. -/
def numberDigits (bias place number : Nat) : List Char :=
  let t := threshold bias place
  if number < t then [digit number]
  else
    digit (t + (number - t) % (36 - t)) :: numberDigits bias (place + 36) ((number - t) / (36 - t))
termination_by number
decreasing_by
  have := threshold_pos bias place
  exact Nat.lt_of_le_of_lt (Nat.div_le_self _ _) (by omega)

/-- Where the writing of a text stands. -/
structure Writing where
  /-- The digits so far. -/
  written : List Char := []
  /-- How many places have been passed since the last character that was written. -/
  passed : Nat := 0
  bias : Nat := 72
  /-- How many characters have been written. -/
  length : Nat

/-- Writes the characters of a code point among those of a text; lower ones are passed. -/
def Writing.atPlace (ascii code : Nat) (state : Writing) (c : Char) : Writing :=
  if c.toNat < code then { state with passed := state.passed + 1 }
  else if c.toNat = code then
    { written := state.written ++ numberDigits state.bias 36 state.passed
      bias := adapt state.passed (state.length + 1) (state.length == ascii)
      length := state.length + 1 }
  else state

/-- The least code point of a text that is not below a bound. -/
def leastFrom? (bound : Nat) (text : List Char) : Option Nat :=
  ((text.map Char.toNat).filter (bound ≤ ·)).min?

/-- Writes up to `count` different code points of a text that are not below a bound. -/
def Writing.fromCode (text : List Char) (ascii : Nat) : Nat → Nat → Writing → Writing
  | 0, _, state => state
  | count + 1, bound, state => match leastFrom? bound text with
    | none => state
    | some code =>
      let state := { state with passed := state.passed + (code - bound) * (state.length + 1) }
      let state := text.foldl (Writing.atPlace ascii code) state
      fromCode text ascii count (code + 1) { state with passed := state.passed + 1 }

/-- The writing of a text. -/
def encode (text : List Char) : List Char :=
  let ascii := text.filter (·.toNat < 0x80)
  let start := if ascii.isEmpty then [] else ascii ++ ['-']
  let state : Writing := { length := ascii.length }
  start ++ (Writing.fromCode text ascii.length text.length 0x80 state).written

/-- Reads a number, which is added to `value`: the sum and the rest of the text. -/
def number? (bias place weight value : Nat) : List Char → Option (Nat × List Char)
  | [] => none
  | c :: rest => match digitValue? c with
    | none => none
    | some d =>
      let t := threshold bias place
      if d < t then some (value + d * weight, rest)
      else number? bias (place + 36) (weight * (36 - t)) (value + d * weight) rest

theorem length_lt_of_number? {bias place weight value : Nat} {text : List Char}
    {found : Nat × List Char} (h : number? bias place weight value text = some found) :
    found.2.length < text.length := by
  induction text generalizing place weight value with
  | nil => simp [number?] at h
  | cons c rest ih =>
    unfold number? at h
    split at h
    · simp at h
    · dsimp only at h
      split at h
      · cases h; simp
      · have := ih h
        simp only [List.length_cons]
        omega

/-- The character with a code point, if there is one. -/
def char? (code : Nat) : Option Char :=
  if code.isValidChar then some (Char.ofNat code) else none

/-- Reads the characters that are not ASCII into a text; `index` is the place of the next one when
its code point is `code`. -/
def insertions? (bias code index : Nat) (done : List Char) (isFirst : Bool) (text : List Char) :
    Option (List Char) :=
  if text.isEmpty then some done
  else
    match _h : number? bias 36 1 index text with
    | none => none
    | some (sum, rest) =>
      let length := done.length + 1
      let code := code + sum / length
      match char? code with
      | none => none
      | some c =>
        insertions? (adapt (sum - index) length isFirst) code (sum % length + 1)
          (done.take (sum % length) ++ c :: done.drop (sum % length)) false rest
termination_by text.length
decreasing_by exact length_lt_of_number? _h

/-- The ASCII characters of a writing and what follows their hyphen. -/
def splitAscii (text : List Char) : List Char × List Char :=
  if text.contains '-' then
    let behind := (text.reverse.takeWhile (· ≠ '-')).reverse
    (text.take (text.length - behind.length - 1), behind)
  else ([], text)

/-- The text that a writing stands for. -/
def decode? (text : List Char) : Option (List Char) :=
  let (ascii, behind) := splitAscii text
  insertions? 72 0x80 0 ascii true (if ascii.isEmpty then text else behind)

end RouteLens.Domain.Punycode
