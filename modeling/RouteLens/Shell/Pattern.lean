import RouteLens.Shell.Script

/-!
# Patterns

Patterns of names: `*` fits anything, `?` any one character, and brackets one of the characters in
them. A quoted character fits itself only.
-/

namespace RouteLens.Shell

/-- An item of a pattern. -/
inductive PatternItem
  | literal (c : Char)
  | anyChar
  | anything
  /-- One character within ranges, or with `negated` outside of them. -/
  | range (negated : Bool) (ranges : List (Char × Char))
  deriving DecidableEq, Repr

/-- A pattern. -/
abbrev Pattern := List PatternItem

namespace Pattern

/-- The ranges that characters between brackets mean. -/
def ranges : Chars → List (Char × Char)
  | low :: '-' :: high :: rest => (low, high) :: ranges rest
  | c :: rest => (c, c) :: ranges rest
  | [] => []

/-- The item that starts behind an opening bracket, and the text after it; none if the bracket is
never closed. -/
def bracket? (text : List (Char × Bool)) : Option (PatternItem × List (Char × Bool)) :=
  let (negated, text) := match text with
    | ('!', false) :: rest => (true, rest)
    | ('^', false) :: rest => (true, rest)
    | _ => (false, text)
  let inside := text.take 1 ++ (text.drop 1).takeWhile (· != (']', false))
  match (text.drop 1).dropWhile (· != (']', false)) with
  | [] => none
  | _ :: after => some (.range negated (ranges (inside.map (·.1))), after)

/-- The pattern that characters mean, each with whether it is quoted. -/
def ofChars (fuel : Nat) (text : List (Char × Bool)) : Pattern :=
  match fuel, text with
  | 0, _ => []
  | _, [] => []
  | fuel + 1, (c, quoted) :: rest =>
    if quoted then .literal c :: ofChars fuel rest
    else if c == '*' then .anything :: ofChars fuel rest
    else if c == '?' then .anyChar :: ofChars fuel rest
    else if c == '[' then match bracket? rest with
      | some (item, after) => item :: ofChars fuel after
      | none => .literal c :: ofChars fuel rest
    else .literal c :: ofChars fuel rest

/-- The pattern that characters mean, each with whether it is quoted. -/
def ofText (text : List (Char × Bool)) : Pattern :=
  ofChars (text.length + 1) text

/-- Whether an item fits one character. -/
def fitsChar (c : Char) : PatternItem → Bool
  | .literal d => c == d
  | .anyChar => true
  | .anything => false
  | .range negated ranges => ranges.any (fun (low, high) => low ≤ c && c ≤ high) != negated

/-- Whether a pattern fits all of a text. -/
def fits : Pattern → Chars → Bool
  | [], text => text.isEmpty
  | .anything :: items, [] => fits items []
  | .anything :: items, c :: rest => fits items (c :: rest) || fits (.anything :: items) rest
  | _ :: _, [] => false
  | item :: items, c :: rest => fitsChar c item && fits items rest
termination_by items text => items.length + text.length

/-- The text without a start or an end that the pattern fits, the shortest or the longest. -/
def trim (pattern : Pattern) (atEnd longest : Bool) (text : Chars) : Chars :=
  let counts := List.range (text.length + 1)
  let counts := if longest then counts.reverse else counts
  let cut (count : Nat) : Chars × Chars :=
    if atEnd then (text.drop (text.length - count), text.take (text.length - count))
    else (text.take count, text.drop count)
  match counts.find? fun count => pattern.fits (cut count).1 with
  | some count => (cut count).2
  | none => text

end Pattern

end RouteLens.Shell
