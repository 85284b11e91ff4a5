import RouteLens.Shell.Script

/-!
# Quoted names

How names are shown in messages: as a script could hold them, or with escapes, in either case so
that no character is left that cannot be seen.
-/

namespace RouteLens.Shell

namespace Quote

/-- The letters that control characters have behind a backslash. -/
def letters : List (Char × Char) :=
  [('\x07', 'a'), ('\x08', 'b'), ('\t', 't'), ('\n', 'n'), ('\x0b', 'v'), ('\x0c', 'f'),
    ('\x0d', 'r')]

/-- Whether a character can be seen. -/
def isVisible (c : Char) : Bool :=
  ' ' ≤ c && c ≤ '~'

/-- A character that cannot be seen, as an escape: with its letter, or three octal digits. -/
def escape (c : Char) : Chars :=
  match letters.lookup c with
  | some letter => [backslash, letter]
  | none =>
    let digits := Nat.toDigits 8 c.toNat
    backslash :: List.replicate (3 - digits.length) '0' ++ digits

/-- Whether a name means itself in a script. -/
def isPlain (name : Chars) : Bool :=
  let isBrace := match name with
    | [c] => c == '{' || c == '}'
    | _ => false
  let isMark := match name with
    | c :: _ => c == '#' || c == '~'
    | [] => true
  !isBrace && !isMark && name.all fun c =>
    isVisible c && c != apostrophe && c != quotation && c != backslash && c != grave &&
      !" !$&()*:;<=>?[^|".toList.contains c

/-- Whether a name with an apostrophe can stand between quotation marks. -/
def suitsQuotation (name : Chars) : Bool :=
  let others := match name with
    | c :: rest => if c == '#' || c == '~' then rest else name
    | [] => []
  others.all fun c =>
    c.isAlphanum || c == apostrophe || " %+,-./:]_@".toList.contains c

/-- The characters of a name between apostrophes; with `escaping` the last one before them has been
written as an escape. -/
def inside (escaping : Bool) : Chars → Chars
  | [] => []
  | c :: rest =>
    if c == apostrophe then [apostrophe, backslash, apostrophe, apostrophe] ++ inside false rest
    else if isVisible c then
      (if escaping then [apostrophe, apostrophe] else []) ++ c :: inside false rest
    else
      (if escaping then [] else [apostrophe, '$', apostrophe]) ++ escape c ++ inside true rest

/-- A name as a word of a script, in quotes. -/
def word (name : Chars) : Chars :=
  if name.contains apostrophe && suitsQuotation name then quotation :: name ++ [quotation]
  else apostrophe :: inside false name ++ [apostrophe]

/-- A name as a word of a script, in quotes where it needs them. -/
def wordIfNeeded (name : Chars) : Chars :=
  if isPlain name then name else word name

/-- A name between apostrophes with escapes for all that could be taken for something else. -/
def escaped (name : Chars) : Chars :=
  apostrophe :: name.flatMap (fun c =>
    if c == apostrophe || c == backslash then [backslash, c]
    else if isVisible c then [c]
    else escape c) ++ [apostrophe]

/-- A text as a word of a script in parts that stand between apostrophes and, where there are
apostrophes in it, between quotation marks. -/
def parts (text : Chars) : Chars :=
  between (text.length + 1) text
where
  between (fuel : Nat) (text : Chars) : Chars :=
    match fuel with
    | 0 => []
    | fuel + 1 =>
      let rest := text.dropWhile (· != apostrophe)
      let marks := rest.takeWhile (· == apostrophe)
      let after := rest.dropWhile (· == apostrophe)
      apostrophe :: text.takeWhile (· != apostrophe) ++ [apostrophe] ++
        (if marks.isEmpty then [] else quotation :: marks ++ [quotation]) ++
        (if after.isEmpty then [] else between fuel after)

end Quote

end RouteLens.Shell
