import RouteLens.Shell.Options

/-!
# Display of texts

What `cat` makes of the texts that it writes: numbers before lines, one blank line in place of
several, and signs that can be seen in place of those that cannot. Several texts are displayed as
if they were one, so that a line may start in one and end in another.
-/

namespace RouteLens.Shell

/-- How texts are displayed. -/
structure Layout where
  /-- Whether lines are numbered, and whether blank ones are among them. -/
  numbers : Bool := false
  numbersBlank : Bool := false
  /-- Whether blank lines right after a blank line are left out. -/
  squeezes : Bool := false
  marksEnds : Bool := false
  marksTabs : Bool := false
  marksControls : Bool := false
  deriving DecidableEq, Repr

namespace Layout

/-- The options of a display. -/
def options : Options :=
  ⟨"benstuvAET".toList,
    [("number-nonblank", 'b'), ("number", 'n'), ("squeeze-blank", 's'), ("show-nonprinting", 'v'),
      ("show-ends", 'E'), ("show-tabs", 'T'), ("show-all", 'A')]⟩

/-- The layout that the letters of options mean. -/
def ofLetters (letters : Chars) : Layout :=
  let has (choices : String) : Bool := letters.any choices.toList.contains
  { numbers := has "bn"
    numbersBlank := has "n" && !has "b"
    squeezes := has "s"
    marksEnds := has "eAE"
    marksTabs := has "tAT"
    marksControls := has "etvA" }

/-- A character of a line as it is displayed. -/
def sign (layout : Layout) (c : Char) : Chars :=
  if c == '\t' then if layout.marksTabs then ['^', 'I'] else [c]
  else if !layout.marksControls then [c]
  else
    let low : Char := Char.ofNat (c.toNat % 0x80)
    let visible : Chars :=
      if low.toNat < 0x20 then ['^', Char.ofNat (low.toNat + 0x40)]
      else if low.toNat = 0x7f then ['^', '?']
      else [low]
    if c.toNat < 0x80 then visible else 'M' :: '-' :: visible

end Layout

/-- How far a display has come. -/
structure Display where
  /-- What is displayed, backwards. -/
  shown : Chars := []
  /-- How many lines have been numbered. -/
  number : Nat := 0
  /-- How many blank lines there are right before the line that starts here; none inside a line. -/
  blanks : Option Nat := some 0
  /-- Whether a carriage return is held back until it is known what follows it. -/
  holds : Bool := false
  deriving DecidableEq, Repr

namespace Display

/-- Displays characters as they are. -/
def put (d : Display) (text : Chars) : Display :=
  { d with shown := text.reverse ++ d.shown }

/-- Displays the number of the next line. -/
def putNumber (d : Display) : Display :=
  let digits := Chars.ofInt (d.number + 1)
  { d.put (List.replicate (6 - digits.length) ' ' ++ digits ++ ['\t']) with
    number := d.number + 1 }

/-- Displays the end of a line. -/
def endLine (layout : Layout) (d : Display) : Display :=
  if layout.squeezes && d.blanks.getD 0 ≥ 1 then d
  else
    let d := if layout.numbersBlank && d.blanks.isSome then d.putNumber else d
    let d := if d.holds then d.put ['^', 'M'] else d
    { d.put (if layout.marksEnds then ['$', '\n'] else ['\n']) with
      blanks := some ((d.blanks.map (· + 1)).getD 0)
      holds := false }

/-- Displays a carriage return that is held back and has turned out to end no line. -/
def release (d : Display) : Display :=
  if d.holds then { d.put ['\x0d'] with holds := false } else d

/-- Displays a character. -/
def step (layout : Layout) (d : Display) (c : Char) : Display :=
  if c == '\n' then d.endLine layout
  else
    let d := d.release
    let d := if layout.numbers && d.blanks.isSome then d.putNumber else d
    let d := { d with blanks := none }
    if c == '\x0d' && layout.marksEnds && !layout.marksControls then { d with holds := true }
    else d.put (layout.sign c)

/-- Displays a text: what has been displayed of it, and how far the display has come. -/
def text (layout : Layout) (d : Display) (chars : Chars) : Chars × Display :=
  let d := chars.foldl (step layout) d
  (d.shown.reverse, { d with shown := [] })

end Display

end RouteLens.Shell
