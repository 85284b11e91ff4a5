import RouteLens.Domain.Folding
import RouteLens.Domain.Direction
import RouteLens.Domain.Joiner
import RouteLens.Domain.Punycode

/-!
# Domain names

The ASCII form of a domain name. The name is folded and composed, and every label between full stops
that is not ASCII is written in Punycode behind a prefix. A label that carries the prefix already
must stand for a text that could have been written so.
-/

namespace RouteLens.Domain

/-- A label as it is read and as it is written. -/
structure Label where
  plain : List Char
  written : List Char

/-- What stands before Punycode in a label. -/
def punycodePrefix : List Char := ['x', 'n', '-', '-']

/-- A label with more characters is not written in Punycode. -/
def maxPlain : Nat := 1000

/-- Punycode with more characters is not read. -/
def maxWritten : Nat := 2000

/-- Whether all characters of a text are ASCII. -/
def isAscii (text : List Char) : Bool :=
  text.all (·.toNat < 0x80)

/-- Whether a label starts with no mark and has its joiners where they show. -/
def isSound (label : List Char) : Bool :=
  !(label.take 1).any Text.isMark && joinersShow [] label

/-- The label behind the prefix: what it stands for must be in its folded and composed form and not
be ASCII. -/
def prefixed? (written : List Char) : Option Label :=
  if isAscii written && written.getLast? != some '-' && written.length ≤ maxWritten then
    match Punycode.decode? written with
    | none => none
    | some plain =>
      if plain.all isFolded && Text.compose plain == plain && isSound plain && !isAscii plain then
        some ⟨plain, punycodePrefix ++ written⟩
      else none
  else none

/-- The label that a text without full stops is, once it is folded and composed. -/
def label? (text : List Char) : Option Label :=
  if punycodePrefix.isPrefixOf text then prefixed? (text.drop punycodePrefix.length)
  else if isAscii text then some ⟨text, text⟩
  else if isSound text && text.length ≤ maxPlain then
    some ⟨text, punycodePrefix ++ Punycode.encode text⟩
  else none

/-- The labels of a name that is folded and composed. -/
def labels? (name : List Char) : Option (List Label) :=
  (name.splitOn '.').mapM label?

/-- The ASCII form of a domain name. -/
def ascii? (name : List Char) : Option (List Char) := do
  let folded ← name.mapM fold?
  let labels ← labels? (Text.compose folded.flatten)
  if directionsAgree (labels.map (·.plain)) then
    some (['.'].intercalate (labels.map (·.written)))
  else none

end RouteLens.Domain
