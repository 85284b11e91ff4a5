import RouteLens.Text.Blank

/-!
# Keywords in source text

Where a keyword stands in a source text by itself: not behind a letter, digit or underscore of a
longer word, and not behind a dollar sign, which starts a variable. Offsets count octets of UTF-8
from the start of the text.
-/

namespace RouteLens.Source

/-- The characters of names: letters and digits of ASCII, and the underscore. -/
def isWordChar (c : Char) : Bool :=
  c.isAlphanum || c == '_'

/-- The octets of names. -/
def isWordByte (b : UInt8) : Bool :=
  isWordChar (Char.ofNat b.toNat)

/-- A place where a word stands: the character before it, its offset, and the text after it. -/
structure Site where
  before : Option Char
  offset : Nat
  after : List Char

/-- The places where `word` stands in a text, from left to right and without overlap; `skip`
characters still belong to the place found last. -/
def sitesFrom (word : List Char) (skip : Nat) (before : Option Char) (offset : Nat) :
    List Char → List Site
  | [] => []
  | c :: rest => match skip with
    | skip + 1 => sitesFrom word skip (some c) (offset + c.utf8Size) rest
    | 0 =>
      if word.isPrefixOf (c :: rest) then
        ⟨before, offset, (c :: rest).drop word.length⟩ ::
          sitesFrom word (word.length - 1) (some c) (offset + c.utf8Size) rest
      else sitesFrom word 0 (some c) (offset + c.utf8Size) rest

namespace Site

/-- Whether a word can start here: nothing before it makes it part of a longer name. -/
def startsWord (s : Site) : Bool :=
  match s.before with
  | some c => !(isWordChar c || c == '$')
  | none => true

end Site

/-- The places where a keyword stands by itself. -/
def keywordSites (word : String) (text : List Char) : List Site :=
  (sitesFrom word.toList 0 none 0 text).filter Site.startsWord

/-- The text after a non-empty run of blanks. -/
def afterBlanks? : List Char → Option (List Char)
  | c :: rest => if Text.isBlank c then some (Text.skipBlanks rest) else none
  | [] => none

/-- The text after a word that it starts with. -/
def afterWord? (word : String) (text : List Char) : Option (List Char) :=
  if word.toList.isPrefixOf text then some (text.drop word.toList.length) else none

/-- Splits off a name: the longest run of name characters, which must not be empty. -/
def splitName? (text : List Char) : Option (List Char × List Char) :=
  match text.takeWhile isWordChar with
  | [] => none
  | name => some (name, text.dropWhile isWordChar)

/-- The number of line feeds among the first `count` octets of a text. -/
def lineFeeds (count : Nat) : List Char → Nat
  | [] => 0
  | c :: rest =>
    if count = 0 then 0
    else (if c = '\n' then 1 else 0) + lineFeeds (count - c.utf8Size) rest

/-- The line of an offset, counted from zero, as a word of 32 bits. -/
def lineAt (text : List Char) (offset : Nat) : UInt32 :=
  UInt32.ofNat (lineFeeds offset text)

/-- The text without its first `count` octets. -/
def dropOctets (count : Nat) : List Char → List Char
  | [] => []
  | c :: rest => if count = 0 then c :: rest else dropOctets (count - c.utf8Size) rest

end RouteLens.Source
