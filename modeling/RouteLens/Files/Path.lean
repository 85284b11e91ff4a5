import RouteLens.Text.Utf8

/-!
# Paths

Paths of files as octets, with `/` between the names. A path that starts with `/` is absolute.
-/

namespace RouteLens

/-- A path: any octets, whether or not they spell a text. -/
abbrev Path := Bytes

namespace Path

/-- The octet between names. -/
def slash : UInt8 := 0x2f

/-- The path that a string spells. -/
def ofString (s : String) : Path :=
  Utf8.encodeString s

/-- Whether the path starts at the root. -/
def isAbsolute (p : Path) : Bool :=
  p.head? == some slash

/-- The path `p` as seen from the directory `dir`; an absolute path stands for itself. -/
def join (dir p : Path) : Path :=
  if isAbsolute p then p
  else if dir.isEmpty || dir.getLast? == some slash then dir ++ p
  else dir ++ slash :: p

/-- Joins a name given as a string. -/
def joinString (dir : Path) (name : String) : Path :=
  join dir (ofString name)

/-- The names of a path, empty ones too. -/
def names (p : Path) : List Bytes :=
  p.splitOn slash

/-- The path as text, with replacement characters for what is no text. -/
def display (p : Path) : String :=
  Utf8.decodeLossy p

end Path

end RouteLens
