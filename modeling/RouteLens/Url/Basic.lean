import RouteLens.Url.Host

/-!
# URLs

Absolute URLs in their normal form: the scheme in lower case, the path without dot segments, and
every part with the characters escaped that must not stand there. Reading a text takes the forms of
`file` URLs with missing slashes, and takes a backslash for a slash where the scheme has special
rules.
-/

namespace RouteLens

/-- The path of a URL. -/
inductive UrlPath
  /-- Names with a slash before each. -/
  | names (names : List String)
  /-- A text without structure. -/
  | plain (text : String)
  deriving DecidableEq, Repr

/-- An absolute URL. -/
structure Url where
  scheme : String
  credentials : String := ""
  host : Option String := none
  port : Option Nat := none
  path : UrlPath
  query : Option String := none
  fragment : Option String := none
  deriving DecidableEq, Repr

namespace Url

/-- The path of a URL as text. -/
def pathText (url : Url) : String :=
  match url.path with
  | .names names => String.join (names.map ("/" ++ ·))
  | .plain text => text

/-- The rules that a scheme follows. -/
inductive SchemeKind
  | file
  /-- An authority is required; the port that need not be written. -/
  | special (port : Nat)
  | plain
  deriving DecidableEq, Repr

namespace SchemeKind

/-- The rules of a scheme. -/
def ofScheme (scheme : String) : SchemeKind :=
  match [("http", 80), ("https", 443), ("ws", 80), ("wss", 443), ("ftp", 21)].lookup scheme with
  | some port => .special port
  | none => if scheme = "file" then .file else .plain

/-- Whether a backslash counts as a slash. -/
def isSpecial : SchemeKind → Bool
  | .plain => false
  | _ => true

/-- Whether the character is a slash under the rules. -/
def isSlash (kind : SchemeKind) (c : Char) : Bool :=
  c == '/' || (kind.isSpecial && c == '\\')

end SchemeKind

/-- The characters dropped at the ends of a text. -/
def isEdge (c : Char) : Bool :=
  c ≤ ' '

/-- The characters passed over wherever they stand. -/
def isBreak (c : Char) : Bool :=
  c == '\t' || c == '\n' || c == '\r'

/-- The text without control characters and spaces at its ends. -/
def trimEdges (text : List Char) : List Char :=
  ((text.dropWhile isEdge).reverse.dropWhile isEdge).reverse

/-- The text without tabs and line ends. -/
def dropBreaks (text : List Char) : List Char :=
  text.filter (!isBreak ·)

/-- The characters of a scheme after its first letter. -/
def isSchemeChar (c : Char) : Bool :=
  c.isAlphanum || c == '+' || c == '-' || c == '.'

/-- Splits off the scheme and its colon; tabs and line ends stay in what follows. -/
def splitScheme? (text : List Char) : Option (String × List Char) :=
  let front := dropBreaks (text.takeWhile fun c => isSchemeChar c || isBreak c)
  match front, text.dropWhile (fun c => isSchemeChar c || isBreak c) with
  | c :: _, ':' :: rest =>
    if c.isAlpha then some (String.ofList (front.map Char.toLower), rest) else none
  | _, _ => none

/-- Splits a text before the first occurrence of a mark; the second part is without it. -/
def splitMark (mark : Char) (text : List Char) : List Char × Option (List Char) :=
  match text.dropWhile (· ≠ mark) with
  | _ :: rest => (text.takeWhile (· ≠ mark), some rest)
  | [] => (text, none)

/-- Splits a text at every slash. -/
def splitSlashes (kind : SchemeKind) : List Char → List (List Char)
  | [] => [[]]
  | c :: rest =>
    if kind.isSlash c then [] :: splitSlashes kind rest
    else match splitSlashes kind rest with
      | name :: names => (c :: name) :: names
      | [] => [[c]]

/-- A name in lower case with its escaped dots read. -/
def dotted : List Char → List Char
  | '%' :: '2' :: e :: rest =>
    if e == 'e' || e == 'E' then '.' :: dotted rest else '%' :: '2' :: dotted (e :: rest)
  | c :: rest => c :: dotted rest
  | [] => []

/-- Whether a text is the letter of a drive with a mark behind it. -/
def isDrive (name : List Char) : Bool :=
  match name with
  | [c, mark] => c.isAlpha && (mark == ':' || mark == '|')
  | _ => false

/-- Whether a name stays when a dot segment goes up: the letter of a drive, and whatever a
backslash parts from one. -/
def isFixed (name : List Char) : Bool :=
  isDrive (name.takeWhile (· ≠ '\\'))

/-- The names, last first, without the last one. -/
def popName : List (List Char) → List (List Char)
  | [] => []
  | name :: rest => if isFixed name then name :: rest else rest

/-- Resolves dot segments in names that follow `done`, last first. A dot segment at the end leaves
an empty name. -/
def resolveDots (done : List (List Char)) : List (List Char) → List (List Char)
  | [] => done.reverse
  | name :: rest =>
    if dotted name = ['.', '.'] then
      if rest.isEmpty then ([] :: popName done).reverse else resolveDots (popName done) rest
    else if dotted name = ['.'] then
      if rest.isEmpty then ([] :: done).reverse else resolveDots done rest
    else resolveDots (name :: done) rest

/-- The names of the path that a text with a slash before it gives. -/
def pathNames (kind : SchemeKind) (text : List Char) : List (List Char) :=
  resolveDots [] ((splitSlashes kind text).map (percentEncode isPathEscape))

/-- The letter of a drive that a name starts with, if a tab or a line end follows its colon, and
the rest of the name. -/
def brokenDrive? (name : List Char) : Option (List Char × List Char) :=
  match name.dropWhile isBreak with
  | [] => none
  | letter :: rest => match rest.dropWhile isBreak with
    | ':' :: b :: rest =>
      if letter.isAlpha && isBreak b && !(dropBreaks rest).isEmpty then
        some ([letter, ':'], dropBreaks rest)
      else none
    | _ => none

/-- What the names of a file's path come to. -/
structure FileNames where
  names : List (List Char)
  /-- Whether the first name is the letter of a drive that takes the place of a host. -/
  drive : Bool := false

/-- Resolves dot segments in the names of a file's path that follow `done`, last first. The letter
of a drive as the first name gets its colon; one that a tab or a line end follows is a name of its
own, and what comes behind it is no dot segment. -/
def resolveFile (drive : Bool) (done : List (List Char)) : List (List Char) → FileNames
  | [] => ⟨done.reverse, drive⟩
  | raw :: rest =>
    let name := percentEncode isPathEscape (dropBreaks raw)
    if dotted name = ['.', '.'] then
      if rest.isEmpty then ⟨([] :: popName done).reverse, drive⟩
      else resolveFile drive (popName done) rest
    else if dotted name = ['.'] then
      if rest.isEmpty then ⟨([] :: done).reverse, drive⟩ else resolveFile drive done rest
    else if done.isEmpty then
      match brokenDrive? raw with
      | some (letter, text) =>
        resolveFile drive [percentEncode isPathEscape text, letter] rest
      | none =>
        if isDrive name then resolveFile true [name.take 1 ++ [':']] rest
        else resolveFile drive [name] rest
    else resolveFile drive (name :: done) rest

/-- The names without empty ones at the start, but at least one name. -/
def dropEmptyNames : List (List Char) → List (List Char)
  | [] => [[]]
  | [name] => [name]
  | name :: rest => if name.isEmpty then dropEmptyNames rest else name :: rest

/-- The names of a file's path that a text with a slash before it gives. -/
def fileNames (text : List Char) : FileNames :=
  let found := resolveFile false [] (splitSlashes .file text)
  { found with names := dropEmptyNames found.names }

/-- The path of names. -/
def ofNames (names : List (List Char)) : UrlPath :=
  .names (names.map String.ofList)

/-- The credentials of an authority in normal form, with the mark behind them. -/
def credentialsText (text : List Char) : String :=
  let (user, password) := splitMark ':' text
  let user := percentEncode isUserEscape user
  let password := percentEncode isUserEscape (password.getD [])
  let both := if password.isEmpty then user else user ++ ':' :: password
  String.ofList (if both.isEmpty then [] else both ++ ['@'])

/-- Splits an authority behind its last `@`: the credentials, if any, and the rest. -/
def splitCredentials (authority : List Char) : Option (List Char) × List Char :=
  if authority.contains '@' then
    let reversed := authority.reverse
    (some ((reversed.dropWhile (· ≠ '@')).drop 1).reverse, (reversed.takeWhile (· ≠ '@')).reverse)
  else (none, authority)

/-- Splits a host and its port at the first colon outside brackets. -/
def splitPort (inside : Bool) : List Char → List Char × Option (List Char)
  | [] => ([], none)
  | c :: rest =>
    if c == ':' && !inside then ([], some rest)
    else
      let inside := if c == '[' then true else if c == ']' then false else inside
      let (host, port) := splitPort inside rest
      (c :: host, port)

/-- The port that digits give, unless it is the one that need not be written. -/
def portOf (kind : SchemeKind) (digits : List Char) : Except UrlError (Option Nat) :=
  if digits.all Char.isDigit then
    let port := digits.foldl (fun n c => n * 10 + (c.toNat - '0'.toNat)) 0
    if port > 65535 then .error .invalidPort
    else if digits.isEmpty ∨ kind = .special port then .ok none
    else .ok (some port)
  else .error .invalidPort

/-- The parts of a URL behind the scheme. -/
structure Body where
  text : List Char
  query : Option (List Char)
  fragment : Option (List Char)

/-- Splits off query and fragment. -/
def Body.ofText (text : List Char) : Body :=
  let (text, fragment) := splitMark '#' text
  let (text, query) := splitMark '?' text
  ⟨text, query, fragment⟩

/-- A URL with the query and the fragment of a body. -/
def withBody (kind : SchemeKind) (body : Body) (url : Url) : Url :=
  { url with
    query := body.query.map fun q =>
      String.ofList (percentEncode (isQueryEscape kind.isSpecial) (dropBreaks q))
    fragment := body.fragment.map fun f =>
      String.ofList (percentEncode isFragmentEscape (dropBreaks f)) }

/-- The names of the path behind an authority; a path may start with a backslash behind a port. -/
def authorityNames (kind : SchemeKind) (path : List Char) : List (List Char) :=
  match path with
  | [] => if kind.isSpecial then [[]] else []
  | c :: rest => if kind.isSlash c then pathNames kind rest else pathNames kind path

/-- The URL with an authority and the text behind it. -/
def ofAuthority (scheme : String) (kind : SchemeKind) (ends : Bool) (text : List Char) :
    Except UrlError Url := do
  let authority := text.takeWhile (!kind.isSlash ·)
  let path := text.dropWhile (!kind.isSlash ·)
  let (credentials, rest) := splitCredentials authority
  if credentials = some [] ∧ rest.isEmpty ∧ !(path.isEmpty && ends) then throw .emptyHost
  let (hostText, portText) := splitPort false rest
  if hostText.isEmpty ∧ (portText.isSome ∨ kind.isSpecial) then throw .emptyHost
  let host ← if kind.isSpecial then specialHost hostText else plainHost hostText
  let behind := portText.getD []
  let port ← portOf kind (behind.takeWhile (· ≠ '\\'))
  let credentials := (credentials.map credentialsText).getD ""
  if host.isEmpty ∧ !credentials.isEmpty then throw .emptyHost
  let names := authorityNames kind (behind.dropWhile (· ≠ '\\') ++ path)
  return { scheme, credentials, host := some host, port, path := ofNames names }

/-- The `file` URL with a path that a text with a slash before it gives. -/
def ofFilePath (text : List Char) : Url :=
  { scheme := "file", path := ofNames (fileNames text).names }

/-- The `file` URL with the text behind two slashes: a host, unless it is the letter of a drive or
names this machine, and a path. The letter of a drive in front takes the place of a host. -/
def ofFileHost (text : List Char) : Except UrlError Url := do
  let hostText := dropBreaks (text.takeWhile (!SchemeKind.file.isSlash ·))
  let path := text.dropWhile (!SchemeKind.file.isSlash ·)
  if isDrive hostText then return ofFilePath text
  if hostText.isEmpty then return ofFilePath path
  let host ← specialHost hostText
  if host = "localhost" then return ofFilePath path
  let found := fileNames (path.drop 1)
  return { scheme := "file", host := if found.drive then none else some host,
           path := ofNames found.names }

/-- The text behind a slash that it starts with. -/
def behindFileSlash? (text : List Char) : Option (List Char) :=
  match text.dropWhile isBreak with
  | c :: rest => if SchemeKind.file.isSlash c then some rest else none
  | [] => none

/-- The `file` URL with the text behind the scheme. -/
def ofFileText (text : List Char) : Except UrlError Url :=
  match behindFileSlash? text with
  | none => .ok (ofFilePath text)
  | some rest => match behindFileSlash? rest with
    | none => .ok (ofFilePath rest)
    | some rest => ofFileHost rest

/-- The URL with a scheme and the text behind it. -/
def ofScheme (scheme : String) (body : Body) : Except UrlError Url :=
  let ends := body.query.isNone && body.fragment.isNone
  match SchemeKind.ofScheme scheme with
  | .file => ofFileText body.text
  | .special port =>
    let text := dropBreaks body.text
    ofAuthority scheme (.special port) ends (text.dropWhile (SchemeKind.special port).isSlash)
  | .plain => match dropBreaks body.text with
    | '/' :: '/' :: rest => ofAuthority scheme .plain ends rest
    | '/' :: rest => .ok { scheme, path := ofNames (pathNames .plain rest) }
    | text => .ok { scheme, path := .plain (String.ofList (percentEncode isControl text)) }

/-- The URL that a text is. -/
def parse (text : String) : Except UrlError Url :=
  match splitScheme? (trimEdges text.toList) with
  | none => .error .noScheme
  | some (scheme, rest) =>
    let body := Body.ofText rest
    (ofScheme scheme body).map (withBody (SchemeKind.ofScheme scheme) body)

end Url

end RouteLens
