import RouteLens.Url.Basic
import RouteLens.Files.Path

/-!
# Files that URLs name

The path of the file that a URL names on this machine, and the documents that are PHP sources.
-/

namespace RouteLens.Url

/-- Whether octets end in the letter of a drive, after at least one octet. -/
def endsInDrive (path : Path) : Bool :=
  match path.reverse with
  | mark :: letter :: _ :: _ =>
    (Char.ofNat letter.toNat).isAlpha && (mark == 0x3a || mark == 0x7c)
  | _ => false

/-- The octets of names with a slash before each, their escapes read. -/
def namesPath (names : List String) : Path :=
  names.flatMap fun name => Path.slash :: percentDecode name.toList

/-- Whether a URL has no host but this machine. -/
def isLocal (url : Url) : Bool :=
  url.host.all fun host => host = "" || host = "localhost"

/-- The path of the file that a URL without a foreign host names, whatever its scheme; a path that
ends in the letter of a drive gets a slash. -/
def filePath? (url : Url) : Option Path :=
  match url.path with
  | .names (name :: names) =>
    if url.isLocal then
      let path := namesPath (name :: names)
      some (if endsInDrive path then path ++ [Path.slash] else path)
    else none
  | _ => none

/-- Whether a text ends in `.php`, in letters of either case. -/
def endsInPhp (text : List Char) : Bool :=
  ['p', 'h', 'p', '.'].isPrefixOf (text.map Char.toLower).reverse

/-- Whether a document is a PHP source on this machine. -/
def isPhpFile (url : Url) : Bool :=
  url.scheme == "file" && endsInPhp url.pathText.toList

end RouteLens.Url
