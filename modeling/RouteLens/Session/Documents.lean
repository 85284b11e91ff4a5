import RouteLens.Url.FilePath
import RouteLens.Files.Tree

/-!
# Documents

The texts of the documents that a client has open, by URL, as the client reports them. Whatever is
not among them is looked for on disk.
-/

namespace RouteLens

/-- What a client reports of a document. -/
inductive DocumentEvent
  | opened (uri : Url) (text : String)
  /-- Changes of the whole text, in order. -/
  | changed (uri : Url) (texts : List String)
  /-- The text comes along if the client sends it. -/
  | saved (uri : Url) (text : Option String)
  | closed (uri : Url)
  deriving DecidableEq, Repr

namespace DocumentEvent

/-- The document that the event is about. -/
def uri : DocumentEvent → Url
  | opened uri _ => uri
  | changed uri _ => uri
  | saved uri _ => uri
  | closed uri => uri

end DocumentEvent

/-- The texts of documents by URL, one for each. -/
structure Documents where
  entries : List (Url × String) := []
  deriving DecidableEq, Repr

namespace Documents

/-- The stored text of a document. -/
def get? (docs : Documents) (uri : Url) : Option String :=
  docs.entries.lookup uri

/-- Forgets a document. -/
def erase (docs : Documents) (uri : Url) : Documents :=
  ⟨docs.entries.filter (·.1 ≠ uri)⟩

/-- Stores the text of a document. -/
def store (docs : Documents) (uri : Url) (text : String) : Documents :=
  ⟨(uri, text) :: (docs.erase uri).entries⟩

/-- Takes in what a client reports. Of several changes in one report the first is stored. -/
def apply (docs : Documents) : DocumentEvent → Documents
  | .opened uri text => docs.store uri text
  | .changed uri texts => match texts.head? with
    | some text => docs.store uri text
    | none => docs
  | .saved uri text => match text with
    | some text => docs.store uri text
    | none => docs
  | .closed uri => docs.erase uri

/-- The text of a document: the stored one, or else that of the file it denotes. -/
def text? (docs : Documents) (files : FileTree) (uri : Url) : Option String :=
  match docs.get? uri with
  | some text => some text
  | none => uri.filePath?.bind files.readText?

end Documents

end RouteLens
