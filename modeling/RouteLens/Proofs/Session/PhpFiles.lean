import RouteLens.Proofs.Session.Lenses
import RouteLens.Proofs.Url.FilePath

/-!
# Files that lenses are read from

A document that is not open is read from disk, but only if its URL is that of a PHP source. Since
the path of the file then ends in `.php` as the URL does, no other file is ever opened for lenses
(`codeLens_readsPhp`).
-/

namespace RouteLens

/-- The file of a PHP source has a name that ends in `.php`. -/
theorem Url.endsInPhp_of_isPhpFile {uri : Url} {path : Path} (hphp : uri.isPhpFile = true)
    (hpath : uri.filePath? = some path) :
    path.EndsInPhp ∧ Path.EndsInPhp (FileTree.lastName path) := by
  obtain ⟨stem, ending, htext, hending⟩ := (isPhpFile_iff.mp hphp).ending
  have hmem := mem_phpEndings hending
  obtain ⟨front, rfl⟩ := filePath?_endsInPhp hmem ⟨stem, htext.symm⟩ hpath
  refine ⟨⟨front, ending, rfl, hending⟩, ?_⟩
  rw [FileTree.lastName_append (phpEndings_octets ending hmem).1]
  exact ⟨_, ending, rfl, hending⟩

/-- Lenses are those of a text that any reader gives which reads PHP files as they are. -/
theorem Server.codeLens_answer_of_reader {launch : Launcher} {server : Server} {files : FileTree}
    {read : Path → Option String}
    (hread : ∀ path : Path, Path.EndsInPhp (FileTree.lastName path) →
      read path = (server.load launch files).2.1.readText? path) (uri : Url) :
    (server.codeLens launch files uri).1.answer = some (.ok (.lenses
      (if uri.isPhpFile && server.config.enabled then
        ((server.documents.get? uri).or (uri.filePath?.bind read)).bind
          (Lens.ofSource (server.load launch files).1.cache.table)
      else none))) := by
  have hdocuments := congrArg Server.documents (Server.load_frame launch server files)
  rw [Server.codeLens_answer]
  split
  · next hwanted =>
    have hphp := (Bool.and_eq_true_iff.mp hwanted).1
    have hsame : uri.filePath?.bind (server.load launch files).2.1.readText? =
        uri.filePath?.bind read := by
      refine Option.bind_congr fun path hpath => ?_
      exact (hread path (Url.endsInPhp_of_isPhpFile hphp hpath).2).symm
    rw [Documents.text?_eq, hsame, hdocuments]
  · rfl

/-- The test of a URL and the reader of its file agree: whatever escapes are in the URL of a PHP
source, the path that is opened for it ends in `.php`, and so does the name of the file. So the
answer to a request for lenses depends on no other file: any reader gives it that reads the files
whose names end in `.php` as they are, whatever it makes of all others. -/
theorem codeLens_readsPhp :
    (∀ (uri : Url) (path : Path), uri.isPhpFile = true → uri.filePath? = some path →
      path.EndsInPhp ∧ Path.EndsInPhp (FileTree.lastName path)) ∧
    ∀ (launch : Launcher) (server : Server) (files : FileTree) (uri : Url)
      (read : Path → Option String),
      (∀ path : Path, Path.EndsInPhp (FileTree.lastName path) →
        read path = (server.load launch files).2.1.readText? path) →
      (server.codeLens launch files uri).1.answer = some (.ok (.lenses
        (if uri.isPhpFile && server.config.enabled then
          ((server.documents.get? uri).or (uri.filePath?.bind read)).bind
            (Lens.ofSource (server.load launch files).1.cache.table)
        else none))) :=
  ⟨fun _ _ hphp hpath => Url.endsInPhp_of_isPhpFile hphp hpath,
    fun _ _ _ uri _ hread => Server.codeLens_answer_of_reader hread uri⟩

namespace OneDocument

/-- A URL with a slash that is written as an escape, and with percent signs that start none. -/
def escapedPage : Url := { scheme := "file", path := .names ["%2", "a%2Fb%zz%2.PhP"] }

/-- A tree with the document in it. -/
def withPage : FileTree :=
  ⟨[([Utf8.encodeString "c.php"], .file (Utf8.encodeString controller))]⟩

/-- A server that has loaded the routes and has no document open. -/
def loaded : Server := { config := {}, cache := { dir := none, table := Listing.table listing } }

/-- A reader that finds the controller under one more name. -/
def readMore (path : Path) : Option String :=
  if path = Utf8.encodeString "/c.txt" then some controller else withPage.readText? path

theorem load_loaded : loaded.load launch withPage = (loaded, withPage, none) := by
  have hwants : loaded.cache.wantsLoad = false := by
    simp only [loaded, table_listing]
    rfl
  rw [Server.load, hwants]
  rfl

theorem readMore_of_endsInPhp (path : Path) (h : Path.EndsInPhp (FileTree.lastName path)) :
    readMore path = (loaded.load launch withPage).2.1.readText? path := by
  have hne : path ≠ Utf8.encodeString "/c.txt" := by
    rintro rfl
    obtain ⟨stem, ending, heq, hending⟩ := h
    have hno : ∀ ending ∈ Url.phpEndings,
        ¬ Utf8.encode ending <:+ FileTree.lastName (Utf8.encodeString "/c.txt") := by
      decide
    exact hno ending (Url.mem_phpEndings hending) ⟨stem, heq.symm⟩
  rw [load_loaded, readMore, if_neg hne]

theorem readMore_page : readMore (Utf8.encodeString "/c.php") = some controller := by
  have hother : Utf8.encodeString "/c.php" ≠ Utf8.encodeString "/c.txt" := by decide
  have hfound : withPage.resolve (Utf8.encodeString "/c.php") = .ok [Utf8.encodeString "c.php"] :=
    resolve_file "c.php" rfl (by decide) rfl
  rw [readMore, if_neg hother, FileTree.readText?_of_resolve hfound rfl]

theorem codeLens_readsPhp_escaped :
    Path.EndsInPhp (Utf8.encodeString "/%2/a/b%zz%2.PhP") ∧
    (loaded.codeLens launch withPage page).1.answer =
      some (.ok (.lenses (some [⟨⟨⟨0, 0⟩, ⟨0, 0⟩⟩, "GET ", ""⟩]))) := by
  obtain ⟨hpaths, hreaders⟩ := codeLens_readsPhp
  have hphp : escapedPage.isPhpFile = true := rfl
  have hpath : escapedPage.filePath? = some (Utf8.encodeString "/%2/a/b%zz%2.PhP") := rfl
  refine ⟨(hpaths escapedPage _ hphp hpath).1, ?_⟩
  have hwanted : (page.isPhpFile && loaded.config.enabled) = true := by
    rw [isPhpFile_page]
    rfl
  have hfile : page.filePath? = some (Utf8.encodeString "/c.php") := rfl
  have hopen : loaded.documents.get? page = none := rfl
  have htext : (loaded.documents.get? page).or (page.filePath?.bind readMore) =
      some controller := by
    rw [hopen, hfile, Option.none_or]
    exact readMore_page
  have htable : (loaded.load launch withPage).1.cache.table = Listing.table listing := by
    rw [load_loaded]
    simp only [loaded]
  have hanswer := hreaders launch loaded withPage page readMore readMore_of_endsInPhp
  rw [hwanted, if_pos rfl, htext, htable] at hanswer
  rw [hanswer, Option.bind_some, ofSource_controller]

end OneDocument

end RouteLens
