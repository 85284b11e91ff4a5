import RouteLens.Proofs.Artisan.Fetch
import RouteLens.Proofs.Files.Walk
import RouteLens.Proofs.Session.Step

/-!
# Documents in step with the client

The client is an editor with some documents open. A session that hears its reports keeps the texts
that the editor shows, as long as no report carries changes of which the first and the last differ
(`codeLens_of_run`): of several changes in one report the session takes in the first, and the editor
shows the last (`not_forall_codeLens`).
-/

namespace RouteLens

/-! ## Stored texts -/

namespace Documents

theorem lookup_filter_ne {entries : List (Url × String)} {uri other : Url} (h : other ≠ uri) :
    (entries.filter (·.1 ≠ uri)).lookup other = entries.lookup other := by
  induction entries with
  | nil => rfl
  | cons entry rest ih =>
    obtain ⟨key, text⟩ := entry
    by_cases hkey : key = uri
    · have hne : (other == key) = false := by simp [hkey, h]
      rw [List.filter_cons_of_neg (by simp [hkey]), ih, List.lookup_cons, hne]
    · rw [List.filter_cons_of_pos (by simp [hkey]), List.lookup_cons, List.lookup_cons, ih]

theorem lookup_filter_self (entries : List (Url × String)) (uri : Url) :
    (entries.filter (·.1 ≠ uri)).lookup uri = none := by
  rw [List.lookup_eq_none_iff]
  intro entry hmem
  have hne : entry.1 ≠ uri := by simpa using (List.mem_filter.mp hmem).2
  simp [hne.symm]

@[simp] theorem get?_empty (uri : Url) : ({} : Documents).get? uri = none := rfl

@[simp] theorem get?_erase (docs : Documents) (uri other : Url) :
    (docs.erase uri).get? other = if other = uri then none else docs.get? other := by
  rw [get?, erase]
  split
  · next h => rw [h, lookup_filter_self]
  · next h => rw [lookup_filter_ne h, get?]

@[simp] theorem get?_store (docs : Documents) (uri other : Url) (text : String) :
    (docs.store uri text).get? other = if other = uri then some text else docs.get? other := by
  rw [get?, store, List.lookup_cons]
  by_cases h : other = uri
  · simp [h]
  · have hkey : (other == uri) = false := by simp [h]
    rw [hkey, if_neg h]
    exact (docs.get?_erase uri other).trans (if_neg h)

theorem text?_eq (docs : Documents) (files : FileTree) (uri : Url) :
    docs.text? files uri = (docs.get? uri).or (uri.filePath?.bind files.readText?) := by
  rw [text?]
  cases docs.get? uri <;> rfl

end Documents

/-! ## Editors -/

/-- The texts that an editor shows: one for each open document. -/
abbrev Editor := Url → Option String

namespace Editor

/-- The editor before it opens a document. -/
def empty : Editor := fun _ => none

/-- The editor once it has done what it reports; changes replace the text one after the other. -/
def after (editor : Editor) : DocumentEvent → Editor
  | .opened uri text => fun other => if other = uri then some text else editor other
  | .changed uri texts => fun other =>
    if other = uri then texts.foldl (fun _ text => some text) (editor uri) else editor other
  | .saved _ _ => editor
  | .closed uri => fun other => if other = uri then none else editor other

/-- What an editor can report: it changes and saves open documents only, and what it saves is the
text that it shows. -/
def CanReport (editor : Editor) : DocumentEvent → Prop
  | .changed uri _ => editor uri ≠ none
  | .saved uri saved => editor uri ≠ none ∧ ∀ text, saved = some text → editor uri = some text
  | _ => True

/-- What an editor can report in a row. -/
def Disciplined : Editor → List DocumentEvent → Prop
  | _, [] => True
  | editor, event :: rest => editor.CanReport event ∧ Disciplined (editor.after event) rest

/-- The text of a document: the one that the editor shows, or else that of the file it denotes. -/
def text? (editor : Editor) (files : FileTree) (uri : Url) : Option String :=
  (editor uri).or (uri.filePath?.bind files.readText?)

/-- The lenses of a document under the table of a server, which is loaded first. -/
def lenses (editor : Editor) (launch : Launcher) (server : Server) (files : FileTree) (uri : Url) :
    Option (List Lens) :=
  let (loaded, now, _) := server.load launch files
  if uri.isPhpFile && server.config.enabled then
    (editor.text? now uri).bind (Lens.ofSource loaded.cache.table)
  else none

theorem foldl_some (texts : List String) (shown : Option String) :
    texts.foldl (fun _ text => some text) shown = texts.getLast?.or shown := by
  induction texts generalizing shown with
  | nil => rfl
  | cons text rest ih =>
    rw [List.foldl_cons, ih, List.getLast?_cons]
    cases rest.getLast? <;> rfl

/-- The text of a document stays in step with an editor whose changes of it come one at a time, or
agree. -/
theorem get?_apply {editor : Editor} {docs : Documents} {uri : Url}
    (hsame : docs.get? uri = editor uri) {event : DocumentEvent} (hreport : editor.CanReport event)
    (hplain : ∀ texts, event = .changed uri texts → texts.head? = texts.getLast?) :
    (docs.apply event).get? uri = editor.after event uri := by
  cases event with
  | opened other text => simp [Documents.apply, after, hsame]
  | changed other texts =>
    simp only [after, foldl_some, Documents.apply]
    by_cases h : uri = other
    · subst h
      rw [hplain texts rfl, if_pos rfl]
      cases texts.getLast? with
      | none => exact hsame
      | some text => simp
    · rw [if_neg h]
      cases texts.head? with
      | none => exact hsame
      | some text => simp [h, hsame]
  | saved other saved =>
    cases saved with
    | none => exact hsame
    | some text =>
      have hshown := hreport.2 text rfl
      simp only [Documents.apply, Documents.get?_store, after, hsame]
      split
      · next h => rw [h, hshown]
      · rfl
  | closed other => simp [Documents.apply, after, hsame]

theorem get?_foldl_apply {editor : Editor} {docs : Documents} {uri : Url}
    (hsame : docs.get? uri = editor uri) {events : List DocumentEvent}
    (hdisciplined : editor.Disciplined events)
    (hplain : ∀ texts, .changed uri texts ∈ events → texts.head? = texts.getLast?) :
    (events.foldl Documents.apply docs).get? uri = events.foldl after editor uri := by
  induction events generalizing editor docs with
  | nil => exact hsame
  | cons event rest ih =>
    obtain ⟨hreport, hrest⟩ := hdisciplined
    refine ih (get?_apply hsame hreport ?_) hrest fun texts hmem => ?_
    · rintro texts rfl
      exact hplain texts List.mem_cons_self
    · exact hplain texts (List.mem_cons_of_mem _ hmem)

end Editor

/-! ## Sessions -/

namespace Session

/-- What a session hears in a step: what is reported while it serves. -/
def hears (s : Session) (step : SessionStep) : List DocumentEvent :=
  match s.lifecycle with
  | .serving _ => step.report?.toList
  | _ => []

/-- What a session hears over some steps. -/
def heard (launch : Launcher) (s : Session) : List SessionStep → List DocumentEvent
  | [] => []
  | step :: rest => s.hears step ++ heard launch (s.step launch step).2 rest

/-- The documents of a session, none unless it serves. -/
def documents (s : Session) : Documents :=
  match s.lifecycle with
  | .serving server => server.documents
  | _ => {}

/-- A session that serves no more. -/
def IsOver (s : Session) : Prop :=
  s.lifecycle = .stopped ∨ s.lifecycle = .exited

variable {launch : Launcher} {s : Session}

theorem remove_lifecycle (path : Path) :
    (s.step launch (.remove path)).2.lifecycle = s.lifecycle := by
  obtain ⟨files, lifecycle⟩ := s
  cases lifecycle with
  | exited => rfl
  | fresh | stopped | serving =>
    simp only [Session.step]
    cases files.remove path <;> rfl

theorem IsOver.step (h : s.IsOver) (step : SessionStep) : (s.step launch step).2.IsOver := by
  cases step with
  | remove path => rwa [IsOver, remove_lifecycle]
  | write | read =>
    obtain ⟨files, lifecycle⟩ := s
    obtain rfl | rfl := h
    · exact .inl rfl
    · exact .inr rfl
  | call call =>
    obtain ⟨files, lifecycle⟩ := s
    obtain rfl | rfl := h
    · show IsOver (dispatch launch ⟨files, .stopped⟩ call (Method.ofName call.method)).2
      cases Method.ofName call.method with
      | exit => exact .inr rfl
      | _ => exact .inl rfl
    · exact .inr rfl

theorem IsOver.run (h : s.IsOver) (steps : List SessionStep) : (s.run launch steps).2.IsOver := by
  induction steps generalizing s with
  | nil => exact h
  | cons step rest ih => exact ih (h.step step)

/-- A session begins without documents. -/
theorem begin_documents (files : FileTree) (call : Call) :
    (begin files call).2.documents = {} := by
  rw [begin]
  split
  · rfl
  · split <;> rfl

/-- In a step a session takes in what it hears, if it goes on after it. -/
theorem documents_step (step : SessionStep) (h : ¬ (s.step launch step).2.IsOver) :
    (s.step launch step).2.documents = (s.hears step).foldl Documents.apply s.documents := by
  obtain ⟨files, lifecycle⟩ := s
  cases lifecycle with
  | stopped => exact absurd (IsOver.step (.inl rfl) step) h
  | exited => exact absurd (IsOver.step (.inr rfl) step) h
  | fresh =>
    cases step with
    | write | read => rfl
    | remove path =>
      rw [documents, remove_lifecycle]
      rfl
    | call call =>
      show (dispatch launch ⟨files, .fresh⟩ call (Method.ofName call.method)).2.documents = {}
      cases Method.ofName call.method with
      | request method =>
        cases method with
        | begin => exact begin_documents files call
        | _ => rfl
      | _ => rfl
  | serving server =>
    cases step with
    | write | read => rfl
    | remove path =>
      rw [documents, remove_lifecycle]
      rfl
    | call call =>
      have hserves := serves_dispatch launch files server call
      have hhears : hears ⟨files, .serving server⟩ (.call call) = call.report?.toList := rfl
      rw [hhears]
      rw [step_call] at h ⊢
      generalize dispatch launch (withServer files server) call (Method.ofName call.method) = done
        at hserves h
      cases hserves with
      | lenses _ hreport =>
        rw [hreport, documents, withServer_lifecycle, Server.codeLens_frame]
        rfl
      | command _ hreport =>
        rw [hreport, documents, withServer_lifecycle, Server.executeCommand_frame]
        rfl
      | document hreport => rw [hreport]; rfl
      | announce hreport | idle hreport => rw [hreport]; rfl
      | ended _ _ _ hafter => exact absurd hafter h

/-- A session that serves has the documents that it has heard of. -/
theorem documents_run (steps : List SessionStep) (h : ¬ (s.run launch steps).2.IsOver) :
    (s.run launch steps).2.documents =
      (s.heard launch steps).foldl Documents.apply s.documents := by
  induction steps generalizing s with
  | nil => rfl
  | cons step rest ih =>
    have hstep : ¬ (s.step launch step).2.IsOver := fun hover => h (hover.run rest)
    rw [heard, List.foldl_append, ← documents_step step hstep]
    exact ih h

end Session

/-- A server that has the text of a document that an editor shows answers with its lenses. -/
theorem Server.codeLens_answer_of_documents {launch : Launcher} {server : Server} {editor : Editor}
    {uri : Url} (hsame : server.documents.get? uri = editor uri) (files : FileTree) :
    (server.codeLens launch files uri).1.answer =
      some (.ok (.lenses (editor.lenses launch server files uri))) := by
  have htext (now : FileTree) :
      (server.load launch files).1.documents.text? now uri = editor.text? now uri := by
    rw [Server.load_frame, Documents.text?_eq, Editor.text?, hsame]
  rw [Server.codeLens_answer, Editor.lenses]
  simp only [htext]

/-- The lenses that a session answers a request with are those of the text that the editor shows,
or of the file on disk for a document that is not open: for every row of steps in which the editor
is disciplined and no report carries changes of the document of which the first and the last
differ. -/
theorem codeLens_of_run (launch : Launcher) (files : FileTree) (steps : List SessionStep)
    {server : Server} {call : Call} {uri : Url}
    (hserving : (Session.run launch { files } steps).2.lifecycle = .serving server)
    (hdisciplined : Editor.empty.Disciplined (Session.heard launch { files } steps))
    (hplain : ∀ texts, .changed uri texts ∈ Session.heard launch { files } steps →
      texts.head? = texts.getLast?)
    (hask : call.request? = some (.codeLens uri)) :
    ∃ reply, ((Session.run launch { files } steps).2.step launch (.call call)).1 = .reply reply ∧
      reply.answer = some (.ok (.lenses
        (((Session.heard launch { files } steps).foldl Editor.after Editor.empty).lenses launch
          server (Session.run launch { files } steps).2.files uri))) := by
  have hgoesOn : ¬ (Session.run launch { files } steps).2.IsOver := by
    rintro (h | h) <;> rw [hserving] at h <;> cases h
  have hdocuments := Session.documents_run steps hgoesOn
  generalize (Session.run launch { files } steps).2 = s at hserving hdocuments
  generalize Session.heard launch { files } steps = heard at hdisciplined hplain hdocuments
  obtain ⟨now, lifecycle⟩ := s
  obtain rfl := hserving
  change server.documents = heard.foldl Documents.apply {} at hdocuments
  have hempty : ({} : Documents).get? uri = Editor.empty uri := Documents.get?_empty uri
  refine ⟨_, Session.step_codeLens hask, Server.codeLens_answer_of_documents ?_ now⟩
  rw [hdocuments, Editor.get?_foldl_apply hempty hdisciplined hplain]

/-! ## A session about one document -/

namespace OneDocument

/-- The document. -/
def page : Url := { scheme := "file", path := .names ["c.php"] }

/-- A controller with one method. -/
def controller : String := "class C\x7bpublic function f("

/-- A workspace with a script in it. -/
def files : FileTree := ⟨[([Utf8.encodeString Artisan.standardScript], .file [])]⟩

/-- A route of the method. -/
def route : Route := { method := "GET", uri := "", name := none, action := "C@f" }

/-- The listing of that route. -/
def listing : String := "[\x7b\"action\":\"C@f\"\x7d]"

/-- Whatever is run prints the listing. -/
def launch : Launcher := fun _ files => (.ended (.exited 0) (Utf8.encodeString listing) [], files)

/-- Parameters about the document. -/
def about (document more : List (String × Json)) : Option Json :=
  some (.object (("textDocument", .object (("uri", .string "file:///c.php") :: document)) :: more))

def beginning : Call :=
  { method := "initialize"
    params := some (.object [("rootUri", .string "file:///"), ("capabilities", .object [])]) }

def opening : Call :=
  { method := "textDocument/didOpen"
    params := about [("languageId", .string "php"), ("version", .ofNat 1), ("text", .string "")] []
    notify := true }

/-- One report of changes. -/
def changing (texts : List String) : Call :=
  { method := "textDocument/didChange"
    params := about [("version", .ofNat 2)]
      [("contentChanges", .array (texts.map fun text => .object [("text", .string text)]))]
    notify := true }

def asking : Call :=
  { method := "textDocument/codeLens", params := about [] [] }

/-- The document is opened, and changed in one report. -/
def steps (texts : List String) : List SessionStep :=
  [.call beginning, .call opening, .call (changing texts)]

/-- A server of the workspace that has still to load the routes. -/
def server (documents : Documents) : Server :=
  { config := {}, cache := { dir := some [Path.slash] }, documents }

/-- The workspace with which the session begins. -/
def workspace : Workspace :=
  { rootUri := some { scheme := "file", path := .names [""] } }

theorem workspace?_beginning : beginning.params.bind Params.workspace? = some workspace :=
  rfl

/-- The server starts with the settings that the workspace holds. -/
theorem start_workspace {tree : FileTree} {config : Config}
    (hconfig : Config.load tree [Path.slash] = config) :
    Server.start tree workspace = { server {} with config } := by
  have hroot : workspace.root? = some [Path.slash] := rfl
  rw [Server.start, hroot]
  show ({ config := Config.load tree [Path.slash], cache := _ } : Server) = _
  rw [hconfig]
  rfl

theorem step_beginning_of_load {tree : FileTree} {config : Config}
    (hconfig : Config.load tree [Path.slash] = config) :
    (Session.step launch { files := tree } (.call beginning)).2 =
      Session.withServer tree { server {} with config } := by
  have hrequest : ¬ beginning.notify = true := Bool.false_ne_true
  show (Session.begin tree beginning).2 = _
  rw [Session.begin, if_neg hrequest, workspace?_beginning, ← start_workspace hconfig]

/-- A file right below the root of the workspace is found by its name. -/
theorem resolve_file {tree : FileTree} {path : Path} {content : Bytes} (name : String)
    (hpath : FileTree.checkPath path = .ok [[], Utf8.encodeString name])
    (hname : FileTree.IsPlain (Utf8.encodeString name))
    (hfile : tree.entry? [Utf8.encodeString name] = some (.file content)) :
    tree.resolve path = .ok [Utf8.encodeString name] := by
  have hleads : tree.LeadsTo [] [[], Utf8.encodeString name] [Utf8.encodeString name] :=
    .stay rfl (.down rfl hname hfile nofun .arrived)
  exact hleads.resolve hpath

theorem resolve_missing {tree : FileTree} {path : Path} (name : String)
    (hpath : FileTree.checkPath path = .ok [[], Utf8.encodeString name])
    (hname : FileTree.IsPlain (Utf8.encodeString name))
    (hnone : tree.entry? [Utf8.encodeString name] = none) :
    tree.resolve path = .error .noEntry := by
  have hroot : tree.LeadsTo [] [[]] [] := .stay rfl .arrived
  exact hroot.resolve_missing hpath rfl hname hnone

theorem load_of_settings {tree : FileTree} {text : String} {config : Config}
    (hfile : tree.entry? [Utf8.encodeString Config.fileName] =
      some (.file (Utf8.encodeString text)))
    (htext : Config.decode? text = some config) : Config.load tree [Path.slash] = config := by
  have hfound : tree.resolve (Path.joinString [Path.slash] Config.fileName) =
      .ok [Utf8.encodeString Config.fileName] :=
    resolve_file Config.fileName rfl (by decide) hfile
  rw [Config.load, Config.loadFile, FileTree.readText?_of_resolve hfound hfile, Option.bind_some,
    htext, Option.getD_some]

theorem load_files : Config.load files [Path.slash] = {} := by
  have hmissing : files.resolve (Path.joinString [Path.slash] Config.fileName) = .error .noEntry :=
    resolve_missing Config.fileName rfl (by decide) rfl
  rw [Config.load, Config.loadFile, FileTree.readText?_of_error hmissing]
  rfl

theorem step_beginning :
    (Session.step launch { files } (.call beginning)).2 = Session.withServer files (server {}) :=
  step_beginning_of_load load_files

theorem fetch?_beginning :
    (Session.step launch { files } (.call beginning)).1.fetch? = none :=
  rfl

theorem report?_opening : opening.report? = some (.opened page "") :=
  rfl

theorem report?_changing (texts : List String) :
    (changing texts).report? = some (.changed page texts) := by
  have huri : Json.url? (.string "file:///c.php") = some page := rfl
  have hchanges :
      (texts.map fun text => Json.object [("text", .string text)]).mapM Params.change? =
        some texts := by
    induction texts with
    | nil => rfl
    | cons text rest ih =>
      rw [List.map_cons, List.mapM_cons, ih]
      rfl
  have hchanged : (changing texts).params.bind Params.changed? = some (.changed page texts) := by
    change (Json.url? (.string "file:///c.php")).bind (fun uri =>
      ((texts.map fun text => Json.object [("text", .string text)]).mapM Params.change?).bind
        fun texts => some (DocumentEvent.changed uri texts)) = _
    rw [huri, hchanges]
    rfl
  exact Call.report?_notification rfl rfl (congrArg (Option.map Notification.document) hchanged)

theorem request?_asking : asking.request? = some (.codeLens page) :=
  rfl

theorem run_steps (texts : List String) :
    (Session.run launch { files } (steps texts)).2 =
      Session.withServer files
        (server ((({} : Documents).apply (.opened page "")).apply (.changed page texts))) := by
  simp only [steps, Session.run, step_beginning, Session.withServer,
    Session.step_report report?_opening, Session.step_report (report?_changing texts)]
  rfl

theorem heard_steps (texts : List String) :
    Session.heard launch { files } (steps texts) = [.opened page "", .changed page texts] := by
  simp only [steps, Session.heard, step_beginning, Session.withServer,
    Session.step_report report?_opening, Session.hears, SessionStep.report?, report?_opening,
    report?_changing]
  rfl

theorem disciplined_steps (texts : List String) :
    Editor.empty.Disciplined (Session.heard launch { files } (steps texts)) := by
  rw [heard_steps]
  exact ⟨trivial, Option.some_ne_none "", trivial⟩

theorem hasScript_files :
    Artisan.hasScript files [Path.slash] (Config.artisan {}) = true :=
  FileTree.pathExists_of_resolve (resolve_file Artisan.standardScript rfl (by decide) rfl)

theorem classify_listing :
    Artisan.classify (Config.timeout {}) (.ended (.exited 0) (Utf8.encodeString listing) []) =
      .ok listing := by
  rw [Artisan.classify_success, Utf8.decode_eq_ok_iff.mpr rfl]

theorem fetch_files :
    Artisan.fetch launch {} [Path.slash] files =
      (⟨.ok listing, some (Artisan.command {} [Path.slash])⟩, files) := by
  rw [Artisan.fetch, if_pos hasScript_files]
  simp only [launch, classify_listing]

theorem load_server (documents : Documents) :
    ((server documents).load launch files).1.cache.table = Listing.table listing := by
  have hwants : (server documents).cache.wantsLoad = true := rfl
  have hstart : (server documents).cache.start? =
      some ([Path.slash], { dir := some [Path.slash], refreshing := true }) := rfl
  have hconfig : (server documents).config = {} := rfl
  rw [Server.load, if_pos hwants, Server.refresh, hstart]
  simp only [hconfig, fetch_files, RouteCache.finish, RouteCache.tableAfter, FetchEnd.ofExcept]

theorem isPhpFile_page : page.isPhpFile = true :=
  rfl

theorem lenses_page {editor : Editor} {text : String} (hshown : editor page = some text)
    (documents : Documents) :
    editor.lenses launch (server documents) files page =
      Lens.ofSource (Listing.table listing) text := by
  have hwanted : (page.isPhpFile && (server documents).config.enabled) = true := by
    rw [isPhpFile_page]
    rfl
  rw [Editor.lenses]
  simp only [hwanted, if_true, load_server, Editor.text?, hshown, Option.some_or, Option.bind_some]

theorem codeLens_page {documents : Documents} {text : String}
    (hkept : documents.get? page = some text) :
    ((server documents).codeLens launch files page).1.answer =
      some (.ok (.lenses (Lens.ofSource (Listing.table listing) text))) := by
  have hsame : (server documents).documents.get? page = (documents.get? : Editor) page := rfl
  rw [Server.codeLens_answer_of_documents hsame, lenses_page hkept]

theorem table_listing : Listing.table listing = RouteTable.ofList [route] := by
  have hroutes : Listing.routes listing = [route] := by decide +kernel
  rw [Listing.table, hroutes]

theorem ofSource_controller :
    Lens.ofSource (Listing.table listing) controller = some [⟨⟨⟨0, 0⟩, ⟨0, 0⟩⟩, "GET ", ""⟩] := by
  rw [table_listing]
  rfl

theorem ofSource_empty (table : RouteTable) : Lens.ofSource table "" = none := by
  have hactions : Controller.actions "" = [] := rfl
  rw [Lens.ofSource, hactions]
  rfl

theorem codeLens_of_run_changed :
    ∃ reply, ((Session.run launch { files } (steps [controller])).2.step launch (.call asking)).1 =
        .reply reply ∧
      reply.answer = some (.ok (.lenses (some [⟨⟨⟨0, 0⟩, ⟨0, 0⟩⟩, "GET ", ""⟩]))) := by
  have hserving := congrArg Session.lifecycle (run_steps [controller])
  have hplain : ∀ texts, .changed page texts ∈ Session.heard launch { files } (steps [controller]) →
      texts.head? = texts.getLast? := by
    rw [heard_steps]
    intro texts hmem
    obtain rfl : texts = [controller] := by simpa using hmem
    rfl
  obtain ⟨reply, hreply, hanswer⟩ := codeLens_of_run launch files (steps [controller]) hserving
    (disciplined_steps [controller]) hplain request?_asking
  refine ⟨reply, hreply, ?_⟩
  rw [hanswer, heard_steps, run_steps, Session.withServer_files, lenses_page rfl,
    ofSource_controller]

/-- Of two changes in one report the session takes in the first. -/
theorem not_forall_codeLens :
    ¬ ∀ (launch : Launcher) (files : FileTree) (steps : List SessionStep) (server : Server)
      (call : Call) (uri : Url),
      (Session.run launch { files } steps).2.lifecycle = .serving server →
      Editor.empty.Disciplined (Session.heard launch { files } steps) →
      call.request? = some (.codeLens uri) →
      ∃ reply, ((Session.run launch { files } steps).2.step launch (.call call)).1 = .reply reply ∧
        reply.answer = some (.ok (.lenses
          (((Session.heard launch { files } steps).foldl Editor.after Editor.empty).lenses launch
            server (Session.run launch { files } steps).2.files uri))) := by
  intro hall
  have hserving := congrArg Session.lifecycle (run_steps [controller, ""])
  obtain ⟨reply, hreply, hanswer⟩ := hall launch files (steps [controller, ""]) _ asking page
    hserving (disciplined_steps _) request?_asking
  rw [run_steps, Session.withServer, Session.step_codeLens request?_asking] at hreply
  obtain rfl := SessionAnswer.reply.inj hreply
  rw [codeLens_page rfl, heard_steps, run_steps, Session.withServer_files, lenses_page rfl,
    ofSource_controller, ofSource_empty] at hanswer
  cases hanswer

end OneDocument

end RouteLens
