import RouteLens.Proofs.Session.Progress

/-!
# Documents apart from each other and from the routes

What a session is told of a document is of account only to requests for the lenses of that document
(`documents_isolated`). Two sessions whose documents may have other texts (`Session.Alike`) take
every step alike, as long as no lenses are asked for of a document with another text; and what is
told of a document changes the text of no other. Whether lenses are answered from the table or the
routes are fetched first depends on no text at all.
-/

namespace RouteLens

/-- Whether a call notifies of a document, also if its parameters cannot be decoded. -/
def Call.isDocumentNotification (call : Call) : Bool :=
  match Method.ofName call.method with
  | .notification method => call.notify && method ≠ .initialized
  | _ => false

/-- Whether a step notifies of a document, also if its parameters cannot be decoded. -/
def SessionStep.isDocumentNotification : SessionStep → Bool
  | .call made => made.isDocumentNotification
  | _ => false

/-- The document that a step notifies of, if it does. -/
def SessionStep.about? (step : SessionStep) : Option Url :=
  step.report?.map (·.uri)

/-- All notifications but `initialized` are about a document. -/
theorem NotificationMethod.ne_initialized_iff {method : NotificationMethod} {params : Option Json}
    {notification : Notification} (h : method.decode? params = some notification) :
    method ≠ .initialized ↔ ∃ event, notification = .document event := by
  rw [decode?] at h
  obtain ⟨value, -, hvalue⟩ := Option.bind_eq_some_iff.mp h
  cases method with
  | initialized =>
    obtain ⟨_, -, rfl⟩ := Option.map_eq_some_iff.mp hvalue
    simp
  | opened | changed | saved | closed =>
    obtain ⟨event, -, rfl⟩ := Option.map_eq_some_iff.mp hvalue
    simp

theorem Call.isDocumentNotification_iff {call : Call} :
    call.isDocumentNotification = true ↔ ∃ method,
      Method.ofName call.method = .notification method ∧ call.notify = true ∧
        method ≠ .initialized := by
  rw [isDocumentNotification]
  split
  · next method hmethod => simp [hmethod]
  · next hother =>
    constructor
    · intro hfalse
      cases hfalse
    · rintro ⟨method, hmethod, -⟩
      exact absurd hmethod (hother method)

theorem Call.isDocumentNotification_of_report? {call : Call} {event : DocumentEvent}
    (h : call.report? = some event) : call.isDocumentNotification = true := by
  rw [report?] at h
  split at h
  · next method hmethod =>
    split at h
    · next hnotify =>
      split at h
      · next found hdecode =>
        have hne := (NotificationMethod.ne_initialized_iff hdecode).mpr ⟨found, rfl⟩
        exact isDocumentNotification_iff.mpr ⟨method, hmethod, hnotify, hne⟩
      · cases h
    · cases h
  · cases h

theorem SessionStep.isDocumentNotification_of_about? {step : SessionStep} {uri : Url}
    (h : step.about? = some uri) : step.isDocumentNotification = true := by
  obtain ⟨event, hreport, -⟩ := Option.map_eq_some_iff.mp h
  cases step with
  | call call => exact Call.isDocumentNotification_of_report? hreport
  | write | remove | read => cases hreport

/-! ## Texts of documents -/

/-- The stored text with which a report leaves its document, by the one from before. -/
def DocumentEvent.leaves (event : DocumentEvent) (kept : Option String) : Option String :=
  match event with
  | opened _ text => some text
  | changed _ texts => texts.head?.or kept
  | saved _ text => text.or kept
  | closed _ => none

/-- A report changes the text of its own document only, whatever the texts of others are. -/
theorem Documents.get?_apply (docs : Documents) (event : DocumentEvent) (uri : Url) :
    (docs.apply event).get? uri =
      if uri = event.uri then event.leaves (docs.get? uri) else docs.get? uri := by
  cases event with
  | opened other text => exact get?_store ..
  | closed other => exact get?_erase ..
  | changed other texts =>
    rw [apply, DocumentEvent.leaves]
    cases texts.head? with
    | none => exact (ite_self _).symm
    | some text => exact get?_store ..
  | saved other saved =>
    cases saved with
    | none => exact (ite_self _).symm
    | some text => exact get?_store ..

/-! ## Servers with other documents -/

namespace Server

/-- A server with other documents. -/
def withDocuments (server : Server) (docs : Documents) : Server :=
  { server with documents := docs }

variable (launch : Launcher) (server : Server) (docs : Documents) (files : FileTree)

theorem refresh_withDocuments :
    (server.withDocuments docs).refresh launch files =
      ((server.refresh launch files).1.withDocuments docs, (server.refresh launch files).2) := by
  have hstart : (server.withDocuments docs).cache.start? = server.cache.start? := rfl
  rw [refresh, refresh, hstart]
  cases server.cache.start? <;> rfl

theorem load_withDocuments :
    (server.withDocuments docs).load launch files =
      ((server.load launch files).1.withDocuments docs, (server.load launch files).2) := by
  have hwants : (server.withDocuments docs).cache.wantsLoad = server.cache.wantsLoad := rfl
  rw [load, load, hwants]
  cases server.cache.wantsLoad with
  | true => exact refresh_withDocuments launch server docs files
  | false => rfl

theorem executeCommand_withDocuments (name : String) :
    (server.withDocuments docs).executeCommand launch files name =
      ((server.executeCommand launch files name).1,
        (server.executeCommand launch files name).2.1.withDocuments docs,
        (server.executeCommand launch files name).2.2) := by
  by_cases hname : name = refreshCommand
  · subst hname
    simp only [executeCommand, refresh_withDocuments, if_true]
    rfl
  · rw [executeCommand_other hname, executeCommand_other hname]

/-- Whether the routes are fetched for the lenses of a document depends on no text. -/
theorem codeLens_withDocuments (uri : Url) :
    ((server.withDocuments docs).codeLens launch files uri).1.fetch =
        (server.codeLens launch files uri).1.fetch ∧
      ((server.withDocuments docs).codeLens launch files uri).2 =
        ((server.codeLens launch files uri).2.1.withDocuments docs,
          (server.codeLens launch files uri).2.2) := by
  have hconfig : (server.withDocuments docs).config = server.config := rfl
  rw [codeLens_eq, codeLens_eq, hconfig, load_withDocuments]
  split
  · exact ⟨rfl, rfl⟩
  · exact ⟨rfl, rfl⟩

theorem codeLens_withDocuments_of_get?_eq {uri : Url}
    (h : docs.get? uri = server.documents.get? uri) :
    ((server.withDocuments docs).codeLens launch files uri).1 =
      (server.codeLens launch files uri).1 := by
  have hconfig : (server.withDocuments docs).config = server.config := rfl
  have htext (now : FileTree) :
      ((server.load launch files).1.withDocuments docs).documents.text? now uri =
        (server.load launch files).1.documents.text? now uri := by
    show docs.text? now uri = _
    rw [load_frame, Documents.text?_eq, Documents.text?_eq, h]
  rw [codeLens_eq, codeLens_eq, hconfig, load_withDocuments]
  split
  · rw [htext]
    rfl
  · rfl

/-- Two servers with the same settings and cache, and the same texts of some documents. -/
def Alike (agreed : Url → Prop) (server other : Server) : Prop :=
  ∃ docs, other = server.withDocuments docs ∧
    ∀ uri, agreed uri → docs.get? uri = server.documents.get? uri

end Server

/-! ## Sessions with other documents -/

namespace Session

/-- Two sessions with the same files and server, but for the texts of documents; those of some
documents are the same as well. -/
inductive Alike (agreed : Url → Prop) : Session → Session → Prop
  | serving {server other : Server} (files : FileTree) (h : server.Alike agreed other) :
      Alike agreed (withServer files server) (withServer files other)
  | same (s : Session) : Alike agreed s s

/-- What comes of a call in two sessions: the same is fetched, the reply is the same unless lenses
are asked for of a document with another text, and the sessions differ as little afterwards. -/
structure TakeAlike (agreed : Url → Prop) (call : Call) (done other : Reply × Session) : Prop where
  fetch : other.1.fetch = done.1.fetch
  reply : (∀ uri, call.request? = some (.codeLens uri) → agreed uri) → other.1 = done.1
  after : Alike agreed done.2 other.2

variable {agreed : Url → Prop} {s other : Session}

theorem Alike.mono {fewer : Url → Prop} (h : Alike agreed s other)
    (hfewer : ∀ uri, fewer uri → agreed uri) : Alike fewer s other := by
  cases h with
  | same => exact .same s
  | serving files h =>
    obtain ⟨docs, hother, hdocs⟩ := h
    exact .serving files ⟨docs, hother, fun uri huri => hdocs uri (hfewer uri huri)⟩

section Serving

variable {launch : Launcher} {files : FileTree} {server other : Server} {call : Call}

theorem TakeAlike.refl (done : Reply × Session) : TakeAlike agreed call done done :=
  ⟨rfl, fun _ => rfl, .same done.2⟩

theorem TakeAlike.idle (h : server.Alike agreed other) (reply : Reply) :
    TakeAlike agreed call (reply, withServer files server) (reply, withServer files other) :=
  ⟨rfl, fun _ => rfl, .serving files h⟩

theorem serveRequest_alike (h : server.Alike agreed other) {request : Request}
    (hrequest : call.request? = some request) :
    TakeAlike agreed call (serveRequest launch files server request)
      (serveRequest launch files other request) := by
  cases request with
  | begin => exact .idle h _
  | shutdown => exact .refl _
  | codeLens uri =>
    obtain ⟨docs, rfl, hdocs⟩ := h
    obtain ⟨hfetch, hafter⟩ := Server.codeLens_withDocuments launch server docs files uri
    refine ⟨hfetch, fun hagreed => ?_, ?_⟩
    · have hsame := hdocs uri (hagreed uri hrequest)
      exact Server.codeLens_withDocuments_of_get?_eq launch server docs files hsame
    · simp only [serveRequest, hafter]
      refine .serving _ ⟨docs, rfl, ?_⟩
      rw [Server.codeLens_frame]
      exact hdocs
  | executeCommand name =>
    obtain ⟨docs, rfl, hdocs⟩ := h
    simp only [serveRequest, Server.executeCommand_withDocuments]
    refine ⟨rfl, fun _ => rfl, .serving _ ⟨docs, rfl, ?_⟩⟩
    rw [Server.executeCommand_frame]
    exact hdocs

theorem serveNotification_alike (h : server.Alike agreed other) (notification : Notification) :
    TakeAlike agreed call (serveNotification files server notification)
      (serveNotification files other notification) := by
  obtain ⟨docs, rfl, hdocs⟩ := h
  cases notification with
  | initialized => exact ⟨rfl, fun _ => rfl, .serving files ⟨docs, rfl, hdocs⟩⟩
  | document event =>
    refine ⟨rfl, fun _ => rfl, .serving files ⟨docs.apply event, rfl, fun uri huri => ?_⟩⟩
    rw [Documents.get?_apply, hdocs uri huri, ← Documents.get?_apply]

theorem serve_alike (launch : Launcher) (files : FileTree) (h : server.Alike agreed other)
    {method : Method} (hmethod : Method.ofName call.method = method) :
    TakeAlike agreed call (serve launch files server call method)
      (serve launch files other call method) := by
  cases method with
  | request method =>
    have hrequest : call.request? = if call.notify then none else method.decode? call.params := by
      rw [Call.request?, hmethod]
    have hleft (reply : Reply) : TakeAlike agreed call
        (reply, if method = .shutdown then ⟨files, .stopped⟩ else withServer files server)
        (reply, if method = .shutdown then ⟨files, .stopped⟩ else withServer files other) := by
      split
      · exact .refl _
      · exact .idle h reply
    cases method with
    | begin => exact .idle h _
    | codeLens | executeCommand | shutdown =>
      simp only [serve]
      split
      · exact hleft _
      · next hanswer =>
        rw [if_neg hanswer] at hrequest
        split
        · next request hdecode => exact serveRequest_alike h (hrequest.trans hdecode)
        · exact hleft _
  | notification method =>
    simp only [serve]
    split
    · split
      · next notification _ => exact serveNotification_alike h notification
      · exact .idle h _
    · exact .idle h _
  | unofferedRequest | unheardNotification | exit | unknown => exact .idle h _

theorem dispatch_alike (launch : Launcher) (files : FileTree) (h : server.Alike agreed other) :
    TakeAlike agreed call
      (dispatch launch (withServer files server) call (Method.ofName call.method))
      (dispatch launch (withServer files other) call (Method.ofName call.method)) := by
  cases hmethod : Method.ofName call.method with
  | exit => exact .refl _
  | unknown => exact .idle h _
  | request | notification | unofferedRequest | unheardNotification =>
    exact serve_alike launch files h hmethod

/-- A notification of a document that cannot be decoded is passed over. -/
theorem dispatch_of_isDocumentNotification (hcall : call.isDocumentNotification = true)
    (hreport : call.report? = none) :
    dispatch launch (withServer files server) call (Method.ofName call.method) =
      ({}, withServer files server) := by
  obtain ⟨method, hmethod, hnotify, hne⟩ := Call.isDocumentNotification_iff.mp hcall
  rw [hmethod]
  show serve launch files server call (.notification method) = _
  simp only [serve, hnotify, if_true]
  cases hdecode : method.decode? call.params with
  | none => rfl
  | some notification =>
    obtain ⟨event, rfl⟩ := (NotificationMethod.ne_initialized_iff hdecode).mp hne
    cases hreport.symm.trans (Call.report?_notification hmethod hnotify hdecode)

end Serving

/-- A notification of a document fetches nothing, and changes documents at most. -/
theorem step_of_isDocumentNotification {step : SessionStep}
    (hstep : step.isDocumentNotification = true) (launch : Launcher) (s : Session) :
    (s.step launch step).1.fetch? = none ∧
      ((s.step launch step).2 = s ∨ ∃ files server event, s = withServer files server ∧
        step.report? = some event ∧ (s.step launch step).2 =
          withServer files (server.withDocuments (server.documents.apply event))) := by
  cases step with
  | write | remove | read => cases hstep
  | call call =>
    obtain ⟨files, lifecycle⟩ := s
    cases lifecycle with
    | exited => exact ⟨rfl, .inl rfl⟩
    | serving server =>
      cases hreport : call.report? with
      | none =>
        rw [step_call, dispatch_of_isDocumentNotification hstep hreport]
        exact ⟨rfl, .inl rfl⟩
      | some event =>
        rw [step_report hreport]
        exact ⟨rfl, .inr ⟨files, server, event, rfl, hreport, rfl⟩⟩
    | fresh | stopped =>
      obtain ⟨method, hmethod, -⟩ := Call.isDocumentNotification_iff.mp hstep
      simp only [Session.step, hmethod, dispatch]
      exact ⟨refuse_fetch _ _, .inl trivial⟩

theorem Alike.exists_documents {files : FileTree} {server : Server}
    (h : Alike agreed (withServer files server) other) :
    ∃ docs, other = withServer files (server.withDocuments docs) ∧
      ∀ uri, agreed uri → docs.get? uri = server.documents.get? uri := by
  cases h with
  | same => exact ⟨server.documents, rfl, fun _ _ => rfl⟩
  | serving _ h =>
    obtain ⟨docs, rfl, hdocs⟩ := h
    exact ⟨docs, rfl, hdocs⟩

/-- Two sessions take a step alike. -/
theorem Alike.step (h : Alike agreed s other) (launch : Launcher) (step : SessionStep) :
    (other.step launch step).1.fetch? = (s.step launch step).1.fetch? ∧
      ((∀ uri, step.request? = some (.codeLens uri) → agreed uri) →
        (other.step launch step).1 = (s.step launch step).1) ∧
      Alike agreed (s.step launch step).2 (other.step launch step).2 := by
  cases h with
  | same => exact ⟨rfl, fun _ => rfl, .same _⟩
  | serving files h =>
    cases step with
    | write path entry => exact ⟨rfl, fun _ => rfl, .serving _ h⟩
    | read path => exact ⟨rfl, fun _ => rfl, .serving _ h⟩
    | remove path =>
      simp only [Session.step, withServer]
      cases files.remove path with
      | ok now => exact ⟨rfl, fun _ => rfl, .serving now h⟩
      | error => exact ⟨rfl, fun _ => rfl, .serving files h⟩
    | call call =>
      have htaken : TakeAlike agreed call _ _ := dispatch_alike launch files h
      exact ⟨htaken.fetch, fun hasked => congrArg SessionAnswer.reply (htaken.reply hasked),
        htaken.after⟩

/-- A session that is told of a document differs from one that is not in the text of that document
at most. -/
theorem Alike.drop (h : Alike agreed s other) {step : SessionStep}
    (hstep : step.isDocumentNotification = true) (launch : Launcher) :
    Alike (fun uri => step.about? ≠ some uri ∧ agreed uri) (s.step launch step).2 other := by
  obtain ⟨-, hafter⟩ := step_of_isDocumentNotification hstep launch s
  rcases hafter with hsame | ⟨files, server, event, rfl, hreport, hafter⟩
  · rw [hsame]
    exact h.mono fun _ huri => huri.2
  · obtain ⟨docs, rfl, hdocs⟩ := h.exists_documents
    rw [hafter]
    refine .serving files ⟨docs, rfl, ?_⟩
    rintro uri ⟨habout, hagreed⟩
    have hne : uri ≠ event.uri := by
      rintro rfl
      exact habout (congrArg (Option.map DocumentEvent.uri) hreport)
    show docs.get? uri = (server.documents.apply event).get? uri
    rw [Documents.get?_apply, if_neg hne, hdocs uri hagreed]

/-- Steps of which some are left out, all of them notifications of documents, lead to a session with
the same texts of all documents of which none was left out. -/
theorem alike_run_filter (keep : SessionStep → Bool)
    (hkeep : ∀ step, keep step = false → step.isDocumentNotification = true) (launch : Launcher)
    (s : Session) (steps : List SessionStep) :
    Alike (fun uri => ∀ step ∈ steps, keep step = false → step.about? ≠ some uri)
      (s.run launch steps).2 (s.run launch (steps.filter keep)).2 := by
  -- By induction on the steps: what both sessions take they take alike, and what one of them misses
  -- sets them apart in the text of one document more.
  induction steps using List.reverseRecOn with
  | nil => exact .same s
  | append_singleton before step ih =>
    rw [run_concat, List.filter_append]
    cases hkept : keep step with
    | true =>
      rw [List.filter_cons_of_pos hkept, List.filter_nil, run_concat]
      refine (ih.step launch step).2.2.mono fun uri huri earlier hmem => ?_
      exact huri earlier (List.mem_append_left _ hmem)
    | false =>
      rw [List.filter_cons_of_neg (by simp [hkept]), List.filter_nil, List.append_nil]
      refine (ih.drop (hkeep step hkept) launch).mono fun uri huri => ⟨?_, fun earlier hmem => ?_⟩
      · exact huri step List.mem_concat_self hkept
      · exact huri earlier (List.mem_append_left _ hmem)

/-- The cache of a session, if it serves. -/
def cache? (s : Session) : Option RouteCache :=
  match s.lifecycle with
  | .serving server => some server.cache
  | _ => none

theorem Alike.cache? (h : Alike agreed s other) : other.cache? = s.cache? := by
  cases h with
  | same => rfl
  | serving _ h =>
    obtain ⟨docs, rfl, -⟩ := h
    rfl

/-- Notifications of documents make no fetch, and none that is made depends on them. -/
theorem fetched_filter (keep : SessionStep → Bool)
    (hkeep : ∀ step, keep step = false → step.isDocumentNotification = true) (launch : Launcher)
    (s : Session) (steps : List SessionStep) :
    s.fetched launch (steps.filter keep) = s.fetched launch steps := by
  induction steps using List.reverseRecOn with
  | nil => rfl
  | append_singleton before step ih =>
    rw [fetched_concat, List.filter_append]
    cases hkept : keep step with
    | true =>
      have halike := alike_run_filter keep hkeep launch s before
      rw [List.filter_cons_of_pos hkept, List.filter_nil, fetched_concat, ih,
        (halike.step launch step).1]
    | false =>
      have hnone := step_of_isDocumentNotification (hkeep step hkept) launch
        (s.run launch before).2
      rw [List.filter_cons_of_neg (by simp [hkept]), List.filter_nil, List.append_nil, ih, hnone.1,
        Option.toList_none, List.append_nil]

end Session

/-- Documents are apart from each other and from the routes, in whatever steps a session is taken.
If all notifications about documents other than `u` are left out of the steps before it, a step has
the same answer and sends the same messages, unless it asks for the lenses of a document about which
a notification was left out. If all notifications of documents are left out, also those that cannot
be decoded, a step still makes the same fetch with the same outcome; so the cache is the same after
any steps, and every step but a request for lenses, in particular every command to fetch the routes
anew, has the same answer. The notifications that are left out fetch nothing. -/
theorem documents_isolated (launch : Launcher) (files : FileTree) (before : List SessionStep)
    (step : SessionStep) :
    (∀ u, (∀ w, step.request? = some (.codeLens w) →
        w = u ∨ ∀ earlier ∈ before, earlier.about? ≠ some w) →
      ((Session.run launch { files } (before.filter (·.about?.all (· = u)))).2.step launch
          step).1 =
        ((Session.run launch { files } before).2.step launch step).1) ∧
    ((Session.run launch { files } (before.filter (!·.isDocumentNotification))).2.step launch
        step).1.fetch? =
      ((Session.run launch { files } before).2.step launch step).1.fetch? ∧
    Session.fetched launch { files } (before.filter (!·.isDocumentNotification)) =
      Session.fetched launch { files } before ∧
    (Session.run launch { files } (before.filter (!·.isDocumentNotification))).2.cache? =
      (Session.run launch { files } before).2.cache? ∧
    ((∀ uri, step.request? ≠ some (.codeLens uri)) →
      ((Session.run launch { files } (before.filter (!·.isDocumentNotification))).2.step launch
          step).1 =
        ((Session.run launch { files } before).2.step launch step).1) ∧
    (step.isDocumentNotification = true →
      ((Session.run launch { files } before).2.step launch step).1.fetch? = none) := by
  have hothers (u : Url) (left : SessionStep) (hleft : left.about?.all (· = u) = false) :
      left.isDocumentNotification = true := by
    cases habout : left.about? with
    | none => simp [habout] at hleft
    | some w => exact left.isDocumentNotification_of_about? habout
  have hall (left : SessionStep) (hleft : (!left.isDocumentNotification) = false) :
      left.isDocumentNotification = true := by
    simpa using hleft
  have hsame := (Session.alike_run_filter _ hall launch { files } before).step launch step
  refine ⟨fun u hlenses => ?_, hsame.1, Session.fetched_filter _ hall launch { files } before,
    (Session.alike_run_filter _ hall launch { files } before).cache?, fun hlenses => ?_,
    fun hstep => (Session.step_of_isDocumentNotification hstep launch _).1⟩
  · have halike := Session.alike_run_filter _ (hothers u) launch { files } before
    refine (halike.step launch step).2.1 fun w hrequest earlier hmem hleft habout => ?_
    rcases hlenses w hrequest with rfl | hnone
    · simp [habout] at hleft
    · exact hnone earlier hmem habout
  · exact hsame.2.1 fun uri hrequest => absurd hrequest (hlenses uri)

namespace OneDocument

/-- Another document. -/
def aside : Url := { scheme := "file", path := .names ["d.php"] }

def openingAside : Call :=
  { method := "textDocument/didOpen"
    params := some (.object [("textDocument", .object [("uri", .string "file:///d.php"),
      ("languageId", .string "php"), ("version", .ofNat 1), ("text", .string "")])])
    notify := true }

theorem report?_openingAside : openingAside.report? = some (.opened aside "") :=
  rfl

theorem isDocumentNotification_beginning :
    (SessionStep.call beginning).isDocumentNotification = false :=
  rfl

/-- The document is opened, and then the other one. -/
def opened : List SessionStep :=
  [.call beginning, .call opening, .call openingAside]

theorem filter_opened :
    opened.filter (·.about?.all (· = page)) = [.call beginning, .call opening] ∧
      opened.filter (!·.isDocumentNotification) = [.call beginning] := by
  have hbeginning : (SessionStep.call beginning).about? = none := rfl
  have hopening : (SessionStep.call opening).about? = some page :=
    congrArg (Option.map DocumentEvent.uri) report?_opening
  have haside : (SessionStep.call openingAside).about? = some aside :=
    congrArg (Option.map DocumentEvent.uri) report?_openingAside
  have hne : aside ≠ page := by
    decide
  constructor
  · simp [opened, hbeginning, hopening, haside, hne]
  · simp [opened, isDocumentNotification_beginning,
      SessionStep.isDocumentNotification_of_about? hopening,
      SessionStep.isDocumentNotification_of_about? haside]

theorem documents_isolated_aside :
    ((Session.run launch { files } [.call beginning, .call opening]).2.step launch
        (.call asking)).1 =
      ((Session.run launch { files } opened).2.step launch (.call asking)).1 ∧
    ((Session.run launch { files } [.call beginning]).2.step launch (.call refreshing)).1 =
      ((Session.run launch { files } opened).2.step launch (.call refreshing)).1 ∧
    ((Session.run launch { files } opened).2.step launch (.call openingAside)).1.fetch? = none := by
  obtain ⟨hpage, hnone⟩ := filter_opened
  obtain ⟨hasking, -⟩ := documents_isolated launch files opened (.call asking)
  obtain ⟨-, -, -, -, hrefreshing, -⟩ := documents_isolated launch files opened (.call refreshing)
  obtain ⟨-, -, -, -, -, hnotified⟩ := documents_isolated launch files opened (.call openingAside)
  have hlenses (w : Url) (hrequest : (SessionStep.call asking).request? = some (.codeLens w)) :
      w = page := by
    change asking.request? = some (.codeLens w) at hrequest
    rw [request?_asking] at hrequest
    exact (Request.codeLens.inj (Option.some.inj hrequest)).symm
  have hcommand (w : Url) : (SessionStep.call refreshing).request? ≠ some (.codeLens w) := by
    change refreshing.request? ≠ some (.codeLens w)
    rw [request?_refreshing]
    exact fun hsame => Request.noConfusion (Option.some.inj hsame)
  rw [hnone] at hrefreshing
  have hsame := hasking page fun w hrequest => .inl (hlenses w hrequest)
  rw [hpage] at hsame
  have hnotification : (SessionStep.call openingAside).isDocumentNotification = true :=
    Call.isDocumentNotification_of_report? report?_openingAside
  exact ⟨hsame, hrefreshing hcommand, hnotified hnotification⟩

end OneDocument

end RouteLens
