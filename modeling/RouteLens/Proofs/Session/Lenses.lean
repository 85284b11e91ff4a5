import RouteLens.Proofs.Session.Documents
import RouteLens.Proofs.Session.Fetches

/-!
# Lenses over a session

What a session answers when it is asked for lenses, said of everything that came before: the
fetches so far, the reports about documents, and the files (`codeLens_exact`). Whatever became of
the fetches, there is an answer, and a fetch is made only for the first lenses and for those after
fetches that have left no route.
-/

namespace RouteLens

/-! ## PHP sources -/

/-- A document is a PHP source on this machine: a file whose path ends in `.php`, in letters of
either case. -/
structure Url.IsPhpSource (uri : Url) : Prop where
  scheme : uri.scheme = "file"
  ending : ∃ stem ending, uri.pathText.toList = stem ++ ending ∧
    ending.map Char.toLower = ['.', 'p', 'h', 'p']

theorem Url.endsInPhp_iff {text : List Char} :
    endsInPhp text = true ↔
      ∃ stem ending, text = stem ++ ending ∧ ending.map Char.toLower = ['.', 'p', 'h', 'p'] := by
  have hreverse : ['p', 'h', 'p', '.'] = ['.', 'p', 'h', 'p'].reverse := rfl
  rw [endsInPhp, List.isPrefixOf_iff_prefix, hreverse, List.reverse_prefix]
  constructor
  · rintro ⟨stem, hsuffix⟩
    obtain ⟨first, last, rfl, -, hlast⟩ := List.map_eq_append_iff.mp hsuffix.symm
    exact ⟨first, last, rfl, hlast⟩
  · rintro ⟨stem, ending, rfl, hending⟩
    rw [List.map_append, hending]
    exact List.suffix_append _ _

theorem Url.isPhpFile_iff {uri : Url} : uri.isPhpFile = true ↔ uri.IsPhpSource := by
  rw [isPhpFile, Bool.and_eq_true, beq_iff_eq, endsInPhp_iff]
  exact ⟨fun h => ⟨h.1, h.2⟩, fun h => ⟨h.scheme, h.ending⟩⟩

/-! ## Answers -/

/-- A settled server that is asked for lenses: the answer, and the fetch that is made for it. -/
theorem Server.Settled.codeLens_reply {server : Server} {fetches : List Artisan.Fetch}
    (h : server.Settled fetches) (launch : Launcher) (files : FileTree) (uri : Url) :
    ∃ lenses fetch,
      (server.codeLens launch files uri).1 = { answer := some (.ok (.lenses lenses)), fetch } ∧
      (¬ (uri.IsPhpSource ∧ server.config.enabled = true) → lenses = none ∧ fetch = none) ∧
      (uri.IsPhpSource ∧ server.config.enabled = true →
        fetch = (if (RouteTable.ofFetches fetches).isEmpty then
            server.cache.dir.map fun dir => (Artisan.fetch launch server.config dir files).1
          else none) ∧
        lenses = ((server.documents.get? uri).or
            (uri.filePath?.bind (server.codeLens launch files uri).2.2.readText?)).bind
          (Lens.ofSource (RouteTable.ofFetches (fetches ++ fetch.toList)))) := by
  have hwanted : (uri.isPhpFile && server.config.enabled) = true ↔
      uri.IsPhpSource ∧ server.config.enabled = true := by
    rw [Bool.and_eq_true, Url.isPhpFile_iff]
  have hfetch := Server.load_fetch launch files h.idle
  have hloaded := (h.load launch files).table
  have hdocuments := congrArg Server.documents (Server.load_frame launch server files)
  rw [← hwanted, codeLens_eq]
  split
  · next hyes =>
    refine ⟨_, _, rfl, fun hno => absurd hyes hno, fun _ => ⟨?_, ?_⟩⟩
    · rw [hfetch, h.table]
    · rw [Documents.text?_eq, hdocuments, hloaded]
  · next hno => exact ⟨none, none, rfl, fun _ => ⟨rfl, rfl⟩, fun hyes => absurd hyes hno⟩

/-- A session that is asked for lenses answers, and never with an error. Of what is no PHP source,
and where lenses are not wanted, it says that there are none, and fetches nothing. Otherwise it
fetches exactly if it knows a directory and its table is empty, which is the one that the fetches so
far have left; and the lenses are those of the document under the table that is left then, a fetch
without a listing leaving it as it was. The text of the document is the one that is stored, or else
that of the file that the document denotes; without a text there are no lenses. -/
theorem codeLens_exact (launch : Launcher) (files : FileTree) (steps : List SessionStep)
    {server : Server} {call : Call} {uri : Url}
    (hserving : (Session.run launch { files } steps).2.lifecycle = .serving server)
    (hask : call.request? = some (.codeLens uri)) :
    ∃ lenses fetch,
      ((Session.run launch { files } steps).2.step launch (.call call)).1 =
        .reply { answer := some (.ok (.lenses lenses)), fetch } ∧
      (¬ (uri.IsPhpSource ∧ server.config.enabled = true) → lenses = none ∧ fetch = none) ∧
      (uri.IsPhpSource ∧ server.config.enabled = true →
        fetch = (if (RouteTable.ofFetches (Session.fetched launch { files } steps)).isEmpty then
            server.cache.dir.map fun dir =>
              (Artisan.fetch launch server.config dir (Session.run launch { files } steps).2.files).1
          else none) ∧
        lenses = ((((Session.heard launch { files } steps).foldl Documents.apply {}).get? uri).or
            (uri.filePath?.bind
              (Session.run launch { files } (steps ++ [.call call])).2.files.readText?)).bind
          (Lens.ofSource
            (RouteTable.ofFetches (Session.fetched launch { files } (steps ++ [.call call]))))) := by
  have hgoesOn : ¬ (Session.run launch { files } steps).2.IsOver := by
    rintro (h | h) <;> rw [hserving] at h <;> cases h
  have hdocuments := Session.documents_run steps hgoesOn
  have hsettled := Session.settled_run launch files steps
  rw [Session.fetched_concat, Session.run_concat]
  generalize (Session.run launch { files } steps).2 = s at *
  obtain ⟨now, lifecycle⟩ := s
  obtain rfl := hserving
  obtain ⟨lenses, fetch, hreply, hunwanted, hwanted⟩ := hsettled.codeLens_reply launch now uri
  have hstep : (Session.mk now (.serving server)).step launch (.call call) =
      (.reply { answer := some (.ok (.lenses lenses)), fetch },
        Session.withServer (server.codeLens launch now uri).2.2
          (server.codeLens launch now uri).2.1) := by
    rw [Session.step_call, Session.dispatch_codeLens hask, hreply]
  rw [hstep]
  refine ⟨lenses, fetch, rfl, hunwanted, fun h => ?_⟩
  change server.documents =
    (Session.heard launch { files } steps).foldl Documents.apply {} at hdocuments
  rw [← hdocuments]
  exact hwanted h

namespace OneDocument

theorem isPhpSource_page : page.IsPhpSource := by
  rw [← Url.isPhpFile_iff]
  exact isPhpFile_page

theorem fetched_steps (texts : List String) :
    Session.fetched launch { files } (steps texts) = [] := by
  simp only [steps, Session.fetched_cons, fetch?_beginning, step_beginning, Session.withServer,
    Session.step_report report?_opening, Session.step_report (report?_changing texts)]
  rfl

theorem codeLens_exact_changed :
    ((Session.run launch { files } (steps [controller])).2.step launch (.call asking)).1 =
      .reply
        { answer := some (.ok (.lenses (some [⟨⟨⟨0, 0⟩, ⟨0, 0⟩⟩, "GET ", ""⟩])))
          fetch := some ⟨.ok listing, some (Artisan.command {} [Path.slash])⟩ } := by
  have hserving := congrArg Session.lifecycle (run_steps [controller])
  obtain ⟨lenses, fetch, hstep, -, hwanted⟩ :=
    codeLens_exact launch files (steps [controller]) hserving request?_asking
  obtain ⟨hfetch, hlenses⟩ := hwanted ⟨isPhpSource_page, rfl⟩
  have hmade : fetch = some ⟨.ok listing, some (Artisan.command {} [Path.slash])⟩ := by
    rw [hfetch, fetched_steps, run_steps]
    show some (Artisan.fetch launch {} [Path.slash] files).1 = _
    rw [fetch_files]
  have hkept : ((Session.heard launch { files } (steps [controller])).foldl Documents.apply
      {}).get? page = some controller := by
    rw [heard_steps]
    rfl
  have htable : RouteTable.ofFetches
      (Session.fetched launch { files } (steps [controller] ++ [.call asking])) =
        Listing.table listing := by
    rw [Session.fetched_concat, hstep, fetched_steps, hmade]
    rfl
  rw [hkept, htable, Option.some_or, Option.bind_some, ofSource_controller] at hlenses
  rw [hstep, hlenses, hmade]

end OneDocument

end RouteLens
