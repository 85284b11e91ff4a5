import RouteLens.Proofs.Session.Step

/-!
# What a session has fetched

Between two calls no fetch is under way, and the table of a session is that of the listing that was
fetched last, whatever became of the other fetches (`settled_run`).
-/

namespace RouteLens

/-! ## Fetches and the table they leave -/

/-- The listing that was fetched last, if there is one. -/
def Artisan.latestListing? (fetches : List Artisan.Fetch) : Option String :=
  (fetches.filterMap fun fetch => fetch.listing.toOption).getLast?

theorem Artisan.latestListing?_concat (fetches : List Artisan.Fetch) (fetch : Artisan.Fetch) :
    latestListing? (fetches ++ [fetch]) =
      fetch.listing.toOption.or (latestListing? fetches) := by
  rw [latestListing?, List.filterMap_append, List.getLast?_append]
  cases h : fetch.listing.toOption <;> simp [latestListing?, h]

/-- The table that fetches leave: that of the listing that was fetched last. -/
def RouteTable.ofFetches (fetches : List Artisan.Fetch) : RouteTable :=
  match Artisan.latestListing? fetches with
  | some listing => Listing.table listing
  | none => ∅

theorem RouteTable.ofFetches_concat (fetches : List Artisan.Fetch) (fetch : Artisan.Fetch) :
    ofFetches (fetches ++ [fetch]) =
      RouteCache.tableAfter (ofFetches fetches) (.ofExcept fetch.listing) := by
  rw [ofFetches, Artisan.latestListing?_concat]
  cases fetch.listing <;> rfl

/-! ## Servers between calls -/

/-- A server after some fetches: none is under way, and the table is the one that they leave. -/
structure Server.Settled (server : Server) (fetches : List Artisan.Fetch) : Prop where
  idle : server.cache.refreshing = false
  table : server.cache.table = RouteTable.ofFetches fetches

namespace Server

variable {launch : Launcher} {server : Server} {files : FileTree} {fetches : List Artisan.Fetch}

theorem start_settled (files : FileTree) (workspace : Workspace) :
    (start files workspace).Settled [] :=
  ⟨rfl, rfl⟩

/-- A server once a fetch has ended. -/
def learn (server : Server) (fetch : Artisan.Fetch) : Server :=
  { server with cache := server.cache.finish (.ofExcept fetch.listing) }

theorem Settled.learn (h : server.Settled fetches) (fetch : Artisan.Fetch) :
    (server.learn fetch).Settled (fetches ++ [fetch]) := by
  refine ⟨rfl, ?_⟩
  rw [RouteTable.ofFetches_concat, ← h.table]
  rfl

/-- Without a directory nothing is fetched; with one there is a fetch, and its end counts. -/
theorem refresh_cases (launch : Launcher) (files : FileTree)
    (hidle : server.cache.refreshing = false) :
    (server.cache.dir = none ∧ server.refresh launch files = (server, files, none)) ∨
    ∃ dir fetch after, server.cache.dir = some dir ∧
      Artisan.fetch launch server.config dir files = (fetch, after) ∧
      server.refresh launch files = (server.learn fetch, after, some fetch) := by
  cases hdir : server.cache.dir with
  | none =>
    have hstart : server.cache.start? = none := by
      rw [RouteCache.start?, hdir]
    exact .inl ⟨rfl, by rw [refresh, hstart]⟩
  | some dir =>
    have hstart : server.cache.start? = some (dir, { server.cache with refreshing := true }) := by
      simp [RouteCache.start?, hdir, hidle]
    refine .inr ⟨dir, _, _, rfl, rfl, ?_⟩
    rw [refresh, hstart]
    rfl

theorem refresh_fetch (launch : Launcher) (files : FileTree)
    (hidle : server.cache.refreshing = false) :
    (server.refresh launch files).2.2 =
      server.cache.dir.map fun dir => (Artisan.fetch launch server.config dir files).1 := by
  obtain ⟨hdir, hrefresh⟩ | ⟨dir, fetch, after, hdir, hfetch, hrefresh⟩ :=
    refresh_cases launch files hidle
  · rw [hrefresh, hdir]
    rfl
  · rw [hrefresh, hdir, Option.map_some, hfetch]

theorem load_fetch (launch : Launcher) (files : FileTree)
    (hidle : server.cache.refreshing = false) :
    (server.load launch files).2.2 = if server.cache.table.isEmpty then
      server.cache.dir.map fun dir => (Artisan.fetch launch server.config dir files).1
    else none := by
  rw [load, RouteCache.wantsLoad, hidle]
  cases server.cache.table.isEmpty with
  | false => rfl
  | true => exact refresh_fetch launch files hidle

theorem Settled.refresh (h : server.Settled fetches) (launch : Launcher) (files : FileTree) :
    (server.refresh launch files).1.Settled
      (fetches ++ (server.refresh launch files).2.2.toList) := by
  obtain ⟨-, hrefresh⟩ | ⟨dir, fetch, after, -, -, hrefresh⟩ := refresh_cases launch files h.idle
  · rw [hrefresh]
    simpa using h
  · rw [hrefresh]
    exact h.learn fetch

theorem Settled.load (h : server.Settled fetches) (launch : Launcher) (files : FileTree) :
    (server.load launch files).1.Settled (fetches ++ (server.load launch files).2.2.toList) := by
  rw [Server.load]
  split
  · exact h.refresh launch files
  · simpa using h

theorem codeLens_eq (launch : Launcher) (server : Server) (files : FileTree) (uri : Url) :
    server.codeLens launch files uri =
      if uri.isPhpFile && server.config.enabled then
        ({ answer := some (.ok (.lenses
              (((server.load launch files).1.documents.text? (server.load launch files).2.1 uri).bind
                (Lens.ofSource (server.load launch files).1.cache.table))))
           fetch := (server.load launch files).2.2 },
          (server.load launch files).1, (server.load launch files).2.1)
      else (.ofAnswer (.lenses none), server, files) := rfl

theorem Settled.codeLens (h : server.Settled fetches) (launch : Launcher) (files : FileTree)
    (uri : Url) :
    (server.codeLens launch files uri).2.1.Settled
      (fetches ++ (server.codeLens launch files uri).1.fetch.toList) := by
  rw [codeLens_eq]
  split
  · exact h.load launch files
  · simpa using h

theorem Settled.executeCommand (h : server.Settled fetches) (launch : Launcher) (files : FileTree)
    (name : String) :
    (server.executeCommand launch files name).2.1.Settled
      (fetches ++ (server.executeCommand launch files name).1.fetch.toList) := by
  rw [Server.executeCommand]
  split
  · exact h.refresh launch files
  · simpa using h

end Server

/-! ## Sessions -/

namespace Session

variable {launch : Launcher} {s : Session} {fetches : List Artisan.Fetch}

/-- The fetches that a session makes over some steps, in order. -/
def fetched (launch : Launcher) (s : Session) (steps : List SessionStep) : List Artisan.Fetch :=
  (s.run launch steps).1.filterMap SessionAnswer.fetch?

theorem fetched_cons (launch : Launcher) (s : Session) (step : SessionStep)
    (rest : List SessionStep) :
    s.fetched launch (step :: rest) =
      (s.step launch step).1.fetch?.toList ++ (s.step launch step).2.fetched launch rest := by
  rw [fetched, run_cons, List.filterMap_cons, fetched]
  cases (s.step launch step).1.fetch? <;> rfl

theorem fetched_concat (launch : Launcher) (s : Session) (before : List SessionStep)
    (step : SessionStep) :
    s.fetched launch (before ++ [step]) =
      s.fetched launch before ++ ((s.run launch before).2.step launch step).1.fetch?.toList := by
  rw [fetched, run_concat, List.filterMap_append, ← fetched]
  cases h : ((s.run launch before).2.step launch step).1.fetch? <;> simp [h]

/-- A session after some fetches: before it begins there are none, and while it serves its server
is settled. -/
def Settled (s : Session) (fetches : List Artisan.Fetch) : Prop :=
  match s.lifecycle with
  | .fresh => fetches = []
  | .serving server => server.Settled fetches
  | .stopped => True
  | .exited => True

theorem settled_of_isOver (h : s.lifecycle = .stopped ∨ s.lifecycle = .exited)
    (fetches : List Artisan.Fetch) : s.Settled fetches := by
  rw [Settled]
  obtain h | h := h <;> simp only [h]

theorem Settled.congr {other : Session} (h : s.Settled fetches)
    (hlifecycle : other.lifecycle = s.lifecycle) : other.Settled fetches := by
  rw [Settled, hlifecycle]
  exact h

theorem Settled.serves {files : FileTree} {server : Server} {call : Call} {done : Reply × Session}
    (h : server.Settled fetches) (hserves : Serves launch files server call done) :
    done.2.Settled (fetches ++ done.1.fetch.toList) := by
  cases hserves with
  | lenses => exact h.codeLens launch files _
  | command => exact h.executeCommand launch files _
  | announce =>
    rw [Option.toList_none, List.append_nil]
    exact h
  | document =>
    rw [Option.toList_none, List.append_nil]
    exact ⟨h.idle, h.table⟩
  | idle _ _ hfetch =>
    rw [hfetch, Option.toList_none, List.append_nil]
    exact h
  | ended _ _ _ hafter => exact settled_of_isOver hafter _

theorem Settled.step (h : s.Settled fetches) (launch : Launcher) (step : SessionStep) :
    (s.step launch step).2.Settled (fetches ++ (s.step launch step).1.fetch?.toList) := by
  have htook := took_step launch s step
  generalize s.step launch step = taken at htook
  cases htook with
  | served hsession _ hserves =>
    subst hsession
    exact Settled.serves h hserves
  | began hfresh _ =>
    rw [Settled, hfresh] at h
    obtain rfl := h
    exact Server.start_settled _ _
  | passed _ hfetch hafter =>
    rw [hfetch, Option.toList_none, List.append_nil]
    obtain hsame | hover := hafter
    · exact h.congr hsame
    · exact settled_of_isOver hover _

/-- Between two calls no fetch is under way, and the table is the one that the fetches so far have
left. -/
theorem Settled.run (h : s.Settled fetches) (launch : Launcher) (steps : List SessionStep) :
    (s.run launch steps).2.Settled (fetches ++ s.fetched launch steps) := by
  induction steps generalizing s fetches with
  | nil => simpa [Session.run, fetched] using h
  | cons step rest ih =>
    rw [fetched_cons, ← List.append_assoc]
    exact ih (h.step launch step)

theorem settled_run (launch : Launcher) (files : FileTree) (steps : List SessionStep) :
    (run launch { files } steps).2.Settled (fetched launch { files } steps) := by
  have hfresh : Settled { files } [] := rfl
  simpa using hfresh.run launch steps

end Session

end RouteLens
