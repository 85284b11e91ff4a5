import RouteLens.Proofs.Cache.Play

/-!
# Fetches of a played cache

Which operations on a cache start a fetch, and what the fetches leave behind (`fetches_exact`). The
fetches of a play are numbered in the order in which they start. At most one is under way, so they
end in that order too, and the table is the one that the ended fetches have left one after the
other. A play that only loads what is still to be loaded stops fetching once there is a route.
-/

namespace RouteLens

/-- The task that an operation starts, if it does. -/
def CacheOp.starts? : CacheOp → Option String
  | .refresh task => some task
  | .ensureLoaded task => some task
  | _ => none

namespace CachePlay

/-! ## Plays -/

/-- A new cache after some operations. -/
def after (dir : Option Path) (responses : List Response) (ops : List CacheOp) : CachePlay :=
  (run { cache := { dir }, responses } ops).2

theorem run_append (p : CachePlay) (before rest : List CacheOp) :
    (p.run (before ++ rest)).2 = ((p.run before).2.run rest).2 := by
  induction before generalizing p with
  | nil => rfl
  | cons op before ih => exact ih (p.step op).2

section

variable (dir : Option Path) (responses : List Response) (ops later : List CacheOp) (op : CacheOp)

theorem after_append :
    after dir responses (ops ++ later) = ((after dir responses ops).run later).2 :=
  run_append _ ops later

theorem after_concat :
    after dir responses (ops ++ [op]) = ((after dir responses ops).step op).2 :=
  after_append dir responses ops [op]

end

/-- How many fetches have ended: all but one that waits to be released. -/
def ended (p : CachePlay) : Nat :=
  p.dirs.length - p.held.toList.length

/-- The response to the fetch with a number. -/
def responseTo (responses : List Response) (n : Nat) : Response :=
  responses[n]?.getD standardResponse

/-- The table that so many fetches leave, one after the other. -/
def tableLeft (responses : List Response) : Nat → RouteTable
  | 0 => ∅
  | n + 1 => RouteCache.tableAfter (tableLeft responses n) (responseTo responses n).ending

/-! ## What an operation does to the fetches -/

variable {p p' : CachePlay} {dir : Option Path} {responses : List Response}

/-- The response that the next fetch takes. -/
def nextResponse (p : CachePlay) : Response :=
  p.responses.head?.getD standardResponse

/-- What an operation does to the cache and the fetches of a play: nothing, or it starts a fetch,
which waits or answers at once, or it ends the one that waits. -/
inductive Fetching (p : CachePlay) (op : CacheOp) (p' : CachePlay) : Prop
  | quiet (hcache : p'.cache = p.cache) (hresponses : p'.responses = p.responses)
      (hheld : p'.held = p.held) (hdirs : p'.dirs = p.dirs)
  | waits {dir : Path} (hdir : p.cache.dir = some dir) (hfree : p.cache.refreshing = false)
      (hcache : p'.cache = { p.cache with refreshing := true })
      (hresponses : p'.responses = p.responses.tail)
      (hheld : p'.held = some p.nextResponse.ending) (hdirs : p'.dirs = p.dirs ++ [dir])
  | answers {dir : Path} (hdir : p.cache.dir = some dir) (hfree : p.cache.refreshing = false)
      (hcache : p'.cache = p.cache.finish p.nextResponse.ending)
      (hresponses : p'.responses = p.responses.tail)
      (hheld : p'.held = p.held) (hdirs : p'.dirs = p.dirs ++ [dir])
  | released {ending : FetchEnd} (hop : op = .release) (hwaits : p.held = some ending)
      (hcache : p'.cache = p.cache.finish ending) (hresponses : p'.responses = p.responses)
      (hheld : p'.held = none) (hdirs : p'.dirs = p.dirs)

theorem fetching_callRefresh (p : CachePlay) (op : CacheOp) (task : String) :
    Fetching p op (p.callRefresh task) := by
  rw [callRefresh]
  cases hstart : p.cache.start? with
  | none => exact .quiet rfl rfl rfl rfl
  | some started =>
    obtain ⟨dir, cache⟩ := started
    obtain ⟨hdir, hfree, rfl⟩ := RouteCache.start?_eq_some.mp hstart
    show Fetching p op (if p.nextResponse.held then _ else _)
    split
    · exact .waits hdir hfree rfl rfl rfl rfl
    · exact .answers hdir hfree rfl rfl rfl rfl

theorem fetching_release (p : CachePlay) : Fetching p .release p.release := by
  rw [release]
  cases hheld : p.held with
  | none => exact .quiet rfl rfl rfl rfl
  | some ending => exact .released rfl hheld rfl rfl rfl rfl

theorem fetching_step (p : CachePlay) (op : CacheOp) : Fetching p op (p.step op).2 := by
  cases op with
  | refresh task => exact fetching_callRefresh p _ task
  | ensureLoaded task =>
    show Fetching p _ (p.callEnsureLoaded task)
    rw [callEnsureLoaded]
    split
    · exact fetching_callRefresh p _ task
    · exact .quiet rfl rfl rfl rfl
  | release => exact fetching_release p
  | cancel | routes | snapshot | snapshotRoutes | codeLens => exact .quiet rfl rfl rfl rfl

/-! ## Which operations start a fetch -/

theorem dirs_callRefresh (p : CachePlay) (task : String) :
    (p.callRefresh task).dirs =
      p.dirs ++ if p.cache.refreshing = false then p.cache.dir.toList else [] := by
  rw [callRefresh]
  cases hstart : p.cache.start? with
  | none =>
    rcases RouteCache.start?_eq_none.mp hstart with hdir | hbusy
    · simp [withTask, hdir]
    · simp [withTask, hbusy]
  | some started =>
    obtain ⟨dir, cache⟩ := started
    obtain ⟨hdir, hfree, -⟩ := RouteCache.start?_eq_some.mp hstart
    rw [if_pos hfree, hdir]
    show (if p.nextResponse.held then _ else _ : CachePlay).dirs = _
    split <;> rfl

theorem dirs_callEnsureLoaded (p : CachePlay) (task : String) :
    (p.callEnsureLoaded task).dirs =
      p.dirs ++ if p.cache.refreshing = false ∧ p.cache.table.isEmpty = true then
        p.cache.dir.toList else [] := by
  have hwants : p.cache.wantsLoad = true ↔
      p.cache.refreshing = false ∧ p.cache.table.isEmpty = true := by
    simp [RouteCache.wantsLoad]
  rw [callEnsureLoaded]
  by_cases h : p.cache.refreshing = false ∧ p.cache.table.isEmpty = true
  · rw [if_pos (hwants.mpr h), dirs_callRefresh, if_pos h.1, if_pos h]
  · rw [if_neg (mt hwants.mp h), if_neg h, List.append_nil]
    rfl

theorem dirs_step_of_starts?_eq_none {op : CacheOp} (h : op.starts? = none) (p : CachePlay) :
    (p.step op).2.dirs = p.dirs := by
  cases op with
  | refresh | ensureLoaded => cases h
  | release =>
    show p.release.dirs = p.dirs
    rw [release]
    cases p.held <;> rfl
  | cancel | routes | snapshot | snapshotRoutes | codeLens => rfl

/-! ## The account of a play -/

/-- A play whose fetches are accounted for: each was made in the directory of the cache and took the
response with its number, the flag is set exactly while one waits to be released, and the table is
the one that the ended ones have left. -/
structure Accounted (dir : Option Path) (responses : List Response) (p : CachePlay) : Prop where
  dir_eq : p.cache.dir = dir
  dirs_eq : ∀ d ∈ p.dirs, dir = some d
  rest : p.responses = responses.drop p.dirs.length
  flag : p.cache.refreshing = p.held.isSome
  held : ∀ ending, p.held = some ending →
    p.dirs.length = p.ended + 1 ∧ ending = (responseTo responses p.ended).ending
  table : p.cache.table = tableLeft responses p.ended

theorem ended_le (p : CachePlay) : p.ended ≤ p.dirs.length :=
  Nat.sub_le _ _

theorem ended_of_held_eq_none (h : p.held = none) : p.ended = p.dirs.length := by
  rw [ended, h]
  rfl

namespace Accounted

theorem initial (dir : Option Path) (responses : List Response) :
    Accounted dir responses { cache := { dir }, responses } where
  dir_eq := rfl
  dirs_eq := by simp
  rest := rfl
  flag := rfl
  held ending h := by cases h
  table := rfl

theorem held_eq_none (h : Accounted dir responses p) (hfree : p.cache.refreshing = false) :
    p.held = none := by
  have hflag := h.flag
  rw [hfree] at hflag
  exact Option.isNone_iff_eq_none.mp (by rw [← Option.not_isSome, ← hflag]; rfl)

/-- The next fetch takes the response with its number. -/
theorem nextResponse_eq (h : Accounted dir responses p) :
    p.nextResponse = responseTo responses p.dirs.length := by
  rw [nextResponse, h.rest, List.head?_drop, responseTo]

theorem dirs_concat (h : Accounted dir responses p) {found : Path}
    (hfound : p.cache.dir = some found) (hdirs : p'.dirs = p.dirs ++ [found]) :
    ∀ d ∈ p'.dirs, dir = some d := by
  intro d hd
  rw [hdirs] at hd
  rcases List.mem_append.mp hd with hd | hd
  · exact h.dirs_eq d hd
  · rw [List.mem_singleton.mp hd, ← h.dir_eq, hfound]

theorem responses_tail (h : Accounted dir responses p) {found : Path}
    (hresponses : p'.responses = p.responses.tail) (hdirs : p'.dirs = p.dirs ++ [found]) :
    p'.responses = responses.drop p'.dirs.length := by
  rw [hresponses, h.rest, List.tail_drop, hdirs, List.length_append, List.length_singleton]

theorem fetching (h : Accounted dir responses p) {op : CacheOp} (hfetching : Fetching p op p') :
    Accounted dir responses p' := by
  cases hfetching with
  | quiet hcache hresponses hheld hdirs =>
    have hended : p'.ended = p.ended := by
      rw [ended, ended, hheld, hdirs]
    refine ⟨by rw [hcache, h.dir_eq], by rw [hdirs]; exact h.dirs_eq,
      by rw [hresponses, hdirs, h.rest], by rw [hcache, hheld, h.flag], ?_,
      by rw [hcache, hended, h.table]⟩
    rw [hheld, hdirs, hended]
    exact h.held
  | @waits found hfound hfree hcache hresponses hheld hdirs =>
    have hbefore := ended_of_held_eq_none (h.held_eq_none hfree)
    have hended : p'.ended = p.dirs.length := by
      rw [ended, hheld, hdirs]
      simp
    refine ⟨by rw [hcache]; exact h.dir_eq, h.dirs_concat hfound hdirs,
      h.responses_tail hresponses hdirs, by rw [hcache, hheld]; rfl, ?_, ?_⟩
    · intro ending hending
      rw [hheld] at hending
      obtain rfl := Option.some.inj hending
      rw [hended, hdirs, h.nextResponse_eq]
      exact ⟨by simp, rfl⟩
    · rw [hcache, hended, ← hbefore]
      exact h.table
  | @answers found hfound hfree hcache hresponses hheld hdirs =>
    have hnone := h.held_eq_none hfree
    have hended : p'.ended = p.dirs.length + 1 := by
      rw [ended_of_held_eq_none (hheld.trans hnone), hdirs]
      simp
    refine ⟨by rw [hcache]; exact h.dir_eq, h.dirs_concat hfound hdirs,
      h.responses_tail hresponses hdirs, by rw [hcache, hheld, hnone]; rfl, ?_, ?_⟩
    · intro ending hending
      rw [hheld, hnone] at hending
      cases hending
    · rw [hcache, hended, tableLeft, ← h.nextResponse_eq, ← ended_of_held_eq_none hnone, ← h.table]
      rfl
  | @released ending _ hwaits hcache hresponses hheld hdirs =>
    obtain ⟨hlength, hending⟩ := h.held ending hwaits
    have hended : p'.ended = p.ended + 1 := by
      rw [ended_of_held_eq_none hheld, hdirs, hlength]
    refine ⟨by rw [hcache]; exact h.dir_eq, by rw [hdirs]; exact h.dirs_eq,
      by rw [hresponses, hdirs, h.rest], by rw [hcache, hheld]; rfl, ?_, ?_⟩
    · intro other hother
      rw [hheld] at hother
      cases hother
    · rw [hcache, hended, tableLeft, ← hending, ← h.table]
      rfl

theorem after (dir : Option Path) (responses : List Response) (ops : List CacheOp) :
    Accounted dir responses (CachePlay.after dir responses ops) := by
  induction ops using List.reverseRecOn with
  | nil => exact initial dir responses
  | append_singleton ops op ih =>
    rw [after_concat]
    exact ih.fetching (fetching_step _ op)

end Accounted

/-! ## Plays that only load what is still to be loaded -/

/-- Without a command to fetch anew, every fetch starts while the table is empty. -/
theorem isEmpty_of_lt_length_dirs {ops : List CacheOp} (hlazy : ∀ task, CacheOp.refresh task ∉ ops)
    {n : Nat} (hn : n < (after dir responses ops).dirs.length) :
    (tableLeft responses n).isEmpty = true := by
  induction ops using List.reverseRecOn with
  | nil => cases hn
  | append_singleton ops op ih =>
    have haccount := Accounted.after dir responses ops
    have hbefore := ih fun task hmem => hlazy task (List.mem_append_left _ hmem)
    rw [after_concat] at hn
    generalize CachePlay.after dir responses ops = p at haccount hbefore hn
    by_cases hold : n < p.dirs.length
    · exact hbefore hold
    · cases op with
      | refresh task => exact absurd (List.mem_append_right _ List.mem_cons_self) (hlazy task)
      | ensureLoaded task =>
        have hdirs := dirs_callEnsureLoaded p task
        change n < (p.callEnsureLoaded task).dirs.length at hn
        split at hdirs
        · next hwants =>
          obtain ⟨hfree, hempty⟩ := hwants
          have hended := ended_of_held_eq_none (haccount.held_eq_none hfree)
          have hone : p.cache.dir.toList.length ≤ 1 := Option.length_toList_le
          have hlength := congrArg List.length hdirs
          rw [List.length_append] at hlength
          have hsame : n = p.ended := by omega
          rw [hsame, ← haccount.table]
          exact hempty
        · rw [hdirs, List.append_nil] at hn
          exact absurd hn hold
      | release | cancel | routes | snapshot | snapshotRoutes | codeLens =>
        rw [dirs_step_of_starts?_eq_none rfl] at hn
        exact absurd hn hold

/-- A cache with a route and without a fetch under way is left alone by all but a command to fetch
anew. -/
theorem step_of_loaded {op : CacheOp} (hloaded : p.cache.table.isEmpty = false)
    (hidle : p.held = none) (hop : ∀ task, op ≠ .refresh task) :
    (p.step op).2.cache = p.cache ∧ (p.step op).2.held = none ∧ (p.step op).2.dirs = p.dirs := by
  cases op with
  | refresh task => exact absurd rfl (hop task)
  | ensureLoaded task =>
    have hwants : p.cache.wantsLoad = false := by
      rw [RouteCache.wantsLoad, hloaded, Bool.and_false]
    have hstep : p.callEnsureLoaded task = p.withTask task true := by
      rw [callEnsureLoaded, hwants, if_neg Bool.false_ne_true]
    change (p.callEnsureLoaded task).cache = _ ∧ (p.callEnsureLoaded task).held = _ ∧
      (p.callEnsureLoaded task).dirs = _
    rw [hstep]
    exact ⟨rfl, hidle, rfl⟩
  | release =>
    have hstep : p.release = p := by
      rw [release, hidle]
    change p.release.cache = _ ∧ p.release.held = _ ∧ p.release.dirs = _
    rw [hstep]
    exact ⟨rfl, hidle, rfl⟩
  | cancel | routes | snapshot | snapshotRoutes | codeLens => exact ⟨rfl, hidle, rfl⟩

theorem run_of_loaded {later : List CacheOp} (hloaded : p.cache.table.isEmpty = false)
    (hidle : p.held = none) (hlazy : ∀ task, CacheOp.refresh task ∉ later) :
    (p.run later).2.cache = p.cache ∧ (p.run later).2.dirs = p.dirs := by
  induction later generalizing p with
  | nil => exact ⟨rfl, rfl⟩
  | cons op later ih =>
    have hop : ∀ task, op ≠ .refresh task := by
      rintro task rfl
      exact hlazy task List.mem_cons_self
    obtain ⟨hcache, hheld, hdirs⟩ := step_of_loaded hloaded hidle hop
    have hrest := ih (p := (p.step op).2) (by rw [hcache]; exact hloaded) hheld
      fun task hmem => hlazy task (List.mem_cons_of_mem _ hmem)
    rw [hcache, hdirs] at hrest
    exact hrest

/-- Without a command to fetch anew no fetch is under way once there is a route. -/
theorem held_eq_none_of_loaded {ops : List CacheOp} (hlazy : ∀ task, CacheOp.refresh task ∉ ops)
    (hloaded : (after dir responses ops).cache.table.isEmpty = false) :
    (after dir responses ops).held = none := by
  have haccount := Accounted.after dir responses ops
  cases hheld : (after dir responses ops).held with
  | none => rfl
  | some ending =>
    -- The fetch under way has started with the table that is still there.
    have hlength := (haccount.held ending hheld).1
    have hstarted : (after dir responses ops).ended < (after dir responses ops).dirs.length := by
      omega
    have hempty := isEmpty_of_lt_length_dirs hlazy hstarted
    rw [← haccount.table, hloaded] at hempty
    cases hempty

/-- In a play of any operations with any responses, a task that fetches anew starts a fetch exactly
if there is a directory and no fetch is under way, a task that loads what is still to be loaded does
so exactly if the table is empty besides, and no other operation starts one. Every fetch is made in
the directory of the cache. The flag is set exactly while a fetch waits to be released, and the
table is the one that the ended fetches have left, each with the response that has its number. If no
task fetches anew, every ended fetch but the last has left the table empty; and once there is a
route nothing is fetched any more, and the table stays as it is. -/
theorem fetches_exact (dir : Option Path) (responses : List Response) (ops : List CacheOp) :
    (∀ task, (after dir responses (ops ++ [CacheOp.refresh task])).dirs =
      (after dir responses ops).dirs ++
        if (after dir responses ops).cache.refreshing = false then dir.toList else []) ∧
    (∀ task, (after dir responses (ops ++ [CacheOp.ensureLoaded task])).dirs =
      (after dir responses ops).dirs ++
        if (after dir responses ops).cache.refreshing = false ∧
          (after dir responses ops).cache.table.isEmpty = true then dir.toList else []) ∧
    (∀ op, (∀ task, op ≠ .refresh task ∧ op ≠ .ensureLoaded task) →
      (after dir responses (ops ++ [op])).dirs = (after dir responses ops).dirs) ∧
    (∀ d ∈ (after dir responses ops).dirs, dir = some d) ∧
    ((after dir responses ops).cache.refreshing = true ↔ (after dir responses ops).held ≠ none) ∧
    (after dir responses ops).cache.table =
      tableLeft responses (after dir responses ops).ended ∧
    ((∀ task, CacheOp.refresh task ∉ ops) →
      (∀ n, n + 1 < (after dir responses ops).ended →
        (tableLeft responses (n + 1)).isEmpty = true) ∧
      ((after dir responses ops).cache.table.isEmpty = false →
        ∀ later, (∀ task, CacheOp.refresh task ∉ later) →
          (after dir responses (ops ++ later)).dirs = (after dir responses ops).dirs ∧
          (after dir responses (ops ++ later)).cache.table =
            (after dir responses ops).cache.table)) := by
  have haccount := Accounted.after dir responses ops
  refine ⟨fun task => ?_, fun task => ?_, fun op hop => ?_, haccount.dirs_eq, ?_, haccount.table,
    fun hlazy => ⟨fun n hn => ?_, fun hloaded later hlater => ?_⟩⟩
  · have hdirs := dirs_callRefresh (after dir responses ops) task
    rw [haccount.dir_eq] at hdirs
    rw [after_concat]
    exact hdirs
  · have hdirs := dirs_callEnsureLoaded (after dir responses ops) task
    rw [haccount.dir_eq] at hdirs
    rw [after_concat]
    exact hdirs
  · have hnone : op.starts? = none := by
      cases op with
      | refresh task => exact absurd rfl (hop task).1
      | ensureLoaded task => exact absurd rfl (hop task).2
      | _ => rfl
    rw [after_concat, dirs_step_of_starts?_eq_none hnone]
  · rw [haccount.flag, Option.isSome_iff_ne_none]
  · exact isEmpty_of_lt_length_dirs hlazy (Nat.lt_of_lt_of_le hn (ended_le _))
  · rw [after_append]
    have hidle := held_eq_none_of_loaded hlazy hloaded
    obtain ⟨hcache, hdirs⟩ := run_of_loaded hloaded hidle hlater
    exact ⟨hdirs, by rw [hcache]⟩

/-- A first fetch that breaks off, and a second that is held before it brings a route. -/
def brokenThenHeld : List Response :=
  [⟨false, .crashed⟩, ⟨true, .fetched "[\x7b\"action\":\"C@f\"\x7d]"⟩]

theorem fetches_exact_brokenThenHeld :
    (after (some []) brokenThenHeld
        [.ensureLoaded "a", .ensureLoaded "b", .ensureLoaded "c", .release]).dirs = [[], []] ∧
      (after (some []) brokenThenHeld [.ensureLoaded "a", .ensureLoaded "b", .ensureLoaded "c",
        .release, .ensureLoaded "d", .ensureLoaded "e"]).dirs = [[], []] := by
  have hlazy : ∀ task, CacheOp.refresh task ∉
      ([.ensureLoaded "a", .ensureLoaded "b", .ensureLoaded "c", .release] : List CacheOp) := by
    simp
  have hlater : ∀ task, CacheOp.refresh task ∉
      ([.ensureLoaded "d", .ensureLoaded "e"] : List CacheOp) := by
    simp
  have hloaded : (after (some []) brokenThenHeld
      [.ensureLoaded "a", .ensureLoaded "b", .ensureLoaded "c", .release]).cache.table.isEmpty =
        false := by
    decide +kernel
  have hdirs : (after (some []) brokenThenHeld
      [.ensureLoaded "a", .ensureLoaded "b", .ensureLoaded "c", .release]).dirs = [[], []] :=
    rfl
  obtain ⟨-, -, -, -, -, -, hquiet⟩ := fetches_exact (some []) brokenThenHeld
    [.ensureLoaded "a", .ensureLoaded "b", .ensureLoaded "c", .release]
  obtain ⟨hsame, -⟩ := (hquiet hlazy).2 hloaded _ hlater
  exact ⟨hdirs, hsame.trans hdirs⟩

end CachePlay

end RouteLens
