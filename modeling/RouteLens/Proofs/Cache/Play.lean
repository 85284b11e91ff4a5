import RouteLens.Cache.Play
import RouteLens.Proofs.Cache.History

/-!
# Plays are runs

A play carries out one operation at a time and lets every caller run as far as it can. All that it
does can be done in atomic steps, with a caller of its own for each task (`exists_run_of_play`). So
what holds in every run holds of every play.
-/

namespace RouteLens.RouteCache

theorem start?_eq_none {cache : RouteCache} :
    cache.start? = none ↔ cache.dir = none ∨ cache.refreshing = true := by
  rw [start?]
  cases hdir : cache.dir with
  | none => simp
  | some dir => cases hflag : cache.refreshing <;> simp

theorem start?_eq_some {cache next : RouteCache} {dir : Path} :
    cache.start? = some (dir, next) ↔
      cache.dir = some dir ∧ cache.refreshing = false ∧ next = { cache with refreshing := true } := by
  rw [start?]
  cases hdir : cache.dir with
  | none => simp
  | some found => cases hflag : cache.refreshing <;> simp [eq_comm]

end RouteLens.RouteCache

namespace RouteLens.Atomic

/-- A caller that has returned, or waits for the fetch under way. -/
inductive Stands (s : System) (c : Nat) : Bool → Prop
  | returned : s.callers c = .returned → Stands s c true
  | parked : s.callers c = .parked false → Stands s c false
  | awaiting {t : Nat} : s.callers c = .awaiting t → s.tasks t = .fetching → Stands s c false

/-- Each task of a play has a caller of its own. -/
def Numbered (tasks : List (String × Bool)) (s : System) : Prop :=
  ∃ number : String → Nat, (∀ task ∈ tasks, Stands s (number task.1) task.2) ∧
    ∀ a ∈ tasks, ∀ b ∈ tasks, number a.1 = number b.1 → a.1 = b.1

/-- A system after a run that does what a play has done. -/
structure Plays (p : CachePlay) (root : Option Path) (events : List Event) (s : System) :
    Prop where
  run : Run (System.initial root) events s
  dir : s.dir = p.cache.dir
  flag : s.refreshing = p.cache.refreshing
  table : s.table = p.cache.table
  held : p.cache.refreshing = p.held.isSome
  running : p.held ≠ none → ∃ t, s.tasks t = .fetching
  idle : p.held = none → ∀ task ∈ p.tasks, task.2 = true
  fetches : (History.ofEvents events).starts.length = p.dirs.length
  callers : Numbered p.tasks s
  fresh : ∃ n, ∀ i, n ≤ i → s.callers i = .absent ∧ s.tasks i = .absent

/-- A caller in a phase where a task of a play can be. -/
def Caller.settled : Caller → Bool
  | .returned | .parked _ | .awaiting _ => true
  | _ => false

/-! ## Callers and tasks of a play -/

theorem Stands.ne {s : System} {c d : Nat} {finished : Bool} (h : Stands s d finished)
    (hc : (s.callers c).settled = false) : d ≠ c := by
  rintro rfl
  cases h with
  | returned h => rw [h] at hc; cases hc
  | parked h => rw [h] at hc; cases hc
  | awaiting h => rw [h] at hc; cases hc

/-- A caller stays where it stands while others move. -/
theorem Stands.keep {s s' : System} {c : Nat} {finished : Bool} (h : Stands s c finished)
    (hcaller : s'.callers c = s.callers c)
    (htasks : ∀ t, s.tasks t = .fetching → s'.tasks t = .fetching) : Stands s' c finished := by
  cases h with
  | returned h => exact .returned (hcaller.trans h)
  | parked h => exact .parked (hcaller.trans h)
  | awaiting h ht => exact .awaiting (hcaller.trans h) (htasks _ ht)

theorem mem_assign {α : Type} {entries : List (String × α)} {name : String} {value : α}
    {entry : String × α} :
    entry ∈ CachePlay.assign entries name value ↔
      entry ∈ entries ∧ entry.1 ≠ name ∨ entry = (name, value) := by
  simp [CachePlay.assign]

theorem map_assign_of_idle {tasks : List (String × Bool)} (h : ∀ task ∈ tasks, task.2 = true)
    (task : String) : (CachePlay.assign tasks task false).map (fun (name, _) => (name, true)) =
      CachePlay.assign tasks task true := by
  have hsame : (tasks.filter (·.1 != task)).map (fun (name, _) => (name, true)) =
      tasks.filter (·.1 != task) := by
    refine (List.map_congr_left fun old hold => ?_).trans (List.map_id _)
    exact Prod.ext rfl (h old (List.mem_of_mem_filter hold)).symm
  rw [CachePlay.assign, CachePlay.assign, List.map_append, hsame]
  rfl

/-- A new task takes a caller that no task has. -/
theorem Numbered.assign {tasks : List (String × Bool)} {s s' : System} (h : Numbered tasks s)
    {c : Nat} {task : String} {finished : Bool} (hc : (s.callers c).settled = false)
    (hkeep : ∀ d other, d ≠ c → Stands s d other → Stands s' d other)
    (hstands : Stands s' c finished) : Numbered (CachePlay.assign tasks task finished) s' := by
  obtain ⟨number, hnumber, hdistinct⟩ := h
  have hne : ∀ t ∈ tasks, number t.1 ≠ c := fun t ht => (hnumber t ht).ne hc
  refine ⟨fun name => if name = task then c else number name, fun t ht => ?_, ?_⟩
  · rcases mem_assign.mp ht with ⟨ht, hname⟩ | rfl
    · simpa [hname] using hkeep _ _ (hne t ht) (hnumber t ht)
    · simpa using hstands
  · intro a ha b hb heq
    rcases mem_assign.mp ha with ⟨ha, haname⟩ | rfl
    · rcases mem_assign.mp hb with ⟨hb, hbname⟩ | rfl
      · exact hdistinct a ha b hb (by simpa [haname, hbname] using heq)
      · simp only [haname, if_false, if_true] at heq
        exact absurd heq (hne a ha)
    · rcases mem_assign.mp hb with ⟨hb, hbname⟩ | rfl
      · simp only [hbname, if_false, if_true] at heq
        exact absurd heq.symm (hne b hb)
      · rfl

namespace Plays

variable {p : CachePlay} {root : Option Path} {events : List Event} {s : System}

theorem initial (dir : Option Path) (responses : List Response) :
    Plays { cache := { dir }, responses } dir [] (System.initial dir) where
  run := .nil _
  dir := rfl
  flag := rfl
  table := rfl
  held := rfl
  running h := absurd rfl h
  idle := by simp
  fetches := rfl
  callers := ⟨fun _ => 0, by simp, by simp⟩
  fresh := ⟨0, fun _ _ => ⟨rfl, rfl⟩⟩

theorem fresh_setCaller (h : Plays p root events s) (c : Nat) (phase : Caller) :
    ∃ n, ∀ i, n ≤ i → (s.setCaller c phase).callers i = .absent ∧
      (s.setCaller c phase).tasks i = .absent := by
  obtain ⟨n, hn⟩ := h.fresh
  refine ⟨max n (c + 1), fun i hi => ?_⟩
  rw [System.setCaller_callers, if_neg (by omega)]
  exact hn i (by omega)

/-- A caller that is not yet one of a task moves on. -/
theorem moveCaller (h : Plays p root events s) {c : Nat} {phase : Caller} {event : Event}
    (hc : (s.callers c).settled = false) (hevent : event.task? = none)
    (hstep : Step s event (s.setCaller c phase)) :
    Plays p root (events ++ [event]) (s.setCaller c phase) where
  run := h.run.snoc hstep
  dir := h.dir
  flag := h.flag
  table := h.table
  held := h.held
  running := h.running
  idle := h.idle
  fetches := by
    rw [History.ofEvents_concat, History.add_of_task?_eq_none _ hevent]
    exact h.fetches
  callers := by
    obtain ⟨number, hnumber, hdistinct⟩ := h.callers
    refine ⟨number, fun task htask => ?_, hdistinct⟩
    have hne := (hnumber task htask).ne hc
    exact (hnumber task htask).keep (by simp [hne]) fun _ ht => ht
  fresh := h.fresh_setCaller c phase

/-- A caller moves on to where it is one of a task. -/
theorem enlist (h : Plays p root events s) {c : Nat} {phase : Caller} {event : Event}
    (hc : (s.callers c).settled = false) (hevent : event.task? = none)
    (hstep : Step s event (s.setCaller c phase)) (task : String) {finished : Bool}
    (hstands : Stands (s.setCaller c phase) c finished)
    (hidle : p.held = none → finished = true) :
    Plays (p.withTask task finished) root (events ++ [event]) (s.setCaller c phase) where
  run := h.run.snoc hstep
  dir := h.dir
  flag := h.flag
  table := h.table
  held := h.held
  running := h.running
  idle hnone t ht := by
    rcases mem_assign.mp ht with ⟨ht, -⟩ | rfl
    · exact h.idle hnone t ht
    · exact hidle hnone
  fetches := (h.moveCaller hc hevent hstep).fetches
  callers := h.callers.assign hc
    (fun d _ hne hd => hd.keep (by simp [hne]) fun _ ht => ht) hstands
  fresh := h.fresh_setCaller c phase

/-- A caller that is about to start a fetch finds that it cannot. -/
theorem findBusy (h : Plays p root events s) {c : Nat} (hc : s.callers c = .starting)
    (hbusy : p.cache.start? = none) (task : String) :
    ∃ events' s', Plays (p.withTask task (!p.cache.refreshing)) root events' s' := by
  have hbusy' : s.dir = none ∨ s.refreshing = true := by
    rw [h.dir, h.flag]
    exact RouteCache.start?_eq_none.mp hbusy
  have h1 := h.moveCaller (by rw [hc]; rfl) rfl (.findBusy s c hc hbusy')
  have h2 := h1.moveCaller (c := c) (by simp [Caller.settled]) rfl (.register _ c (by simp))
  have hstep := Step.recheckFlag ((s.setCaller c .joining).setCaller c (.registered false)) c false
    (by simp)
  refine ⟨_, _, h2.enlist (c := c) (by simp [Caller.settled]) rfl hstep task ?_ fun hnone => ?_⟩
  · rw [← h2.flag]
    cases hflag : ((s.setCaller c .joining).setCaller c (.registered false)).refreshing with
    | true => exact .parked (by simp)
    | false => exact .returned (by simp)
  · simp [h.held, hnone]

/-- A caller starts a fetch, and waits for it. -/
theorem spawn (h : Plays p root events s) {c : Nat} (hc : s.callers c = .starting)
    (ht : s.tasks c = .absent) {dir : Path} {cache : RouteCache}
    (hstart : p.cache.start? = some (dir, cache)) (responses : List Response) (ending : FetchEnd)
    (task : String) :
    ∃ events' s', Plays
      ({ p with cache, responses, held := some ending, dirs := p.dirs ++ [dir] }.withTask task false)
      root events' s' := by
  obtain ⟨hdir, hfree, rfl⟩ := RouteCache.start?_eq_some.mp hstart
  have hspawn := Step.spawn s c c dir hc (h.dir.trans hdir) (h.flag.trans hfree) ht
  have hrun := (h.run.snoc hspawn).snoc (.startFetch _ c (by simp))
  refine ⟨_, _, hrun, h.dir, rfl, h.table, rfl, fun _ => ⟨c, by simp⟩, ?_, ?_, ?_, ?_⟩
  · intro hnone
    cases hnone
  · rw [History.ofEvents_concat, History.ofEvents_concat]
    simp [History.add, h.fetches, CachePlay.withTask]
  · refine h.callers.assign (by rw [hc]; rfl) (fun d _ hne hd => hd.keep ?_ fun t hfetch => ?_)
      (.awaiting (t := c) (by simp) (by simp))
    · simp [hne]
    · have hne : t ≠ c := by
        rintro rfl
        rw [ht] at hfetch
        cases hfetch
      simpa [hne] using hfetch
  · obtain ⟨n, hn⟩ := h.fresh
    refine ⟨max n (c + 1), fun i hi => ?_⟩
    have hne : i ≠ c := by omega
    simpa [hne] using hn i (by omega)

end Plays

/-! ## The end of a fetch -/

section End

variable {start : System} {events : List Event} {s : System}

/-- What the end of a fetch leaves: the flag is clear, the task has finished, and every caller that
waited for a notification has it. -/
structure Ended (s : System) (t : Nat) (table : RouteTable) (s' : System) : Prop where
  dir : s'.dir = s.dir
  flag : s'.refreshing = false
  table : s'.table = table
  callers : s'.callers = s.wakeAll.callers
  tasks : ∀ u, s'.tasks u = if u = t then .finished else s.tasks u

theorem Ended.of_same {m s' : System} {t : Nat} {table : RouteTable} (h : Ended m t table s')
    (hdir : m.dir = s.dir) (hcallers : m.callers = s.callers)
    (htasks : ∀ u, u ≠ t → m.tasks u = s.tasks u) : Ended s t table s' where
  dir := h.dir.trans hdir
  flag := h.flag
  table := h.table
  callers := by rw [h.callers, System.wakeAll, System.wakeAll, hcallers]
  tasks u := by
    rw [h.tasks]
    by_cases hu : u = t
    · simp [hu]
    · simp [hu, htasks u hu]

theorem Run.clear (h : Run start events s) {t : Nat} (ht : s.tasks t = .clearing) :
    ∃ later s', Run start (events ++ later) s' ∧ (∀ t, .startFetch t ∉ later) ∧
      Ended s t s.table s' := by
  have hclear := h.snoc (.clear s t ht)
  have hnotify := hclear.snoc (.notify _ t (by simp))
  rw [List.append_assoc] at hnotify
  refine ⟨_, _, hnotify, by simp, rfl, rfl, rfl, rfl, fun u => ?_⟩
  by_cases hu : u = t
  · simp [hu]
  · simp [hu, System.wakeAll]

/-- A fetch that ends lets its task run to its end. -/
theorem Run.endFetch (h : Run start events s) {t : Nat} (ht : s.tasks t = .fetching)
    (ending : FetchEnd) :
    ∃ later s', Run start (events ++ later) s' ∧ (∀ t, .startFetch t ∉ later) ∧
      Ended s t (RouteCache.tableAfter s.table ending) s' := by
  have hend := h.snoc (.endFetch s t ending ht)
  cases ending with
  | fetched listing =>
    have hstore := hend.snoc (.store _ t listing (by simp [Task.afterFetch]))
    obtain ⟨later, s', hrun, hlater, hended⟩ := hstore.clear (t := t) (by simp)
    rw [List.append_assoc, List.append_assoc] at hrun
    exact ⟨_, s', hrun, by simpa using hlater,
      hended.of_same rfl rfl fun u hu => by simp [hu]⟩
  | failed | crashed =>
    obtain ⟨later, s', hrun, hlater, hended⟩ := hend.clear (t := t) (by simp [Task.afterFetch])
    rw [List.append_assoc] at hrun
    exact ⟨_, s', hrun, by simpa using hlater,
      hended.of_same rfl rfl fun u hu => by simp [hu]⟩

/-- A caller that has nothing left to wait for. -/
inductive CanReturn (s : System) (c : Nat) : Prop
  | returned : s.callers c = .returned → CanReturn s c
  | woken : s.callers c = .parked true → CanReturn s c
  | joins {t : Nat} : s.callers c = .awaiting t → s.tasks t = .finished → CanReturn s c

theorem CanReturn.setCaller {c d : Nat} (h : CanReturn s d) :
    CanReturn (s.setCaller c .returned) d := by
  by_cases hd : d = c
  · exact .returned (by simp [hd])
  · cases h with
    | returned h => exact .returned (by simp [hd, h])
    | woken h => exact .woken (by simp [hd, h])
    | joins h ht => exact .joins (by simp [hd, h]) ht

/-- Callers with nothing left to wait for return one after the other. -/
theorem Run.returnAll (h : Run start events s) (callers : List Nat)
    (hreturn : ∀ c ∈ callers, CanReturn s c) :
    ∃ later, (∀ t, .startFetch t ∉ later) ∧ Run start (events ++ later)
      { s with callers := fun c => if c ∈ callers then .returned else s.callers c } := by
  induction callers generalizing events s with
  | nil => exact ⟨[], by simp, by simpa using h⟩
  | cons c callers ih =>
    obtain ⟨hc, hcallers⟩ := List.forall_mem_cons.mp hreturn
    have hnext : ∀ d ∈ callers, CanReturn (s.setCaller c .returned) d :=
      fun d hd => (hcallers d hd).setCaller
    have hcaller (d : Nat) :
        (if d ∈ c :: callers then Caller.returned else s.callers d) =
          if d ∈ callers then .returned else (s.setCaller c .returned).callers d := by
      by_cases hd : d = c <;> simp [hd]
    simp only [hcaller]
    cases hc with
    | returned hc =>
      have hsame : s.setCaller c .returned = s := by
        rw [System.setCaller]
        congr
        funext d
        by_cases hd : d = c <;> simp [hd, hc]
      rw [hsame] at hnext ⊢
      exact ih h hnext
    | woken hc =>
      obtain ⟨later, hlater, hrun⟩ := ih (h.snoc (.wake s c hc)) hnext
      rw [List.append_assoc] at hrun
      exact ⟨_, by simpa using hlater, hrun⟩
    | joins hc ht =>
      obtain ⟨later, hlater, hrun⟩ := ih (h.snoc (.join s c _ hc ht)) hnext
      rw [List.append_assoc] at hrun
      exact ⟨_, by simpa using hlater, hrun⟩

end End

theorem History.starts_append {events later : List Event} (h : ∀ t, .startFetch t ∉ later) :
    (ofEvents (events ++ later)).starts = (ofEvents events).starts := by
  induction later generalizing events with
  | nil => simp
  | cons event later ih =>
    rw [List.append_cons, ih fun t ht => h t (List.mem_cons_of_mem _ ht), ofEvents_concat]
    cases event with
    | startFetch t => exact absurd List.mem_cons_self (h t)
    | _ => rfl

/-- The end of the fetch under way is what the callers of tasks wait for. -/
theorem Stands.canReturn {s s' : System} {c t : Nat} {finished : Bool} {table : RouteTable}
    (h : Stands s c finished) (flight : SingleFlight s) (ht : s.tasks t = .fetching)
    (hended : Ended s t table s') : CanReturn s' c := by
  have hcaller : s'.callers c = s.wakeAll.callers c := congrFun hended.callers c
  cases h with
  | returned hc => exact .returned (by simp [hcaller, System.wakeAll, hc])
  | parked hc => exact .woken (by simp [hcaller, System.wakeAll, hc])
  | @awaiting u hc hu =>
    obtain rfl := flight.unique u t (by rw [hu]; rfl) (by rw [ht]; rfl)
    exact .joins (t := u) (by simp [hcaller, System.wakeAll, hc]) (by simp [hended.tasks])

namespace Plays

variable {p : CachePlay} {root : Option Path} {events : List Event} {s : System}

/-- The held fetch answers, and everyone who waits returns. -/
theorem release (h : Plays p root events s) {ending : FetchEnd} (hheld : p.held = some ending) :
    ∃ events' s', Plays p.release root events' s' := by
  obtain ⟨t, ht⟩ := h.running (by simp [hheld])
  obtain ⟨number, hnumber, hdistinct⟩ := h.callers
  obtain ⟨later, s₁, hrun, hlater, hended⟩ := h.run.endFetch ht ending
  have hreturn : ∀ c ∈ p.tasks.map (number ·.1), CanReturn s₁ c := by
    intro c hc
    obtain ⟨task, htask, rfl⟩ := List.mem_map.mp hc
    exact (hnumber task htask).canReturn (.of_run h.run) ht hended
  obtain ⟨last, hlast, hrun⟩ := hrun.returnAll _ hreturn
  rw [CachePlay.release, hheld]
  refine ⟨_, _, hrun, hended.dir.trans h.dir, hended.flag, ?_, rfl, fun hne => absurd rfl hne,
    ?_, ?_, ?_, ?_⟩
  · show s₁.table = _
    rw [hended.table, h.table]
    rfl
  · intro _ task htask
    obtain ⟨_, _, rfl⟩ := List.mem_map.mp htask
    rfl
  · rw [History.starts_append hlast, History.starts_append hlater]
    exact h.fetches
  · refine ⟨number, fun task htask => ?_, fun a ha b hb heq => ?_⟩
    · obtain ⟨old, hold, rfl⟩ := List.mem_map.mp htask
      exact .returned (if_pos (List.mem_map_of_mem hold))
    · obtain ⟨olda, holda, rfl⟩ := List.mem_map.mp ha
      obtain ⟨oldb, holdb, rfl⟩ := List.mem_map.mp hb
      exact hdistinct olda holda oldb holdb heq
  · obtain ⟨n, hn⟩ := h.fresh
    refine ⟨n, fun i hi => ?_⟩
    obtain ⟨hcaller, htask⟩ := hn i hi
    have hnot : i ∉ p.tasks.map (number ·.1) := by
      intro hmem
      obtain ⟨task, htask, heq⟩ := List.mem_map.mp hmem
      exact (hnumber task htask).ne (by rw [hcaller]; rfl) heq
    have hne : i ≠ t := by
      rintro rfl
      rw [htask] at ht
      cases ht
    constructor
    · show (if i ∈ p.tasks.map (number ·.1) then Caller.returned else s₁.callers i) = .absent
      rw [if_neg hnot, hended.callers]
      simp [System.wakeAll, hcaller]
    · show s₁.tasks i = .absent
      rw [hended.tasks, if_neg hne, htask]

theorem withSnapshots (h : Plays p root events s) (snapshots : List (String × RouteTable)) :
    Plays { p with snapshots } root events s :=
  { h with }

/-- Tasks that a play forgets no longer count. -/
theorem forget (h : Plays p root events s) (keep : String × Bool → Bool) :
    Plays { p with tasks := p.tasks.filter keep } root events s :=
  { h with
    idle := fun hnone task htask => h.idle hnone task (List.mem_of_mem_filter htask)
    callers := by
      obtain ⟨number, hnumber, hdistinct⟩ := h.callers
      exact ⟨number, fun task htask => hnumber task (List.mem_of_mem_filter htask),
        fun a ha b hb => hdistinct a (List.mem_of_mem_filter ha) b (List.mem_of_mem_filter hb)⟩ }

/-- A task that waits is cancelled; one that has returned is only forgotten. -/
theorem cancel (h : Plays p root events s) (task : String) :
    ∃ events' s', Plays { p with tasks := p.tasks.filter (·.1 != task) } root events' s' := by
  by_cases hwaits : (task, false) ∈ p.tasks
  · obtain ⟨number, hnumber, hdistinct⟩ := h.callers
    have hphase : (s.callers (number task)).waits = true := by
      cases hnumber _ hwaits with
      | parked hc => rw [hc]; rfl
      | awaiting hc => rw [hc]; rfl
    have hrun := h.run.snoc (.cancel s _ hphase)
    refine ⟨_, _, hrun, h.dir, h.flag, h.table, h.held, h.running, ?_, ?_, ?_, ?_⟩
    · exact fun hnone t ht => h.idle hnone t (List.mem_of_mem_filter ht)
    · rw [History.ofEvents_concat]
      exact h.fetches
    · refine ⟨number, fun t ht => ?_, fun a ha b hb =>
        hdistinct a (List.mem_of_mem_filter ha) b (List.mem_of_mem_filter hb)⟩
      obtain ⟨hmem, hname⟩ := List.mem_filter.mp ht
      have hne : number t.1 ≠ number task := fun heq =>
        (by simpa using hname : t.1 ≠ task) (hdistinct t hmem _ hwaits heq)
      exact (hnumber t hmem).keep (by simp [hne]) fun _ hfetch => hfetch
    · exact h.fresh_setCaller _ _
  · exact ⟨events, s, h.forget _⟩

/-- A caller that is about to start a fetch does what its task does. -/
theorem callRefresh (h : Plays p root events s) {c : Nat} (hc : s.callers c = .starting)
    (ht : s.tasks c = .absent) (task : String) :
    ∃ events' s', Plays (p.callRefresh task) root events' s' := by
  rw [CachePlay.callRefresh]
  cases hstart : p.cache.start? with
  | none => exact h.findBusy hc hstart task
  | some next =>
    obtain ⟨dir, cache⟩ := next
    obtain ⟨-, hfree, -⟩ := RouteCache.start?_eq_some.mp hstart
    have hnone : p.held = none := by simpa [hfree] using h.held.symm
    have hspawn := h.spawn hc ht hstart p.responses.tail
      (p.responses.head?.getD CachePlay.standardResponse).ending task
    show ∃ events' s', Plays (if (p.responses.head?.getD CachePlay.standardResponse).held then _
      else _) root events' s'
    split
    · exact hspawn
    · obtain ⟨events', s', hspawned⟩ := hspawn
      obtain ⟨events', s', hreleased⟩ := hspawned.release rfl
      refine ⟨events', s', ?_⟩
      have htasks := map_assign_of_idle (h.idle hnone) task
      simpa [CachePlay.release, CachePlay.withTask, htasks, hnone] using hreleased

/-- A caller that loads what is still to be loaded looks at the flag and at the table first. -/
theorem callEnsureLoaded (h : Plays p root events s) {c : Nat} (hc : s.callers c = .absent)
    (ht : s.tasks c = .absent) (task : String) :
    ∃ events' s', Plays (p.callEnsureLoaded task) root events' s' := by
  have hcall := h.moveCaller (by rw [hc]; rfl) rfl (.callEnsureLoaded s c hc)
  have hcheck := Step.checkFlag (s.setCaller c .checking) c (by simp)
  rw [CachePlay.callEnsureLoaded, RouteCache.wantsLoad, ← h.flag, ← h.table]
  cases hflag : s.refreshing with
  | true =>
    rw [System.setCaller_refreshing, hflag, if_pos rfl] at hcheck
    exact ⟨_, _, hcall.enlist (by simp [Caller.settled]) rfl hcheck task
      (.returned (by simp)) fun _ => rfl⟩
  | false =>
    rw [System.setCaller_refreshing, hflag, if_neg Bool.false_ne_true] at hcheck
    have hchecked := hcall.moveCaller (by simp [Caller.settled]) rfl hcheck
    have hinspect := Step.inspectTable ((s.setCaller c .checking).setCaller c .inspecting) c
      (by simp)
    rw [System.setCaller_table, System.setCaller_table] at hinspect
    cases hempty : s.table.isEmpty with
    | true =>
      rw [hempty, if_pos rfl] at hinspect
      have hinspected := hchecked.moveCaller (by simp [Caller.settled]) rfl hinspect
      exact hinspected.callRefresh (c := c) (by simp) ht task
    | false =>
      rw [hempty, if_neg Bool.false_ne_true] at hinspect
      exact ⟨_, _, hchecked.enlist (by simp [Caller.settled]) rfl hinspect task
        (.returned (by simp)) fun _ => rfl⟩

/-- Every operation is a sequence of atomic steps. -/
theorem step (h : Plays p root events s) (op : CacheOp) :
    ∃ events' s', Plays (p.step op).2 root events' s' := by
  cases op with
  | refresh task =>
    obtain ⟨n, hn⟩ := h.fresh
    obtain ⟨hcaller, htask⟩ := hn n (Nat.le_refl n)
    have hcall := h.moveCaller (by rw [hcaller]; rfl) rfl (.callRefresh s n hcaller)
    exact hcall.callRefresh (by simp) htask task
  | ensureLoaded task =>
    obtain ⟨n, hn⟩ := h.fresh
    obtain ⟨hcaller, htask⟩ := hn n (Nat.le_refl n)
    exact h.callEnsureLoaded hcaller htask task
  | release =>
    cases hheld : p.held with
    | none =>
      have hsame : p.release = p := by rw [CachePlay.release, hheld]
      exact ⟨events, s, (congrArg (Plays · root events s) hsame).mpr h⟩
    | some ending => exact h.release hheld
  | cancel task => exact h.cancel task
  | snapshot id => exact ⟨events, s, h.withSnapshots _⟩
  | routes | snapshotRoutes | codeLens => exact ⟨events, s, h⟩

end Plays

/-- What a play does, a run does: some run ends with the same flag and table, after as many fetches,
and with a caller of its own for each task. -/
theorem exists_run_of_play (dir : Option Path) (responses : List Response) (ops : List CacheOp) :
    ∃ events s, Plays (CachePlay.run { cache := { dir }, responses } ops).2 dir events s := by
  suffices hrun : ∀ p events s, Plays p dir events s →
      ∃ events' s', Plays (p.run ops).2 dir events' s' from
    hrun _ _ _ (.initial dir responses)
  induction ops with
  | nil => exact fun p events s h => ⟨events, s, h⟩
  | cons op ops ih =>
    intro p events s h
    obtain ⟨events', s', h'⟩ := h.step op
    exact ih _ _ _ h'

end RouteLens.Atomic
