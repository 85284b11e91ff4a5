import Mathlib.Data.List.Nodup
import RouteLens.Proofs.Cache.Flight
import RouteLens.Proofs.Route.Listing

/-!
# What a cache remembers of its run

A run is recorded as three lists: the fetches that started, those that ended, and the listings that
were stored, each in order. The table is always the one of the listing stored last. Since the flag
covers a fetch from its start to its store, listings are stored in the order in which their fetches
started.
-/

namespace RouteLens.Atomic

/-- Fetches that started, fetches that ended, and listings that were stored, each with its task. -/
structure History where
  starts : List Nat := []
  outcomes : List (Nat × FetchEnd) := []
  stores : List (Nat × String) := []

namespace History

/-- Records an event. -/
def add (past : History) : Event → History
  | .startFetch t => { past with starts := past.starts ++ [t] }
  | .endFetch t ending => { past with outcomes := past.outcomes ++ [(t, ending)] }
  | .store t listing => { past with stores := past.stores ++ [(t, listing)] }
  | _ => past

/-- The record of events in order. -/
def ofEvents (events : List Event) : History :=
  events.foldl add {}

/-- The listing that an outcome brings. -/
def output? : Nat × FetchEnd → Option (Nat × String)
  | (t, .fetched listing) => some (t, listing)
  | _ => none

/-- The listings that fetches brought, stored or not. -/
def outputs (past : History) : List (Nat × String) :=
  past.outcomes.filterMap output?

/-- The table of the listing stored last. -/
def table (past : History) : RouteTable :=
  match past.stores.getLast? with
  | some (_, listing) => Listing.table listing
  | none => ∅

theorem ofEvents_concat (events : List Event) (event : Event) :
    ofEvents (events ++ [event]) = (ofEvents events).add event := by
  simp [ofEvents]

theorem outputs_add_endFetch (past : History) (t : Nat) (ending : FetchEnd) :
    (past.add (.endFetch t ending)).outputs = past.outputs ++ (output? (t, ending)).toList := by
  rw [outputs, add, List.filterMap_append, ← outputs]
  cases ending <;> rfl

theorem add_of_task?_eq_none {event : Event} (past : History) (h : event.task? = none) :
    past.add event = past := by
  cases event <;> simp_all [Event.task?, add]

end History

/-- A task that has started its fetch. -/
def Task.hasStarted : Task → Bool
  | .absent | .spawned => false
  | _ => true

theorem Task.hasStarted_afterFetch (ending : FetchEnd) :
    (Task.afterFetch ending).hasStarted = true := by
  cases ending <;> rfl

/-- The record of a run up to a system: what has started has ended except for a fetch under way, and
what was fetched has been stored except for a listing about to be. -/
structure Recorded (s : System) (past : History) : Prop where
  table : s.table = past.table
  nodup : past.starts.Nodup
  started : ∀ t ∈ past.starts, (s.tasks t).hasStarted = true
  running : ∃ running : Option Nat,
    past.starts = past.outcomes.map Prod.fst ++ running.toList ∧
      ∀ t, running = some t ↔ s.tasks t = .fetching
  pending : ∃ pending : Option (Nat × String), past.outputs = past.stores ++ pending.toList ∧
    ∀ t listing, pending = some (t, listing) ↔ s.tasks t = .storing listing

namespace Recorded

variable {s s' : System} {past : History}

theorem initial (dir : Option Path) : Recorded (System.initial dir) {} where
  table := rfl
  nodup := .nil
  started := by simp
  running := ⟨none, by simp⟩
  pending := ⟨none, by simp [History.outputs]⟩

/-! ## Preservation, one field at a time -/

theorem preserve_table (inv : Recorded s past) {event : Event} (h : Step s event s') :
    s'.table = (past.add event).table := by
  rw [h.table_eq]
  cases event with
  | store t listing => simp [Event.tableAfter, History.add, History.table]
  | _ => exact inv.table

theorem preserve_nodup (inv : Recorded s past) {event : Event} (h : Step s event s') :
    (past.add event).starts.Nodup := by
  cases h.move with
  | caller htask => rw [History.add_of_task?_eq_none past htask]; exact inv.nodup
  | @startFetch t hphase =>
    refine List.nodup_append.mpr ⟨inv.nodup, by simp, ?_⟩
    intro u hu v hv huv
    obtain rfl := List.mem_singleton.mp hv
    have := inv.started u hu
    rw [huv, hphase] at this
    simp [Task.hasStarted] at this
  | _ => exact inv.nodup

/-- A task that moves on is still one that has started its fetch. -/
theorem started_of_moved (inv : Recorded s past) {t : Nat} {phase : Task}
    (htasks : ∀ u, s'.tasks u = if u = t then phase else s.tasks u)
    (hphase : phase.hasStarted = true) : ∀ u ∈ past.starts, (s'.tasks u).hasStarted = true := by
  intro u hu
  rw [htasks]
  split
  · exact hphase
  · exact inv.started u hu

theorem preserve_started (inv : Recorded s past) {event : Event} (h : Step s event s') :
    ∀ t ∈ (past.add event).starts, (s'.tasks t).hasStarted = true := by
  cases h.move with
  | caller htask _ _ htasks =>
    rw [History.add_of_task?_eq_none past htask]
    intro t ht
    rw [htasks]
    exact inv.started t ht
  | @spawn c t _ _ hphase _ _ htasks =>
    intro u hu
    have hstarted := inv.started u hu
    have hne : u ≠ t := by
      rintro rfl
      simp [hphase, Task.hasStarted] at hstarted
    rwa [htasks, if_neg hne]
  | @startFetch t _ _ _ htasks =>
    intro u hu
    rcases List.mem_append.mp hu with hu | hu
    · exact inv.started_of_moved htasks rfl u hu
    · rw [List.mem_singleton.mp hu, htasks, if_pos rfl]
      rfl
  | endFetch _ _ _ htasks => exact inv.started_of_moved htasks (Task.hasStarted_afterFetch _)
  | store _ _ _ htasks => exact inv.started_of_moved htasks rfl
  | clear _ _ _ htasks => exact inv.started_of_moved htasks rfl
  | notify _ _ _ htasks => exact inv.started_of_moved htasks rfl

/-- A task that moves between two other phases makes no difference to who is in a phase. -/
theorem moved_eq_iff {t : Nat} {phase other : Task}
    (htasks : ∀ u, s'.tasks u = if u = t then phase else s.tasks u) (hafter : phase ≠ other)
    (hbefore : s.tasks t ≠ other) (u : Nat) : s'.tasks u = other ↔ s.tasks u = other := by
  rw [htasks]
  split
  · next h => simp [h, hafter, hbefore]
  · rfl

theorem preserve_running (inv : Recorded s past) (flight : SingleFlight s) {event : Event}
    (h : Step s event s') : ∃ running : Option Nat,
      (past.add event).starts = (past.add event).outcomes.map Prod.fst ++ running.toList ∧
        ∀ t, running = some t ↔ s'.tasks t = .fetching := by
  obtain ⟨running, hstarts, hrunning⟩ := inv.running
  have other {t : Nat} {phase : Task}
      (htasks : ∀ u, s'.tasks u = if u = t then phase else s.tasks u) (hafter : phase ≠ .fetching)
      (hbefore : s.tasks t ≠ .fetching) : ∀ u, running = some u ↔ s'.tasks u = .fetching :=
    fun u => (hrunning u).trans (moved_eq_iff htasks hafter hbefore u).symm
  cases h.move with
  | caller htask _ _ htasks =>
    rw [History.add_of_task?_eq_none past htask]
    exact ⟨running, hstarts, fun t => by rw [htasks, hrunning]⟩
  | spawn _ _ hphase _ _ htasks =>
    exact ⟨running, hstarts, other htasks (by simp) (by simp [hphase])⟩
  | @startFetch t hphase _ _ htasks =>
    have hnone : running = none := by
      refine Option.eq_none_iff_forall_ne_some.mpr fun v hv => ?_
      have hfetching := (hrunning v).mp hv
      have hvt := flight.unique v t (by rw [hfetching]; rfl) (by rw [hphase]; rfl)
      rw [hvt, hphase] at hfetching
      cases hfetching
    subst hnone
    refine ⟨some t, by simp [History.add, hstarts], fun u => ?_⟩
    rw [htasks]
    split
    · next h => simp [h]
    · next h => simpa [Ne.symm h] using hrunning u
  | @endFetch t ending hphase _ _ htasks =>
    obtain rfl := (hrunning t).mpr hphase
    refine ⟨none, by simp [History.add, hstarts], fun u => ?_⟩
    rw [htasks]
    split
    · cases ending <;> simp [Task.afterFetch]
    · next h => simpa [Ne.symm h] using hrunning u
  | store hphase _ _ htasks =>
    exact ⟨running, hstarts, other htasks (by simp) (by simp [hphase])⟩
  | clear hphase _ _ htasks =>
    exact ⟨running, hstarts, other htasks (by simp) (by simp [hphase])⟩
  | notify hphase _ _ htasks =>
    exact ⟨running, hstarts, other htasks (by simp) (by simp [hphase])⟩

theorem preserve_pending (inv : Recorded s past) (flight : SingleFlight s) {event : Event}
    (h : Step s event s') : ∃ pending : Option (Nat × String),
      (past.add event).outputs = (past.add event).stores ++ pending.toList ∧
        ∀ t listing, pending = some (t, listing) ↔ s'.tasks t = .storing listing := by
  obtain ⟨pending, houtputs, hpending⟩ := inv.pending
  have other {t : Nat} {phase : Task}
      (htasks : ∀ u, s'.tasks u = if u = t then phase else s.tasks u)
      (hafter : ∀ listing, phase ≠ .storing listing)
      (hbefore : ∀ listing, s.tasks t ≠ .storing listing) :
      ∀ u listing, pending = some (u, listing) ↔ s'.tasks u = .storing listing :=
    fun u listing =>
      (hpending u listing).trans (moved_eq_iff htasks (hafter listing) (hbefore listing) u).symm
  cases h.move with
  | caller htask _ _ htasks =>
    rw [History.add_of_task?_eq_none past htask]
    exact ⟨pending, houtputs, fun t listing => by rw [htasks, hpending]⟩
  | spawn _ _ hphase _ _ htasks =>
    exact ⟨pending, houtputs, other htasks (by simp) (by simp [hphase])⟩
  | startFetch hphase _ _ htasks =>
    exact ⟨pending, houtputs, other htasks (by simp) (by simp [hphase])⟩
  | @endFetch t ending hphase _ _ htasks =>
    have hnone : pending = none := by
      refine Option.eq_none_iff_forall_ne_some.mpr fun ⟨v, listing⟩ hv => ?_
      have hstoring := (hpending v listing).mp hv
      have hvt := flight.unique v t (by rw [hstoring]; rfl) (by rw [hphase]; rfl)
      rw [hvt, hphase] at hstoring
      cases hstoring
    subst hnone
    refine ⟨History.output? (t, ending), ?_, fun u other => ?_⟩
    · rw [History.outputs_add_endFetch, houtputs]
      simp [History.add]
    · rw [htasks]
      split
      · next hu =>
        rw [hu]
        cases ending <;> simp [History.output?, Task.afterFetch]
      · next hu =>
        have := hpending u other
        cases ending <;> simpa [History.output?, Ne.symm hu] using this
  | @store t listing hphase _ _ htasks =>
    obtain rfl := (hpending t listing).mpr hphase
    refine ⟨none, by simpa [History.add, History.outputs] using houtputs, fun u other => ?_⟩
    rw [htasks]
    split
    · simp
    · next h => simpa [Ne.symm h] using hpending u other
  | clear hphase _ _ htasks =>
    exact ⟨pending, houtputs, other htasks (by simp) (by simp [hphase])⟩
  | notify hphase _ _ htasks =>
    exact ⟨pending, houtputs, other htasks (by simp) (by simp [hphase])⟩

theorem preserve (inv : Recorded s past) (flight : SingleFlight s) {event : Event}
    (h : Step s event s') : Recorded s' (past.add event) where
  table := inv.preserve_table h
  nodup := inv.preserve_nodup h
  started := inv.preserve_started h
  running := inv.preserve_running flight h
  pending := inv.preserve_pending flight h

theorem of_run {dir : Option Path} {events : List Event}
    (h : Run (System.initial dir) events s) : Recorded s (History.ofEvents events) := by
  induction h with
  | nil => exact initial dir
  | snoc hrun hstep ih =>
    rw [History.ofEvents_concat]
    exact ih.preserve (.of_run hrun) hstep

end Recorded

/-! ## Order of stores -/

/-- `x` stands before `y` in a list. -/
def Precedes {α : Type} (l : List α) (x y : α) : Prop :=
  [x, y].Sublist l

theorem precedes_cons {α : Type} {a x y : α} {l : List α} :
    Precedes (a :: l) x y ↔ Precedes l x y ∨ x = a ∧ y ∈ l := by
  simp only [Precedes, List.sublist_cons_iff, List.cons.injEq]
  constructor
  · rintro (h | ⟨_, ⟨rfl, rfl⟩, h⟩)
    · exact Or.inl h
    · exact Or.inr ⟨rfl, List.singleton_sublist.mp h⟩
  · rintro (h | ⟨rfl, h⟩)
    · exact Or.inl h
    · exact Or.inr ⟨[y], ⟨rfl, rfl⟩, List.singleton_sublist.mpr h⟩

theorem Precedes.mem {α : Type} {x y : α} {l : List α} (h : Precedes l x y) : x ∈ l ∧ y ∈ l :=
  ⟨h.subset (by simp), h.subset (by simp)⟩

theorem Precedes.asymm {α : Type} {x y : α} {l : List α} (hl : l.Nodup) (h : Precedes l x y) :
    ¬ Precedes l y x := by
  intro hback
  induction l with
  | nil => cases h
  | cons a l ih =>
    obtain ⟨ha, hl⟩ := List.nodup_cons.mp hl
    rcases precedes_cons.mp h with hxy | ⟨rfl, hy⟩
    · rcases precedes_cons.mp hback with hyx | ⟨rfl, -⟩
      · exact ih hl hxy hyx
      · exact ha hxy.mem.2
    · rcases precedes_cons.mp hback with hyx | ⟨rfl, -⟩
      · exact ha hyx.mem.2
      · exact ha hy

namespace Recorded

variable {s : System} {past : History}

theorem outcomes_prefix (inv : Recorded s past) : past.outcomes.map Prod.fst <+: past.starts := by
  obtain ⟨running, hstarts, -⟩ := inv.running
  exact ⟨running.toList, hstarts.symm⟩

theorem stores_prefix (inv : Recorded s past) : past.stores <+: past.outputs := by
  obtain ⟨pending, houtputs, -⟩ := inv.pending
  exact ⟨pending.toList, houtputs.symm⟩

end Recorded

theorem History.mem_outputs {past : History} {t : Nat} {listing : String} :
    (t, listing) ∈ past.outputs ↔ (t, .fetched listing) ∈ past.outcomes := by
  simp only [outputs, List.mem_filterMap]
  constructor
  · rintro ⟨⟨u, ending⟩, hmem, h⟩
    cases ending <;> simp only [output?, reduceCtorEq, Option.some.injEq, Prod.mk.injEq] at h
    obtain ⟨rfl, rfl⟩ := h
    exact hmem
  · exact fun h => ⟨_, h, rfl⟩

theorem History.map_fst_outputs_sublist (past : History) :
    (past.outputs.map Prod.fst).Sublist (past.outcomes.map Prod.fst) := by
  rw [outputs]
  induction past.outcomes with
  | nil => exact .slnil
  | cons outcome outcomes ih =>
    obtain ⟨t, ending⟩ := outcome
    cases ending with
    | fetched listing => exact ih.cons_cons t
    | failed error => exact ih.cons t
    | crashed => exact ih.cons t

theorem Recorded.stores_sublist {s : System} {past : History} (inv : Recorded s past) :
    (past.stores.map Prod.fst).Sublist past.starts :=
  (inv.stores_prefix.sublist.map Prod.fst).trans
    (past.map_fst_outputs_sublist.trans inv.outcomes_prefix.sublist)

theorem Recorded.eq_of_mem_outcomes {s : System} {past : History} (inv : Recorded s past)
    {t : Nat} {a b : FetchEnd} (ha : (t, a) ∈ past.outcomes) (hb : (t, b) ∈ past.outcomes) :
    a = b := by
  have hnodup := inv.nodup.sublist inv.outcomes_prefix.sublist
  exact congrArg Prod.snd (List.inj_on_of_nodup_map hnodup ha hb rfl)

/-- In every run the table is the one of the listing stored last, and empty before the first store.
What is stored are the listings that fetches brought, each at most once and in order; at most one is
still to be stored. A fetch starts once and ends at most once; one that failed or broke off stores
nothing. No listing of a fetch that started earlier is stored after one of a fetch that started
later. Only a store replaces the table, and the store of a malformed listing empties it. -/
theorem table_of_run {dir : Option Path} {events : List Event} {s : System}
    (h : Run (System.initial dir) events s) :
    s.table = (History.ofEvents events).table ∧
    (∃ pending : Option (Nat × String),
      (History.ofEvents events).outputs = (History.ofEvents events).stores ++ pending.toList ∧
        ∀ t listing, pending = some (t, listing) ↔ s.tasks t = .storing listing) ∧
    (History.ofEvents events).starts.Nodup ∧
    (History.ofEvents events).outcomes.map Prod.fst <+: (History.ofEvents events).starts ∧
    (∀ t ending, (t, ending) ∈ (History.ofEvents events).outcomes →
      (∀ listing, ending ≠ .fetched listing) →
      ∀ listing, (t, listing) ∉ (History.ofEvents events).stores) ∧
    (∀ t u a b, Precedes (History.ofEvents events).starts t u →
      ¬ Precedes (History.ofEvents events).stores (u, b) (t, a)) ∧
    (∀ event s', Step s event s' → (∀ t listing, event ≠ .store t listing) →
      s'.table = s.table) ∧
    (∀ t listing s', Step s (.store t listing) s' → s'.table = Listing.table listing ∧
      ((∀ rows, Json.parse listing ≠ some (.array rows)) → s'.table = ∅)) := by
  have inv : Recorded s (History.ofEvents events) := .of_run h
  refine ⟨inv.table, inv.pending, inv.nodup, inv.outcomes_prefix, ?_, ?_, ?_, ?_⟩
  · intro t ending hmem hending listing hstore
    have hfetched := History.mem_outputs.mp (inv.stores_prefix.subset hstore)
    exact hending listing (inv.eq_of_mem_outcomes hmem hfetched)
  · intro t u a b hstarts hstores
    have hback : Precedes (History.ofEvents events).starts u t :=
      (hstores.map Prod.fst).trans inv.stores_sublist
    exact hstarts.asymm inv.nodup hback
  · intro event s' hstep hne
    rw [hstep.table_eq]
    cases event with
    | store t listing => exact absurd rfl (hne t listing)
    | _ => rfl
  · intro t listing s' hstep
    have htable : s'.table = Listing.table listing := hstep.table_eq
    exact ⟨htable, fun hmalformed => htable.trans (Listing.table_of_malformed hmalformed)⟩

/-- Three fetches: the first brings a listing, the second is overdue, and the third brings another
listing. -/
def threeFetches (first last : String) : List Event :=
  [.callRefresh 0, .spawn 0 0, .startFetch 0, .endFetch 0 (.fetched first), .store 0 first,
    .clear 0, .callRefresh 1, .spawn 1 1, .startFetch 1,
    .endFetch 1 (.failed (.timeout { secs := 30 })), .clear 1, .callRefresh 2, .spawn 2 2,
    .startFetch 2, .endFetch 2 (.fetched last), .store 2 last]

theorem run_threeFetches (first last : String) :
    ∃ s, Run (System.initial (some [])) (threeFetches first last) s :=
  ⟨_, .cons (.callRefresh (System.initial (some [])) 0 rfl) <|
    .cons (.spawn _ 0 0 [] rfl rfl rfl rfl) <| .cons (.startFetch _ 0 rfl) <|
    .cons (.endFetch _ 0 (.fetched first) rfl) <| .cons (.store _ 0 first rfl) <|
    .cons (.clear _ 0 rfl) <| .cons (.callRefresh _ 1 rfl) <|
    .cons (.spawn _ 1 1 [] rfl rfl rfl rfl) <| .cons (.startFetch _ 1 rfl) <|
    .cons (.endFetch _ 1 (.failed (.timeout { secs := 30 })) rfl) <| .cons (.clear _ 1 rfl) <|
    .cons (.callRefresh _ 2 rfl) <| .cons (.spawn _ 2 2 [] rfl rfl rfl rfl) <|
    .cons (.startFetch _ 2 rfl) <| .cons (.endFetch _ 2 (.fetched last) rfl) <|
    .cons (.store _ 2 last rfl) (.nil _)⟩

/-- A listing with one route. -/
def listingF : String := "[\x7b\"action\":\"C@f\"\x7d]"

/-- A listing with another route. -/
def listingG : String := "[\x7b\"action\":\"C@g\"\x7d]"

theorem table_of_run_store :
    ∃ s, Run (System.initial (some [])) (threeFetches listingF listingG) s ∧
      s.table = Listing.table listingG ∧ s.table.contains "C@g" = true ∧
      s.table.contains "C@f" = false ∧
      ∀ listing, (1, listing) ∉ (History.ofEvents (threeFetches listingF listingG)).stores := by
  obtain ⟨s, hrun⟩ := run_threeFetches listingF listingG
  obtain ⟨htable, -, -, -, hfailed, -⟩ := table_of_run hrun
  have hlast : s.table = Listing.table listingG := htable
  have hmem : (1, .failed (.timeout { secs := 30 })) ∈
      (History.ofEvents (threeFetches listingF listingG)).outcomes := by
    simp [threeFetches, History.ofEvents, History.add]
  have hroutes : Listing.routes listingG = [⟨"GET", "", none, "C@g"⟩] := by decide +kernel
  refine ⟨s, hrun, hlast, ?_, ?_, hfailed 1 _ hmem fun listing => by simp⟩
  · rw [hlast, Listing.table, hroutes]
    rfl
  · rw [hlast, Listing.table, hroutes]
    rfl

end RouteLens.Atomic
