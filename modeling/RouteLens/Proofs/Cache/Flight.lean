import RouteLens.Cache.Atomic

/-!
# The task that holds the flag

Seen without its callers, a cache has a flag, a table and tasks, and only seven kinds of steps touch
them (`Step.move`). The flag is set exactly while there is a task that is still to clear it, and
there is never more than one such task (`SingleFlight`).
-/

namespace RouteLens.Atomic

/-- The task that an event moves. -/
def Event.task? : Event → Option Nat
  | .spawn _ t | .startFetch t | .endFetch t _ | .store t _ | .clear t | .notify t => some t
  | _ => none

/-- What a step does to the flag, the table and the tasks. -/
inductive Move (s s' : System) : Event → Prop
  /-- A step of a caller alone leaves them as they are. -/
  | caller {event : Event} (htask : event.task? = none) (hflag : s'.refreshing = s.refreshing)
      (htable : s'.table = s.table) (htasks : ∀ u, s'.tasks u = s.tasks u) : Move s s' event
  | spawn {c t : Nat} (hdir : s.dir ≠ none) (hfree : s.refreshing = false)
      (hphase : s.tasks t = .absent) (hflag : s'.refreshing = true) (htable : s'.table = s.table)
      (htasks : ∀ u, s'.tasks u = if u = t then .spawned else s.tasks u) : Move s s' (.spawn c t)
  | startFetch {t : Nat} (hphase : s.tasks t = .spawned) (hflag : s'.refreshing = s.refreshing)
      (htable : s'.table = s.table)
      (htasks : ∀ u, s'.tasks u = if u = t then .fetching else s.tasks u) :
      Move s s' (.startFetch t)
  | endFetch {t : Nat} {ending : FetchEnd} (hphase : s.tasks t = .fetching)
      (hflag : s'.refreshing = s.refreshing) (htable : s'.table = s.table)
      (htasks : ∀ u, s'.tasks u = if u = t then Task.afterFetch ending else s.tasks u) :
      Move s s' (.endFetch t ending)
  | store {t : Nat} {listing : String} (hphase : s.tasks t = .storing listing)
      (hflag : s'.refreshing = s.refreshing) (htable : s'.table = Listing.table listing)
      (htasks : ∀ u, s'.tasks u = if u = t then .clearing else s.tasks u) :
      Move s s' (.store t listing)
  | clear {t : Nat} (hphase : s.tasks t = .clearing) (hflag : s'.refreshing = false)
      (htable : s'.table = s.table)
      (htasks : ∀ u, s'.tasks u = if u = t then .notifying else s.tasks u) : Move s s' (.clear t)
  | notify {t : Nat} (hphase : s.tasks t = .notifying) (hflag : s'.refreshing = s.refreshing)
      (htable : s'.table = s.table)
      (htasks : ∀ u, s'.tasks u = if u = t then .finished else s.tasks u) : Move s s' (.notify t)

theorem Step.move {s s' : System} {event : Event} (h : Step s event s') : Move s s' event := by
  cases h with
  | spawn c t dir hcaller hdir hfree hphase =>
    exact .spawn (by simp [hdir]) hfree hphase rfl rfl fun _ => rfl
  | startFetch t hphase => exact .startFetch hphase rfl rfl fun _ => rfl
  | endFetch t ending hphase => exact .endFetch hphase rfl rfl fun _ => rfl
  | store t listing hphase => exact .store hphase rfl rfl fun _ => rfl
  | clear t hphase => exact .clear hphase rfl rfl fun _ => rfl
  | notify t hphase => exact .notify hphase rfl rfl fun _ => rfl
  | _ => exact .caller rfl rfl rfl fun _ => rfl

/-- The table after an event. -/
def Event.tableAfter (table : RouteTable) : Event → RouteTable
  | .store _ listing => Listing.table listing
  | _ => table

theorem Step.table_eq {s s' : System} {event : Event} (h : Step s event s') :
    s'.table = event.tableAfter s.table := by
  cases h <;> rfl

/-- A task that has the flag set and is still to clear it. -/
def Task.holdsFlag : Task → Bool
  | .spawned | .fetching | .storing _ | .clearing => true
  | _ => false

theorem Task.holdsFlag_afterFetch (ending : FetchEnd) :
    (Task.afterFetch ending).holdsFlag = true := by
  cases ending <;> rfl

/-- The flag is set exactly while a task holds it, and no two tasks do. -/
structure SingleFlight (s : System) : Prop where
  flag : s.refreshing = true ↔ ∃ t, (s.tasks t).holdsFlag = true
  unique : ∀ t u, (s.tasks t).holdsFlag = true → (s.tasks u).holdsFlag = true → t = u

namespace SingleFlight

variable {s s' : System}

theorem initial (dir : Option Path) : SingleFlight (System.initial dir) := by
  constructor <;> simp [System.initial, Task.holdsFlag]

theorem of_same (inv : SingleFlight s) (hflag : s'.refreshing = s.refreshing)
    (htasks : ∀ u, (s'.tasks u).holdsFlag = (s.tasks u).holdsFlag) : SingleFlight s' := by
  constructor
  · simpa only [hflag, htasks] using inv.flag
  · simpa only [htasks] using inv.unique

/-- A task that moves on without taking or clearing the flag. -/
theorem of_moved (inv : SingleFlight s) {t : Nat} {phase : Task}
    (hflag : s'.refreshing = s.refreshing)
    (htasks : ∀ u, s'.tasks u = if u = t then phase else s.tasks u)
    (hphase : phase.holdsFlag = (s.tasks t).holdsFlag) : SingleFlight s' := by
  refine inv.of_same hflag fun u => ?_
  rw [htasks]
  split
  · next h => rw [h, hphase]
  · rfl

theorem preserve (inv : SingleFlight s) {event : Event} (h : Step s event s') :
    SingleFlight s' := by
  cases h.move with
  | caller _ hflag _ htasks => exact inv.of_same hflag fun u => by rw [htasks]
  | @spawn c t _ hfree _ hflag _ htasks =>
    have hnone : ∀ u, (s.tasks u).holdsFlag = false := by
      intro u
      refine Bool.eq_false_iff.mpr fun hu => ?_
      simp [inv.flag.mpr ⟨u, hu⟩] at hfree
    have honly : ∀ u, (s'.tasks u).holdsFlag = true → u = t := by
      intro u hu
      rw [htasks] at hu
      split at hu
      · assumption
      · simp [hnone] at hu
    refine ⟨⟨fun _ => ⟨t, by simp [htasks, Task.holdsFlag]⟩, fun _ => hflag⟩, ?_⟩
    intro u v hu hv
    rw [honly u hu, honly v hv]
  | startFetch hphase hflag _ htasks => exact inv.of_moved hflag htasks (by rw [hphase]; rfl)
  | endFetch hphase hflag _ htasks =>
    refine inv.of_moved hflag htasks ?_
    rw [Task.holdsFlag_afterFetch, hphase]
    rfl
  | store hphase hflag _ htasks => exact inv.of_moved hflag htasks (by rw [hphase]; rfl)
  | @clear t hphase hflag _ htasks =>
    have hnone : ∀ u, (s'.tasks u).holdsFlag = false := by
      intro u
      rw [htasks]
      split
      · rfl
      · next hne =>
        refine Bool.eq_false_iff.mpr fun hu => hne ?_
        exact inv.unique u t hu (by rw [hphase]; rfl)
    constructor <;> simp [hflag, hnone]
  | notify hphase hflag _ htasks => exact inv.of_moved hflag htasks (by rw [hphase]; rfl)

theorem of_run {dir : Option Path} {events : List Event}
    (h : Run (System.initial dir) events s) : SingleFlight s := by
  induction h with
  | nil => exact initial dir
  | snoc _ hstep ih => exact ih.preserve hstep

end SingleFlight

end RouteLens.Atomic
