import RouteLens.Cache.Basic

/-!
# Atomic steps of a route cache

A route cache as callers and fetching tasks share it, one indivisible step at a time. A caller that
finds no fetch under way sets the flag and spawns a task in one step, and waits for the task; one
that finds the flag set registers for a notification, looks at the flag once more, and waits if it
is still set. A task fetches, stores a listing, clears the flag, and wakes every registered caller
in a step of its own. A caller may be cancelled wherever it waits; a task never is.
-/

namespace RouteLens.Atomic

/-- Where a caller stands. -/
inductive Caller
  | absent
  /-- About to look at the flag, to load only what is still to be loaded. -/
  | checking
  /-- Waiting to look at the table. -/
  | inspecting
  /-- About to set the flag and spawn a task. -/
  | starting
  /-- Waiting for the task that it spawned. -/
  | awaiting (task : Nat)
  /-- About to register for a notification. -/
  | joining
  /-- Registered, and about to look at the flag. -/
  | registered (woken : Bool)
  /-- Waiting for the notification. -/
  | parked (woken : Bool)
  | returned
  | cancelled
  deriving DecidableEq

/-- Where a task stands. -/
inductive Task
  | absent
  | spawned
  | fetching
  /-- About to store the table of a listing. -/
  | storing (listing : String)
  /-- About to clear the flag. -/
  | clearing
  /-- About to wake the registered callers. -/
  | notifying
  | finished
  deriving DecidableEq

/-- A cache with its callers and tasks, each by number. -/
structure System where
  dir : Option Path
  refreshing : Bool
  table : RouteTable
  callers : Nat → Caller
  tasks : Nat → Task

/-- What happens in a step. -/
inductive Event
  | callRefresh (caller : Nat)
  | callEnsureLoaded (caller : Nat)
  | checkFlag (caller : Nat)
  | inspectTable (caller : Nat)
  | spawn (caller task : Nat)
  | findBusy (caller : Nat)
  | register (caller : Nat)
  | recheckFlag (caller : Nat)
  | wake (caller : Nat)
  | join (caller task : Nat)
  | cancel (caller : Nat)
  | startFetch (task : Nat)
  | endFetch (task : Nat) (ending : FetchEnd)
  | store (task : Nat) (listing : String)
  | clear (task : Nat)
  | notify (task : Nat)

namespace System

/-- The system before anyone calls. -/
def initial (dir : Option Path) : System :=
  { dir, refreshing := false, table := ∅, callers := fun _ => .absent, tasks := fun _ => .absent }

/-- Moves a caller. -/
def setCaller (s : System) (caller : Nat) (phase : Caller) : System :=
  { s with callers := fun i => if i = caller then phase else s.callers i }

/-- Moves a task. -/
def setTask (s : System) (task : Nat) (phase : Task) : System :=
  { s with tasks := fun i => if i = task then phase else s.tasks i }

@[simp] theorem initial_tasks (dir : Option Path) (t : Nat) :
    (initial dir).tasks t = .absent := rfl

@[simp] theorem setCaller_callers (s : System) (c : Nat) (phase : Caller) (d : Nat) :
    (s.setCaller c phase).callers d = if d = c then phase else s.callers d := rfl

@[simp] theorem setCaller_tasks (s : System) (c : Nat) (phase : Caller) (t : Nat) :
    (s.setCaller c phase).tasks t = s.tasks t := rfl

@[simp] theorem setCaller_refreshing (s : System) (c : Nat) (phase : Caller) :
    (s.setCaller c phase).refreshing = s.refreshing := rfl

@[simp] theorem setCaller_table (s : System) (c : Nat) (phase : Caller) :
    (s.setCaller c phase).table = s.table := rfl

@[simp] theorem setTask_callers (s : System) (t : Nat) (phase : Task) (c : Nat) :
    (s.setTask t phase).callers c = s.callers c := rfl

@[simp] theorem setTask_tasks (s : System) (t : Nat) (phase : Task) (u : Nat) :
    (s.setTask t phase).tasks u = if u = t then phase else s.tasks u := rfl

/-- Wakes every caller that is registered. -/
def wakeAll (s : System) : System :=
  { s with
    callers := fun i => match s.callers i with
      | .registered _ => .registered true
      | .parked _ => .parked true
      | phase => phase }

end System

/-- Whether a caller can be cancelled: it waits. -/
def Caller.waits : Caller → Bool
  | .inspecting => true
  | .awaiting _ => true
  | .parked _ => true
  | _ => false

/-- Where a task goes when its fetch ends. -/
def Task.afterFetch : FetchEnd → Task
  | .fetched listing => .storing listing
  | .failed _ => .clearing
  | .crashed => .clearing

/-- The steps that can happen. -/
inductive Step : System → Event → System → Prop
  | callRefresh (s : System) (c : Nat) : s.callers c = .absent →
      Step s (.callRefresh c) (s.setCaller c .starting)
  | callEnsureLoaded (s : System) (c : Nat) : s.callers c = .absent →
      Step s (.callEnsureLoaded c) (s.setCaller c .checking)
  | checkFlag (s : System) (c : Nat) : s.callers c = .checking →
      Step s (.checkFlag c) (s.setCaller c (if s.refreshing then .returned else .inspecting))
  | inspectTable (s : System) (c : Nat) : s.callers c = .inspecting →
      Step s (.inspectTable c) (s.setCaller c (if s.table.isEmpty then .starting else .returned))
  | spawn (s : System) (c t : Nat) (dir : Path) : s.callers c = .starting → s.dir = some dir →
      s.refreshing = false → s.tasks t = .absent →
      Step s (.spawn c t)
        ({ s with refreshing := true }.setTask t .spawned |>.setCaller c (.awaiting t))
  | findBusy (s : System) (c : Nat) : s.callers c = .starting →
      (s.dir = none ∨ s.refreshing = true) →
      Step s (.findBusy c) (s.setCaller c .joining)
  | register (s : System) (c : Nat) : s.callers c = .joining →
      Step s (.register c) (s.setCaller c (.registered false))
  | recheckFlag (s : System) (c : Nat) (woken : Bool) : s.callers c = .registered woken →
      Step s (.recheckFlag c) (s.setCaller c (if s.refreshing then .parked woken else .returned))
  | wake (s : System) (c : Nat) : s.callers c = .parked true →
      Step s (.wake c) (s.setCaller c .returned)
  | join (s : System) (c t : Nat) : s.callers c = .awaiting t → s.tasks t = .finished →
      Step s (.join c t) (s.setCaller c .returned)
  | cancel (s : System) (c : Nat) : (s.callers c).waits = true →
      Step s (.cancel c) (s.setCaller c .cancelled)
  | startFetch (s : System) (t : Nat) : s.tasks t = .spawned →
      Step s (.startFetch t) (s.setTask t .fetching)
  | endFetch (s : System) (t : Nat) (ending : FetchEnd) : s.tasks t = .fetching →
      Step s (.endFetch t ending) (s.setTask t (Task.afterFetch ending))
  | store (s : System) (t : Nat) (listing : String) : s.tasks t = .storing listing →
      Step s (.store t listing)
        ({ s with table := Listing.table listing }.setTask t .clearing)
  | clear (s : System) (t : Nat) : s.tasks t = .clearing →
      Step s (.clear t) ({ s with refreshing := false }.setTask t .notifying)
  | notify (s : System) (t : Nat) : s.tasks t = .notifying →
      Step s (.notify t) (s.wakeAll.setTask t .finished)

/-- Runs of steps from one system to another, with all that happens on the way. -/
inductive Run : System → List Event → System → Prop
  | nil (s : System) : Run s [] s
  | snoc {s m e : System} {events : List Event} {event : Event} :
      Run s events m → Step m event e → Run s (events ++ [event]) e

namespace Run

variable {s m e : System} {event : Event} {events later : List Event}

theorem cons (hstep : Step s event m) (h : Run m events e) : Run s (event :: events) e := by
  induction h with
  | nil => exact .snoc (.nil s) hstep
  | snoc _ hlast ih => exact .snoc ih hlast

theorem append (h : Run s events m) (hlater : Run m later e) : Run s (events ++ later) e := by
  induction hlater with
  | nil => simpa using h
  | snoc _ hstep ih =>
    rw [← List.append_assoc]
    exact ih.snoc hstep

theorem exists_of_concat (h : Run s (events ++ [event]) e) :
    ∃ m, Run s events m ∧ Step m event e := by
  generalize hall : events ++ [event] = all at h
  cases h with
  | nil => simp at hall
  | snoc hrun hlast =>
    obtain ⟨rfl, hsingle⟩ := List.append_inj' hall rfl
    obtain rfl := List.singleton_inj.mp hsingle
    exact ⟨_, hrun, hlast⟩

theorem exists_of_append (h : Run s (events ++ later) e) :
    ∃ m, Run s events m ∧ Run m later e := by
  generalize hall : events ++ later = all at h
  induction h generalizing later with
  | nil =>
    obtain ⟨rfl, rfl⟩ := List.append_eq_nil_iff.mp hall
    exact ⟨s, .nil s, .nil s⟩
  | snoc hrun hlast ih =>
    rcases List.eq_nil_or_concat later with rfl | ⟨rest, event, rfl⟩
    · rw [List.append_nil] at hall
      exact ⟨_, hall ▸ hrun.snoc hlast, .nil _⟩
    · rw [List.concat_eq_append, ← List.append_assoc] at hall
      rw [List.concat_eq_append]
      obtain ⟨hfirst, hsingle⟩ := List.append_inj' hall rfl
      obtain rfl := List.singleton_inj.mp hsingle
      obtain ⟨m, hevents, hrest⟩ := ih hfirst
      exact ⟨m, hevents, hrest.snoc hlast⟩

theorem exists_of_append_cons (h : Run s (events ++ event :: later) e) :
    ∃ m m', Run s events m ∧ Step m event m' ∧ Run m' later e := by
  rw [List.append_cons] at h
  obtain ⟨m', hfirst, hlater⟩ := h.exists_of_append
  obtain ⟨m, hevents, hstep⟩ := hfirst.exists_of_concat
  exact ⟨m, m', hevents, hstep, hlater⟩

end Run

end RouteLens.Atomic
