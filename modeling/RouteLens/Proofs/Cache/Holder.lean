import RouteLens.Proofs.Cache.Flight

/-!
# Holding the flag

A task passes through its stages in order, and each of its events takes it over the next one. So what
a run has recorded of a task says where the task stands (`Run.exists_passes_iff`), and a task that
has come into being can always run to its end on its own (`Run.finish`). The flag is set exactly
while one task has set it and not yet cleared it (`refreshing_of_run`).
-/

namespace RouteLens.Atomic

/-! ## Stages -/

/-- How far a task has come. -/
def Task.stage : Task → Nat
  | .absent => 0
  | .spawned => 1
  | .fetching => 2
  | .storing _ => 3
  | .clearing => 4
  | .notifying => 5
  | .finished => 6

/-- The stage at which an event finds its task. -/
def Event.fromStage : Event → Nat
  | .startFetch _ => 1
  | .endFetch _ _ => 2
  | .store _ _ => 3
  | .clear _ => 4
  | .notify _ => 5
  | _ => 0

/-- The stage to which an event takes its task. -/
def Event.toStage : Event → Nat
  | .spawn _ _ => 1
  | .startFetch _ => 2
  | .endFetch _ ending => (Task.afterFetch ending).stage
  | .store _ _ => 4
  | .clear _ => 5
  | .notify _ => 6
  | _ => 0

/-- A task that has come into being and has not finished. -/
def Task.isLive : Task → Bool
  | .absent | .finished => false
  | _ => true

theorem Task.isLive_iff {phase : Task} :
    phase.isLive = true ↔ 1 ≤ phase.stage ∧ phase.stage < 6 := by
  cases phase <;> simp [isLive, stage]

theorem Task.holdsFlag_iff {phase : Task} :
    phase.holdsFlag = true ↔ 1 ≤ phase.stage ∧ phase.stage < 5 := by
  cases phase <;> simp [holdsFlag, stage]

theorem Task.eq_fetching_iff {phase : Task} :
    phase = .fetching ↔ 2 ≤ phase.stage ∧ phase.stage < 3 := by
  cases phase <;> simp [stage]

theorem Task.eq_finished_iff {phase : Task} : phase = .finished ↔ 6 ≤ phase.stage := by
  cases phase <;> simp [stage]

theorem Task.isLive_of_holdsFlag {phase : Task} (h : phase.holdsFlag = true) :
    phase.isLive = true := by
  rw [holdsFlag_iff] at h
  rw [isLive_iff]
  omega

theorem Task.stage_afterFetch (ending : FetchEnd) :
    3 ≤ (Task.afterFetch ending).stage ∧ (Task.afterFetch ending).stage ≤ 4 := by
  cases ending <;> simp [afterFetch, stage]

section Step

variable {s s' : System} {event : Event} {t : Nat}

theorem Step.tasks_eq (h : Step s event s') (ht : event.task? ≠ some t) :
    s'.tasks t = s.tasks t := by
  cases h.move with
  | caller _ _ _ htasks => exact htasks t
  | spawn _ _ _ _ _ htasks =>
    rw [htasks, if_neg]
    rintro rfl
    exact ht rfl
  | startFetch _ _ _ htasks | endFetch _ _ _ htasks | store _ _ _ htasks | clear _ _ _ htasks
  | notify _ _ _ htasks =>
    rw [htasks, if_neg]
    rintro rfl
    exact ht rfl

theorem Step.stage_eq (h : Step s event s') (ht : event.task? = some t) :
    (s.tasks t).stage = event.fromStage ∧ (s'.tasks t).stage = event.toStage := by
  cases h.move with
  | caller hnone =>
    rw [hnone] at ht
    cases ht
  | spawn _ _ hphase _ _ htasks =>
    obtain rfl := Option.some.inj ht
    rw [hphase, htasks, if_pos rfl]
    exact ⟨rfl, rfl⟩
  | startFetch hphase _ _ htasks | endFetch hphase _ _ htasks | store hphase _ _ htasks
  | clear hphase _ _ htasks | notify hphase _ _ htasks =>
    obtain rfl := Option.some.inj ht
    rw [hphase, htasks, if_pos rfl]
    exact ⟨rfl, rfl⟩

end Step

/-- An event that takes a task over a stage. -/
def Event.Passes (event : Event) (t n : Nat) : Prop :=
  event.task? = some t ∧ event.fromStage < n ∧ n ≤ event.toStage

theorem Step.le_stage_iff {s s' : System} {event : Event} (h : Step s event s') (t n : Nat) :
    n ≤ (s'.tasks t).stage ↔ n ≤ (s.tasks t).stage ∨ event.Passes t n := by
  by_cases ht : event.task? = some t
  · obtain ⟨hfrom, hto⟩ := h.stage_eq ht
    have hle : event.fromStage ≤ event.toStage := by
      cases event with
      | endFetch _ ending =>
        have := Task.stage_afterFetch ending
        simp only [Event.fromStage, Event.toStage]
        omega
      | _ => simp [Event.fromStage, Event.toStage]
    simp only [Event.Passes, ht, true_and]
    omega
  · rw [h.tasks_eq ht]
    simp [Event.Passes, ht]

/-- A task has come to a stage exactly if an event has taken it there. -/
theorem Run.exists_passes_iff {dir : Option Path} {events : List Event} {s : System}
    (h : Run (System.initial dir) events s) (t : Nat) {n : Nat} (hn : 0 < n) :
    (∃ event ∈ events, event.Passes t n) ↔ n ≤ (s.tasks t).stage := by
  induction h with
  | nil =>
    rw [System.initial_tasks, Task.stage]
    simp only [List.not_mem_nil, false_and, exists_false, false_iff]
    omega
  | snoc _ hstep ih =>
    rw [hstep.le_stage_iff, ← ih]
    simp only [List.mem_append, List.mem_singleton]
    constructor
    · rintro ⟨event, hmem | rfl, hpasses⟩
      · exact .inl ⟨event, hmem, hpasses⟩
      · exact .inr hpasses
    · rintro (⟨event, hmem, hpasses⟩ | hpasses)
      · exact ⟨event, .inl hmem, hpasses⟩
      · exact ⟨_, .inr rfl, hpasses⟩

/-! ## What has happened to a task -/

section Passes

variable {event : Event} {t : Nat}

theorem Event.passes_one : event.Passes t 1 ↔ ∃ c, event = .spawn c t := by
  cases event <;> simp [Passes, task?, fromStage, toStage]

theorem Event.passes_two : event.Passes t 2 ↔ event = .startFetch t := by
  cases event <;> simp [Passes, task?, fromStage, toStage]

theorem Event.passes_three : event.Passes t 3 ↔ ∃ ending, event = .endFetch t ending := by
  cases event with
  | endFetch u ending =>
    have := Task.stage_afterFetch ending
    simp only [Passes, task?, fromStage, toStage, Option.some.injEq, endFetch.injEq]
    constructor
    · rintro ⟨rfl, -, -⟩
      exact ⟨ending, rfl, rfl⟩
    · rintro ⟨_, rfl, -⟩
      exact ⟨rfl, by omega, by omega⟩
  | _ => simp [Passes, task?, fromStage, toStage]

theorem Event.passes_five : event.Passes t 5 ↔ event = .clear t := by
  cases event with
  | endFetch u ending =>
    have := Task.stage_afterFetch ending
    simp only [Passes, toStage, reduceCtorEq, iff_false]
    omega
  | _ => simp [Passes, task?, fromStage, toStage]

end Passes

/-- A task that has set the flag and not cleared it since. -/
def Holds (events : List Event) (t : Nat) : Prop :=
  (∃ c, .spawn c t ∈ events) ∧ .clear t ∉ events

/-- A fetch that has started and not ended. -/
def Outstanding (events : List Event) (t : Nat) : Prop :=
  .startFetch t ∈ events ∧ ∀ ending, .endFetch t ending ∉ events

section Record

variable {dir : Option Path} {events : List Event} {s : System}

theorem Run.exists_spawn_iff (h : Run (System.initial dir) events s) (t : Nat) :
    (∃ c, .spawn c t ∈ events) ↔ 1 ≤ (s.tasks t).stage := by
  rw [← h.exists_passes_iff t (by omega)]
  simp only [Event.passes_one]
  constructor
  · rintro ⟨c, hmem⟩
    exact ⟨_, hmem, c, rfl⟩
  · rintro ⟨_, hmem, c, rfl⟩
    exact ⟨c, hmem⟩

theorem Run.startFetch_mem_iff (h : Run (System.initial dir) events s) (t : Nat) :
    .startFetch t ∈ events ↔ 2 ≤ (s.tasks t).stage := by
  rw [← h.exists_passes_iff t (by omega)]
  simp only [Event.passes_two, exists_eq_right]

theorem Run.exists_endFetch_iff (h : Run (System.initial dir) events s) (t : Nat) :
    (∃ ending, .endFetch t ending ∈ events) ↔ 3 ≤ (s.tasks t).stage := by
  rw [← h.exists_passes_iff t (by omega)]
  simp only [Event.passes_three]
  constructor
  · rintro ⟨ending, hmem⟩
    exact ⟨_, hmem, ending, rfl⟩
  · rintro ⟨_, hmem, ending, rfl⟩
    exact ⟨ending, hmem⟩

theorem Run.clear_mem_iff (h : Run (System.initial dir) events s) (t : Nat) :
    .clear t ∈ events ↔ 5 ≤ (s.tasks t).stage := by
  rw [← h.exists_passes_iff t (by omega)]
  simp only [Event.passes_five, exists_eq_right]

theorem Run.holds_iff (h : Run (System.initial dir) events s) (t : Nat) :
    Holds events t ↔ (s.tasks t).holdsFlag = true := by
  rw [Holds, h.exists_spawn_iff, h.clear_mem_iff, Task.holdsFlag_iff, Nat.not_le]

theorem Run.outstanding_iff (h : Run (System.initial dir) events s) (t : Nat) :
    Outstanding events t ↔ s.tasks t = .fetching := by
  rw [Outstanding, ← not_exists, h.startFetch_mem_iff, h.exists_endFetch_iff, Task.eq_fetching_iff,
    Nat.not_le]

end Record

/-! ## The rest of a task -/

/-- An event of a task alone, whose fetch ends in a given way if it ends. -/
def Event.IsOf (t : Nat) (ending : FetchEnd) : Event → Prop
  | .startFetch u | .store u _ | .clear u | .notify u => u = t
  | .endFetch u other => u = t ∧ other = ending
  | _ => False

theorem Event.IsOf.task? {t : Nat} {ending : FetchEnd} {event : Event} (h : event.IsOf t ending) :
    event.task? = some t := by
  cases event with
  | startFetch u | store u listing | clear u | notify u => exact congrArg some h
  | endFetch u other => exact congrArg some h.1
  | _ => cases h

theorem Event.IsOf.fromStage_lt {t : Nat} {ending : FetchEnd} {event : Event}
    (h : event.IsOf t ending) : event.fromStage < event.toStage := by
  cases event with
  | endFetch u other =>
    have := Task.stage_afterFetch other
    simp only [fromStage, toStage]
    omega
  | startFetch | store | clear | notify => simp [fromStage, toStage]
  | _ => cases h

section Rest

variable {s : System} {t : Nat}

/-- A task that has not finished has a next event, which waits for nobody. -/
theorem Task.exists_step (h : (s.tasks t).isLive = true) (ending : FetchEnd) :
    ∃ event s', Step s event s' ∧ event.IsOf t ending := by
  cases hphase : s.tasks t with
  | spawned => exact ⟨_, _, .startFetch s t hphase, rfl⟩
  | fetching => exact ⟨_, _, .endFetch s t ending hphase, rfl, rfl⟩
  | storing listing => exact ⟨_, _, .store s t listing hphase, rfl⟩
  | clearing => exact ⟨_, _, .clear s t hphase, rfl⟩
  | notifying => exact ⟨_, _, .notify s t hphase, rfl⟩
  | absent | finished =>
    rw [hphase] at h
    cases h

/-- A task that has come into being can run to its end on its own, however its fetch ends. -/
theorem Run.finish (h : (s.tasks t).isLive = true) (ending : FetchEnd) :
    ∃ later s', Run s later s' ∧ (∀ event ∈ later, event.IsOf t ending) ∧
      s'.tasks t = .finished := by
  induction hleft : 6 - (s.tasks t).stage using Nat.strongRecOn generalizing s with
  | _ left ih =>
    obtain ⟨event, m, hstep, hof⟩ := Task.exists_step h ending
    obtain ⟨hfrom, hto⟩ := hstep.stage_eq hof.task?
    have hlt := hof.fromStage_lt
    rw [Task.isLive_iff] at h
    by_cases hlive : (m.tasks t).isLive = true
    · obtain ⟨later, s', hrun, hlater, hfinished⟩ := ih (6 - (m.tasks t).stage) (by omega) hlive rfl
      exact ⟨event :: later, s', hrun.cons hstep, by simpa [hof] using hlater, hfinished⟩
    · rw [Task.isLive_iff] at hlive
      refine ⟨[event], m, .cons hstep (.nil m), by simpa using hof, ?_⟩
      rw [Task.eq_finished_iff]
      omega

theorem Run.tasks_eq {s s' : System} {later : List Event} {u : Nat} (h : Run s later s')
    (hu : ∀ event ∈ later, event.task? ≠ some u) : s'.tasks u = s.tasks u := by
  induction h with
  | nil => rfl
  | snoc _ hstep ih =>
    have hlast := hu _ (List.mem_append_right _ List.mem_cons_self)
    rw [hstep.tasks_eq hlast, ih fun event hmem => hu event (List.mem_append_left _ hmem)]

end Rest

/-! ## The flag -/

section Flag

variable {dir : Option Path} {events : List Event} {s : System}

/-- The task that holds the flag clears it, however its fetch ends and without anyone's help. -/
theorem Run.clears (h : Run (System.initial dir) events s) {t : Nat} (ht : Holds events t)
    (ending : FetchEnd) : ∃ later s', Run s later s' ∧ (∀ event ∈ later, event.IsOf t ending) ∧
      .clear t ∈ later ∧ s'.refreshing = false := by
  have hholds := (h.holds_iff t).mp ht
  obtain ⟨later, s', hrun, hlater, hfinished⟩ :=
    Run.finish (Task.isLive_of_holdsFlag hholds) ending
  refine ⟨later, s', hrun, hlater, ?_, ?_⟩
  · have hclear : .clear t ∈ events ++ later := by
      rw [(h.append hrun).clear_mem_iff, hfinished]
      decide
    exact (List.mem_append.mp hclear).resolve_left ht.2
  · refine Bool.eq_false_iff.mpr fun hflag => ?_
    obtain ⟨u, hu⟩ := (SingleFlight.of_run (h.append hrun)).flag.mp hflag
    have hne : u ≠ t := by
      rintro rfl
      rw [hfinished] at hu
      cases hu
    -- another holder at the end would have been one from the start, beside `t`
    have hsame := hrun.tasks_eq (u := u) fun event hmem heq =>
      hne (Option.some.inj (heq.symm.trans (hlater event hmem).task?))
    rw [hsame] at hu
    exact hne ((SingleFlight.of_run h).unique u t hu hholds)

theorem Step.dir_eq {s s' : System} {event : Event} (h : Step s event s') : s'.dir = s.dir := by
  cases h <;> rfl

theorem Run.dir_eq {start s : System} {events : List Event} (h : Run start events s) :
    s.dir = start.dir := by
  induction h with
  | nil => rfl
  | snoc _ hstep ih => rw [hstep.dir_eq, ih]

/-- Without a directory no task ever comes into being. -/
theorem Run.tasks_of_no_dir (h : Run (System.initial none) events s) (t : Nat) :
    s.tasks t = .absent ∧ ∀ event ∈ events, event.task? ≠ some t := by
  induction h with
  | nil => exact ⟨rfl, by simp⟩
  | @snoc _ _ _ last hrun hstep ih =>
    obtain ⟨habsent, hnone⟩ := ih
    have hlast : last.task? ≠ some t := by
      intro ht
      cases hstep.move with
      | caller htask =>
        rw [htask] at ht
        cases ht
      | spawn hdir => exact hdir hrun.dir_eq
      | startFetch hphase | endFetch hphase | store hphase | clear hphase | notify hphase =>
        obtain rfl := Option.some.inj ht
        rw [habsent] at hphase
        cases hphase
    refine ⟨(hstep.tasks_eq hlast).trans habsent, fun event hmem => ?_⟩
    rcases List.mem_append.mp hmem with hmem | hmem
    · exact hnone event hmem
    · rw [List.mem_singleton.mp hmem]
      exact hlast

/-- In every run the flag is set exactly while one task has set it and not cleared it since, and at
most one task ever has; so no two fetches are under way at once. The task that holds the flag is on
its way, and clears it however its fetch ends, with nobody else taking a step. Without a directory
there is neither a task nor a fetch. -/
theorem refreshing_of_run (h : Run (System.initial dir) events s) :
    (s.refreshing = true ↔ ∃ t, Holds events t) ∧
    (∀ t u, Holds events t → Holds events u → t = u) ∧
    (∀ t u, Outstanding events t → Outstanding events u → t = u) ∧
    (∀ t, Holds events t → (s.tasks t).isLive = true ∧ ∀ ending, ∃ later s', Run s later s' ∧
      (∀ event ∈ later, event.IsOf t ending) ∧ .clear t ∈ later ∧ s'.refreshing = false) ∧
    (dir = none → ∀ t, s.tasks t = .absent ∧ ∀ event ∈ events, event.task? ≠ some t) := by
  have flight : SingleFlight s := .of_run h
  refine ⟨?_, ?_, ?_, ?_, ?_⟩
  · simp only [h.holds_iff]
    exact flight.flag
  · intro t u ht hu
    exact flight.unique t u ((h.holds_iff t).mp ht) ((h.holds_iff u).mp hu)
  · intro t u ht hu
    rw [h.outstanding_iff] at ht hu
    exact flight.unique t u (by rw [ht]; rfl) (by rw [hu]; rfl)
  · intro t ht
    exact ⟨Task.isLive_of_holdsFlag ((h.holds_iff t).mp ht), h.clears ht⟩
  · rintro rfl t
    exact h.tasks_of_no_dir t

/-- The caller that set the flag is cancelled, and the fetch breaks off: its task still holds the
flag. -/
theorem refreshing_of_run_crashed : ∃ s, Run (System.initial (some []))
    [.callRefresh 0, .spawn 0 0, .cancel 0, .startFetch 0, .endFetch 0 .crashed] s ∧
    s.refreshing = true := by
  have hrun := Run.cons (.callRefresh (System.initial (some [])) 0 rfl) <|
    .cons (.spawn _ 0 0 [] rfl rfl rfl rfl) <| .cons (.cancel _ 0 rfl) <|
    .cons (.startFetch _ 0 rfl) <| .cons (.endFetch _ 0 .crashed rfl) (.nil _)
  exact ⟨_, hrun, (refreshing_of_run hrun).1.mpr ⟨0, ⟨0, by simp⟩, by simp⟩⟩

end Flag

end RouteLens.Atomic
