import RouteLens.Proofs.Cache.Holder
import RouteLens.Proofs.Cache.Turn

/-!
# Wakeups

A caller waits for a notification that has not come, or for a task that has not finished. Wherever a
caller waits there is a task on its way (`Attended`), and that task leaves nobody waiting: it cannot
finish without waking all who are registered (`Bound`). A caller that does not wait is never held up
(`exists_step_of_not_waiting`).
-/

namespace RouteLens.Atomic

/-- A caller that can only go on when others have. -/
inductive Waiting (s : System) (c : Nat) : Prop
  | notification : s.callers c = .parked false → Waiting s c
  | task {t : Nat} : s.callers c = .awaiting t → s.tasks t ≠ .finished → Waiting s c

/-- A call that has been made, and has neither returned nor been cancelled. -/
def Caller.isUnderWay : Caller → Bool
  | .absent | .returned | .cancelled => false
  | _ => true

theorem Step.isLive {s s' : System} {event : Event} (h : Step s event s') {t : Nat}
    (hne : event ≠ .notify t) (ht : (s.tasks t).isLive = true) : (s'.tasks t).isLive = true := by
  rw [Task.isLive_iff] at ht ⊢
  by_cases hevent : event.task? = some t
  · have hstage := h.stage_eq hevent
    have hmono := h.le_stage_iff t 1
    refine ⟨hmono.mpr (.inl ht.1), ?_⟩
    rw [hstage.2]
    cases event with
    | notify u =>
      obtain rfl := Option.some.inj hevent
      exact absurd rfl hne
    | endFetch u ending =>
      have := Task.stage_afterFetch ending
      simp only [Event.toStage]
      omega
    | _ => simp [Event.toStage]
  · rwa [h.tasks_eq hevent]

theorem Step.not_absent {s s' : System} {event : Event} (h : Step s event s') {t : Nat}
    (ht : s.tasks t ≠ .absent) : s'.tasks t ≠ .absent := by
  have hstage : ∀ {phase : Task}, phase ≠ .absent ↔ 1 ≤ phase.stage := by
    intro phase
    cases phase <;> simp [Task.stage]
  rw [hstage] at ht ⊢
  exact (h.le_stage_iff t 1).mpr (.inl ht)

theorem Event.IsOf.caller?_eq_none {t : Nat} {ending : FetchEnd} {event : Event}
    (h : event.IsOf t ending) : event.caller? = none := by
  cases event with
  | startFetch | endFetch | store | clear | notify => rfl
  | _ => cases h

/-! ## Somebody is on the way -/

/-- Whoever waits for a notification has a task that is on its way, and a task that is waited for
exists. -/
structure Attended (s : System) : Prop where
  parked : ∀ c, s.callers c = .parked false → ∃ t, (s.tasks t).isLive = true
  awaiting : ∀ c t, s.callers c = .awaiting t → s.tasks t ≠ .absent

namespace Attended

variable {s s' : System} {event : Event}

theorem initial (dir : Option Path) : Attended (System.initial dir) where
  parked c h := by cases h
  awaiting c t h := by cases h

theorem preserve_parked (inv : Attended s) (flight : SingleFlight s) (h : Step s event s') (c : Nat)
    (hc : s'.callers c = .parked false) : ∃ t, (s'.tasks t).isLive = true := by
  cases h.turn c with
  | other _ hnotify hafter =>
    obtain ⟨t, ht⟩ := inv.parked c (hafter.symm.trans hc)
    exact ⟨t, h.isLive (hnotify t) ht⟩
  | notify _ hafter =>
    -- a notification leaves nobody parked without it
    rw [hafter] at hc
    cases hphase : s.callers c <;> simp [hphase, Caller.woken] at hc
  | recheckFlag _ hafter =>
    cases hflag : s.refreshing with
    | true =>
      obtain ⟨t, ht⟩ := flight.flag.mp hflag
      exact ⟨t, h.isLive (by simp) (Task.isLive_of_holdsFlag ht)⟩
    | false => simp [hafter, hflag] at hc
  | checkFlag _ hafter | inspectTable _ hafter =>
    rw [hafter] at hc
    split at hc <;> cases hc
  | callRefresh _ hafter | callEnsureLoaded _ hafter | spawn _ _ hafter | findBusy _ _ hafter
  | register _ hafter | wake _ hafter | join _ _ hafter | cancel _ hafter =>
    rw [hafter] at hc
    cases hc

theorem preserve_awaiting (inv : Attended s) (h : Step s event s') (c t : Nat)
    (hc : s'.callers c = .awaiting t) : s'.tasks t ≠ .absent := by
  cases h.turn c with
  | other _ _ hafter => exact h.not_absent (inv.awaiting c t (hafter.symm.trans hc))
  | notify _ hafter =>
    refine h.not_absent (inv.awaiting c t ?_)
    rw [hafter] at hc
    cases hphase : s.callers c <;> simp_all [Caller.woken]
  | spawn _ _ hafter htask =>
    obtain rfl : _ = t := by simpa [hafter] using hc
    simp [htask]
  | checkFlag _ hafter | inspectTable _ hafter | recheckFlag _ hafter =>
    rw [hafter] at hc
    split at hc <;> cases hc
  | callRefresh _ hafter | callEnsureLoaded _ hafter | findBusy _ _ hafter | register _ hafter
  | wake _ hafter | join _ _ hafter | cancel _ hafter =>
    rw [hafter] at hc
    cases hc

theorem of_run {dir : Option Path} {events : List Event}
    (h : Run (System.initial dir) events s) : Attended s := by
  induction h with
  | nil => exact initial dir
  | snoc hrun hstep ih =>
    exact ⟨ih.preserve_parked (.of_run hrun) hstep, ih.preserve_awaiting hstep⟩

end Attended

/-! ## Nobody is left behind -/

/-- A caller that a task lets go on by finishing, if it has not let it go on before. -/
inductive Bound (s : System) (c t : Nat) : Prop
  | parked : s.callers c = .parked false → (s.tasks t).isLive = true → Bound s c t
  | woken : s.callers c = .parked true → Bound s c t
  | awaiting : s.callers c = .awaiting t → Bound s c t

/-- A call that has come to its end. -/
def Caller.isOver : Caller → Bool
  | .returned | .cancelled => true
  | _ => false

namespace Bound

variable {s s' : System} {event : Event} {c t : Nat}

/-- Whoever waits is bound to a task on its way. -/
theorem exists_of_waiting (inv : Attended s) (h : Waiting s c) :
    ∃ t, (s.tasks t).isLive = true ∧ Bound s c t := by
  cases h with
  | notification hc =>
    obtain ⟨t, ht⟩ := inv.parked c hc
    exact ⟨t, ht, .parked hc ht⟩
  | @task t hc hfinished =>
    refine ⟨t, ?_, .awaiting hc⟩
    have habsent := inv.awaiting c t hc
    cases hphase : s.tasks t <;> simp_all [Task.isLive]

theorem not_waiting (h : Bound s c t) (hfinished : s.tasks t = .finished) : ¬ Waiting s c := by
  intro hwaiting
  cases h with
  | parked _ hlive =>
    rw [hfinished] at hlive
    cases hlive
  | woken hc => cases hwaiting <;> simp_all
  | awaiting hc => cases hwaiting <;> simp_all

/-- A caller whose task has finished can return at once. -/
theorem exists_return (h : Bound s c t) (hfinished : s.tasks t = .finished) :
    ∃ event, event.caller? = some c ∧ Step s event (s.setCaller c .returned) := by
  cases h with
  | parked _ hlive =>
    rw [hfinished] at hlive
    cases hlive
  | woken hc => exact ⟨.wake c, rfl, .wake s c hc⟩
  | awaiting hc => exact ⟨.join c t, rfl, .join s c t hc hfinished⟩

/-- A caller that does not move itself stays bound. -/
theorem keep (h : Bound s c t) (hstep : Step s event s') (hevent : event.caller? ≠ some c) :
    Bound s' c t := by
  have hturn := hstep.turn c
  cases h with
  | parked hc hlive =>
    cases hturn with
    | other _ hnotify hafter =>
      exact .parked (hafter.trans hc) (hstep.isLive (hnotify t) hlive)
    | notify _ hafter => exact .woken (by rw [hafter, hc]; rfl)
    | _ => exact absurd rfl hevent
  | woken hc =>
    cases hturn with
    | other _ _ hafter => exact .woken (hafter.trans hc)
    | notify _ hafter => exact .woken (by rw [hafter, hc]; rfl)
    | _ => exact absurd rfl hevent
  | awaiting hc =>
    cases hturn with
    | other _ _ hafter => exact .awaiting (hafter.trans hc)
    | notify _ hafter => exact .awaiting (by rw [hafter, hc]; rfl)
    | _ => exact absurd rfl hevent

/-- When a bound caller moves itself, its call is over. -/
theorem isOver (h : Bound s c t) (hstep : Step s event s') (hevent : event.caller? = some c) :
    (s'.callers c).isOver = true := by
  cases hstep.turn c with
  | other hcaller => exact absurd hevent hcaller
  | notify => cases hevent
  | wake _ hafter | join _ _ hafter | cancel _ hafter =>
    rw [hafter]
    rfl
  | callRefresh hbefore | callEnsureLoaded hbefore | checkFlag hbefore | inspectTable hbefore
  | spawn hbefore | findBusy hbefore | register hbefore | recheckFlag hbefore =>
    cases h <;> simp_all

/-- As long as only others move, a caller stays bound. -/
theorem keep_run {later : List Event} (h : Bound s c t) (hrun : Run s later s')
    (hothers : ∀ event ∈ later, event.caller? ≠ some c) : Bound s' c t := by
  induction hrun with
  | nil => exact h
  | snoc _ hstep ih =>
    refine (ih fun event hmem => hothers event (List.mem_append_left _ hmem)).keep hstep ?_
    exact hothers _ (List.mem_append_right _ List.mem_cons_self)

end Bound

theorem Step.keep_isOver {s s' : System} {event : Event} {c : Nat} (hstep : Step s event s')
    (h : (s.callers c).isOver = true) : (s'.callers c).isOver = true := by
  cases hstep.turn c with
  | other _ _ hafter => rwa [hafter]
  | notify _ hafter =>
    rw [hafter]
    cases hphase : s.callers c <;> simp_all [Caller.woken, Caller.isOver]
  | cancel _ hafter =>
    rw [hafter]
    rfl
  | callRefresh hbefore | callEnsureLoaded hbefore | checkFlag hbefore | inspectTable hbefore
  | spawn hbefore | findBusy hbefore | register hbefore | recheckFlag hbefore | wake hbefore
  | join hbefore =>
    rw [hbefore] at h
    cases h

/-- Whatever happens, a bound caller stays bound until its call is over. -/
theorem Bound.run {s s' : System} {c t : Nat} {later : List Event} (h : Bound s c t)
    (hrun : Run s later s') : Bound s' c t ∨ (s'.callers c).isOver = true := by
  induction hrun with
  | nil => exact .inl h
  | @snoc _ _ _ event _ hstep ih =>
    rcases ih with hbound | hover
    · by_cases hevent : event.caller? = some c
      · exact .inr (hbound.isOver hstep hevent)
      · exact .inl (hbound.keep hstep hevent)
    · exact .inr (hstep.keep_isOver hover)

theorem Waiting.not_isOver {s : System} {c : Nat} (h : Waiting s c) :
    (s.callers c).isOver = false := by
  cases h with
  | notification hc => rw [hc]; rfl
  | task hc => rw [hc]; rfl

/-! ## Whoever does not wait can go on -/

/-- There is always a task that has not come into being. -/
theorem Run.exists_absent {dir : Option Path} {events : List Event} {s : System}
    (h : Run (System.initial dir) events s) : ∃ n, ∀ t, n ≤ t → s.tasks t = .absent := by
  induction h with
  | nil => exact ⟨0, fun _ _ => rfl⟩
  | @snoc _ _ _ event _ hstep ih =>
    obtain ⟨n, hn⟩ := ih
    cases htask : event.task? with
    | none => exact ⟨n, fun t ht => (hstep.tasks_eq (by simp [htask])).trans (hn t ht)⟩
    | some u =>
      refine ⟨max n (u + 1), fun t ht => ?_⟩
      have hne : event.task? ≠ some t := by
        rw [htask]
        intro heq
        obtain rfl := Option.some.inj heq
        omega
      exact (hstep.tasks_eq hne).trans (hn t (by omega))

/-- A call under way that does not wait has a next step of its own. -/
theorem exists_step_of_not_waiting {s : System} {c : Nat} (hfresh : ∃ t, s.tasks t = .absent)
    (hc : (s.callers c).isUnderWay = true) (h : ¬ Waiting s c) :
    ∃ event s', Step s event s' ∧ event.caller? = some c ∧ event ≠ .cancel c := by
  cases hphase : s.callers c with
  | absent | returned | cancelled =>
    rw [hphase] at hc
    cases hc
  | checking => exact ⟨_, _, .checkFlag s c hphase, rfl, by simp⟩
  | inspecting => exact ⟨_, _, .inspectTable s c hphase, rfl, by simp⟩
  | starting =>
    obtain ⟨t, ht⟩ := hfresh
    cases hdir : s.dir with
    | none => exact ⟨_, _, .findBusy s c hphase (.inl hdir), rfl, by simp⟩
    | some dir =>
      cases hflag : s.refreshing with
      | true => exact ⟨_, _, .findBusy s c hphase (.inr hflag), rfl, by simp⟩
      | false => exact ⟨_, _, .spawn s c t dir hphase hdir hflag ht, rfl, by simp⟩
  | awaiting t =>
    have hfinished : s.tasks t = .finished :=
      Decidable.byContradiction fun hne => h (.task hphase hne)
    exact ⟨_, _, .join s c t hphase hfinished, rfl, by simp⟩
  | joining => exact ⟨_, _, .register s c hphase, rfl, by simp⟩
  | registered woken => exact ⟨_, _, .recheckFlag s c woken hphase, rfl, by simp⟩
  | parked woken =>
    cases woken with
    | true => exact ⟨_, _, .wake s c hphase, rfl, by simp⟩
    | false => exact absurd (.notification hphase) h

/-- In every run, whoever waits has a task on its way that completes the call: the task can run to
its end on its own, however its fetch ends, and the caller then returns with a step of its own; and
whatever else happens, once that task has finished the caller waits no more. So without a task on
its way nobody waits. A call under way that does not wait has a next step of its own. -/
theorem wakeup_of_run {dir : Option Path} {events : List Event} {s : System}
    (h : Run (System.initial dir) events s) :
    (∀ c, Waiting s c → ∃ t, (s.tasks t).isLive = true ∧
      (∀ ending, ∃ later s', Run s later s' ∧ (∀ event ∈ later, event.IsOf t ending) ∧
        s'.tasks t = .finished ∧
        ∃ event, event.caller? = some c ∧ Step s' event (s'.setCaller c .returned)) ∧
      ∀ later s', Run s later s' → s'.tasks t = .finished → ¬ Waiting s' c) ∧
    ((∀ t, (s.tasks t).isLive = false) → ∀ c, ¬ Waiting s c) ∧
    (∀ c, (s.callers c).isUnderWay = true → ¬ Waiting s c →
      ∃ event s', Step s event s' ∧ event.caller? = some c ∧ event ≠ .cancel c) := by
  have inv : Attended s := .of_run h
  refine ⟨fun c hwaiting => ?_, fun hnone c hwaiting => ?_, fun c hc hwaiting => ?_⟩
  · obtain ⟨t, hlive, hbound⟩ := Bound.exists_of_waiting inv hwaiting
    refine ⟨t, hlive, fun ending => ?_, fun later s' hrun hfinished hstill => ?_⟩
    · obtain ⟨later, s', hrun, hlater, hfinished⟩ := Run.finish hlive ending
      have hothers : ∀ event ∈ later, event.caller? ≠ some c := by
        intro event hmem
        simp [(hlater event hmem).caller?_eq_none]
      exact ⟨later, s', hrun, hlater, hfinished,
        (hbound.keep_run hrun hothers).exists_return hfinished⟩
    · rcases hbound.run hrun with hbound | hover
      · exact hbound.not_waiting hfinished hstill
      · rw [hstill.not_isOver] at hover
        cases hover
  · obtain ⟨t, hlive, -⟩ := Bound.exists_of_waiting inv hwaiting
    rw [hnone t] at hlive
    cases hlive
  · obtain ⟨n, hn⟩ := h.exists_absent
    exact exists_step_of_not_waiting ⟨n, hn n (Nat.le_refl n)⟩ hc hwaiting

/-- The caller that joins the fetch of another waits for its notification, and the task of that
fetch completes the call. -/
theorem wakeup_of_run_parked : ∃ s, Run (System.initial (some []))
    [.callRefresh 0, .spawn 0 0, .callRefresh 1, .findBusy 1, .register 1, .recheckFlag 1] s ∧
    Waiting s 1 ∧ ∃ t, (s.tasks t).isLive = true := by
  have hrun := Run.cons (.callRefresh (System.initial (some [])) 0 rfl) <|
    .cons (.spawn _ 0 0 [] rfl rfl rfl rfl) <| .cons (.callRefresh _ 1 rfl) <|
    .cons (.findBusy _ 1 rfl (.inr rfl)) <| .cons (.register _ 1 rfl) <|
    .cons (.recheckFlag _ 1 false rfl) (.nil _)
  refine ⟨_, hrun, .notification rfl, ?_⟩
  obtain ⟨t, hlive, -⟩ := (wakeup_of_run hrun).1 1 (.notification rfl)
  exact ⟨t, hlive⟩

end RouteLens.Atomic
