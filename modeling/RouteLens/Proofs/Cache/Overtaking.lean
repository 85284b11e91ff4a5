import RouteLens.Proofs.Cache.Holder
import RouteLens.Proofs.Cache.Turn

/-!
# Overtaken callers

A task clears the flag in one step and wakes the registered callers in another. Between the two a
second task may set the flag and a caller may join it, and that caller is woken by the first task,
with the second still at work (`not_forall_cleared_of_returned`). There is no other way to return
early: whoever joins a task and returns before the task has cleared the flag was woken by an earlier
one (`cleared_or_overtaken_of_returned`).
-/

namespace RouteLens.Atomic

/-! ## While a task holds the flag -/

section Since

variable {dir : Option Path} {early since : List Event} {s : System} {b r : Nat}

/-- While a task holds the flag no task clears it. -/
theorem Run.not_clear_mem (h : Run (System.initial dir) (early ++ .spawn b r :: since) s)
    (hr : Holds (early ++ .spawn b r :: since) r) (t : Nat) : .clear t ∉ since := by
  intro ht
  obtain ⟨pre, post, rfl⟩ := List.append_of_mem ht
  rw [← List.cons_append, ← List.append_assoc] at h hr
  obtain ⟨m, m', hbefore, hstep, -⟩ := h.exists_of_append_cons
  have hholds : Holds (early ++ .spawn b r :: pre) r :=
    ⟨⟨b, by simp⟩, fun hmem => hr.2 (List.mem_append_left _ hmem)⟩
  have hother : Holds (early ++ .spawn b r :: pre) t := by
    rw [hbefore.holds_iff]
    cases hstep.move with
    | caller htask => cases htask
    | clear hphase => rw [hphase]; rfl
  have hflight := (SingleFlight.of_run hbefore).unique t r
  rw [← hbefore.holds_iff, ← hbefore.holds_iff] at hflight
  obtain rfl := hflight hother hholds
  exact hr.2 (by simp)

/-- A task that wakes callers while another holds the flag cleared it before the other set it. -/
theorem Run.clear_mem_early (h : Run (System.initial dir) (early ++ .spawn b r :: since) s)
    (hr : Holds (early ++ .spawn b r :: since) r) {t : Nat} (ht : s.tasks t = .notifying) :
    .clear t ∈ early := by
  have hmem : .clear t ∈ early ++ .spawn b r :: since := by
    rw [h.clear_mem_iff, ht]
    decide
  rcases List.mem_append.mp hmem with hmem | hmem
  · exact hmem
  · rcases List.mem_cons.mp hmem with heq | hmem
    · cases heq
    · exact absurd hmem (h.not_clear_mem hr t)

end Since

/-! ## Where a caller stands that has joined -/

/-- Where a caller can stand that has joined a task which still holds the flag, with what happened
before the task set the flag and since. -/
inductive Joined (early since : List Event) (c : Nat) (s : System) : Prop
  | joining : s.callers c = .joining → [.findBusy c].Sublist since → Joined early since c s
  | listening : s.callers c = .registered false ∨ s.callers c = .parked false →
      [.findBusy c, .register c].Sublist since → Joined early since c s
  | woken {t : Nat} : s.callers c = .registered true ∨ s.callers c = .parked true →
      .clear t ∈ early → [.findBusy c, .register c, .notify t].Sublist since →
      Joined early since c s
  | returned {t : Nat} : s.callers c = .returned → .clear t ∈ early →
      [.findBusy c, .register c, .notify t, .wake c].Sublist since → Joined early since c s
  | cancelled : s.callers c = .cancelled → Joined early since c s

namespace Joined

variable {early since : List Event} {c : Nat} {s s' : System} {event : Event}

theorem of_same (h : Joined early since c s) (hcaller : s'.callers c = s.callers c) :
    Joined early (since ++ [event]) c s' := by
  have hmore : since.Sublist (since ++ [event]) := List.sublist_append_left _ _
  cases h with
  | joining hc hl => exact .joining (hcaller.trans hc) (hl.trans hmore)
  | listening hc hl => exact .listening (by rwa [hcaller]) (hl.trans hmore)
  | woken hc ht hl => exact .woken (by rwa [hcaller]) ht (hl.trans hmore)
  | returned hc ht hl => exact .returned (hcaller.trans hc) ht (hl.trans hmore)
  | cancelled hc => exact .cancelled (hcaller.trans hc)

/-- A notification wakes a caller that listens, and makes no difference to others. -/
theorem notify (h : Joined early since c s) {t : Nat} (ht : .clear t ∈ early)
    (hafter : s'.callers c = (s.callers c).woken) :
    Joined early (since ++ [.notify t]) c s' := by
  cases h with
  | listening hc hl =>
    refine .woken ?_ ht (hl.append (.refl [Event.notify t]))
    rcases hc with hc | hc <;> simp [hafter, hc, Caller.woken]
  | joining hc hl => exact (joining hc hl).of_same (by rw [hafter, hc]; rfl)
  | woken hc ht hl =>
    refine (woken hc ht hl).of_same ?_
    rcases hc with hc | hc <;> simp [hafter, hc, Caller.woken]
  | returned hc ht hl => exact (returned hc ht hl).of_same (by rw [hafter, hc]; rfl)
  | cancelled hc => exact (cancelled hc).of_same (by rw [hafter, hc]; rfl)

/-- While the task holds the flag, nothing but a notification lets the caller go on. -/
theorem step (h : Joined early since c s) (hflag : s.refreshing = true)
    (hearly : ∀ t, s.tasks t = .notifying → .clear t ∈ early) (hstep : Step s event s') :
    Joined early (since ++ [event]) c s' := by
  have hmore : since.Sublist (since ++ [event]) := List.sublist_append_left _ _
  cases hstep.turn c with
  | other _ _ hafter => exact h.of_same hafter
  | @notify t htask hafter => exact h.notify (hearly t htask) hafter
  | register hbefore hafter =>
    cases h with
    | joining _ hl => exact .listening (.inl hafter) (hl.append (.refl [Event.register c]))
    | _ hc => simp [hbefore] at hc
  | @recheckFlag woken hbefore hafter =>
    rw [hflag, if_pos rfl] at hafter
    cases h with
    | listening hc hl =>
      obtain rfl : woken = false := by simpa [hbefore] using hc
      exact .listening (.inr hafter) (hl.trans hmore)
    | woken hc ht hl =>
      obtain rfl : woken = true := by simpa [hbefore] using hc
      exact .woken (.inr hafter) ht (hl.trans hmore)
    | _ hc => simp [hbefore] at hc
  | wake hbefore hafter =>
    cases h with
    | woken _ ht hl => exact .returned hafter ht (hl.append (.refl [Event.wake c]))
    | _ hc => simp [hbefore] at hc
  | cancel _ hafter => exact .cancelled hafter
  | callRefresh hbefore | callEnsureLoaded hbefore | checkFlag hbefore | inspectTable hbefore
  | spawn hbefore | findBusy hbefore | join hbefore => cases h <;> simp_all

/-- As long as the task holds the flag, a caller stays where one can stand that has joined it. -/
theorem of_run {dir : Option Path} {later : List Event} {b r : Nat} (h : Joined early since c s)
    (hbefore : Run (System.initial dir) (early ++ .spawn b r :: since) s) (hrun : Run s later s')
    (hr : Holds (early ++ .spawn b r :: (since ++ later)) r) :
    Joined early (since ++ later) c s' := by
  induction hrun with
  | nil => simpa using h
  | @snoc m _ events last hrun hstep ih =>
    have hholds : Holds (early ++ .spawn b r :: (since ++ events)) r := by
      refine ⟨⟨b, by simp⟩, fun hmem => hr.2 ?_⟩
      simp only [List.mem_append, List.mem_cons] at hmem ⊢
      grind
    have hbefore' : Run (System.initial dir) (early ++ .spawn b r :: (since ++ events)) m := by
      simpa using hbefore.append hrun
    rw [← List.append_assoc]
    refine (ih hholds).step ?_ (fun t ht => hbefore'.clear_mem_early hholds ht) hstep
    exact (SingleFlight.of_run hbefore').flag.mpr ⟨r, (hbefore'.holds_iff r).mp hholds⟩

end Joined

/-- Whoever joins a task and returns before the task has cleared the flag was overtaken: an earlier
task had cleared the flag before, and woke the registered callers only after the caller was one of
them. -/
theorem cleared_or_overtaken_of_returned {dir : Option Path} {before after : List Event} {c r : Nat}
    {s : System} (h : Run (System.initial dir) (before ++ .findBusy c :: after) s)
    (hr : Holds before r) (hc : s.callers c = .returned) :
    .clear r ∈ after ∨ ∃ t b,
      [.clear t, .spawn b r, .findBusy c, .register c, .notify t, .wake c].Sublist
        (before ++ .findBusy c :: after) := by
  refine Classical.or_iff_not_imp_left.mpr fun hclear => ?_
  obtain ⟨⟨b, hspawn⟩, hbefore⟩ := hr
  obtain ⟨early, since, rfl⟩ := List.append_of_mem hspawn
  obtain ⟨m, m', hearlier, hstep, hafter⟩ := h.exists_of_append_cons
  have hjoin : Run (System.initial dir) (early ++ .spawn b r :: (since ++ [.findBusy c])) m' := by
    simpa using hearlier.snoc hstep
  have hjoined : Joined early (since ++ [.findBusy c]) c m' := by
    refine .joining ?_ (List.sublist_append_right _ _)
    cases hstep.turn c with
    | other hcaller => exact absurd rfl hcaller
    | findBusy _ _ hafter => exact hafter
  have hholds : Holds (early ++ .spawn b r :: (since ++ [.findBusy c] ++ after)) r := by
    refine ⟨⟨b, by simp⟩, fun hmem => ?_⟩
    simp only [List.mem_append, List.mem_cons] at hmem hbefore
    grind
  cases hjoined.of_run hjoin hafter hholds with
  | @returned t _ hcleared hsince =>
    refine ⟨t, b, ?_⟩
    have hall := (List.singleton_sublist.mpr hcleared).append (hsince.cons_cons (.spawn b r))
    simpa using hall
  | _ hstill => simp [hc] at hstill

/-! ## A caller that is overtaken -/

/-- A task has cleared the flag and has still to wake callers when a second task sets it. -/
def beforeOvertaken : List Event :=
  [.callRefresh 0, .spawn 0 0, .startFetch 0, .endFetch 0 .crashed, .clear 0, .callRefresh 1,
    .spawn 1 1, .callRefresh 2]

/-- A caller that has joined the second task is woken by the first. -/
def afterOvertaken : List Event :=
  [.register 2, .recheckFlag 2, .notify 0, .wake 2]

theorem run_overtaken :
    ∃ s, Run (System.initial (some [])) (beforeOvertaken ++ .findBusy 2 :: afterOvertaken) s ∧
      s.callers 2 = .returned :=
  ⟨_, .cons (.callRefresh (System.initial (some [])) 0 rfl) <|
    .cons (.spawn _ 0 0 [] rfl rfl rfl rfl) <| .cons (.startFetch _ 0 rfl) <|
    .cons (.endFetch _ 0 .crashed rfl) <| .cons (.clear _ 0 rfl) <|
    .cons (.callRefresh _ 1 rfl) <| .cons (.spawn _ 1 1 [] rfl rfl rfl rfl) <|
    .cons (.callRefresh _ 2 rfl) <| .cons (.findBusy _ 2 rfl (.inr rfl)) <|
    .cons (.register _ 2 rfl) <| .cons (.recheckFlag _ 2 false rfl) <| .cons (.notify _ 0 rfl) <|
    .cons (.wake _ 2 rfl) (.nil _), rfl⟩

theorem holds_beforeOvertaken : Holds beforeOvertaken 1 :=
  ⟨⟨1, by simp [beforeOvertaken]⟩, by simp [beforeOvertaken]⟩

theorem cleared_or_overtaken_of_returned_early :
    ∃ s, Run (System.initial (some [])) (beforeOvertaken ++ .findBusy 2 :: afterOvertaken) s ∧
      Holds beforeOvertaken 1 ∧ s.callers 2 = .returned ∧ ∃ t b,
        [.clear t, .spawn b 1, .findBusy 2, .register 2, .notify t, .wake 2].Sublist
          (beforeOvertaken ++ .findBusy 2 :: afterOvertaken) := by
  obtain ⟨s, hrun, hreturned⟩ := run_overtaken
  refine ⟨s, hrun, holds_beforeOvertaken, hreturned, ?_⟩
  rcases cleared_or_overtaken_of_returned hrun holds_beforeOvertaken hreturned with hmem | hovertaken
  · simp [afterOvertaken] at hmem
  · exact hovertaken

/-- The second task is still to start its fetch when the caller that joined it has returned. -/
theorem not_forall_cleared_of_returned :
    ¬ ∀ (dir : Option Path) (before after : List Event) (c r : Nat) (s : System),
      Run (System.initial dir) (before ++ .findBusy c :: after) s → Holds before r →
      s.callers c = .returned → .clear r ∈ after := by
  intro hall
  obtain ⟨s, hrun, hreturned⟩ := run_overtaken
  have hcleared := hall _ _ _ 2 1 s hrun holds_beforeOvertaken hreturned
  simp [afterOvertaken] at hcleared

end RouteLens.Atomic
