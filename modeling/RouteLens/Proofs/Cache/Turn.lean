import RouteLens.Cache.Atomic

/-!
# Turns of a caller

What a step does to one caller (`Step.turn`): most steps leave it where it stands, a notification
wakes it if it is registered, and eleven kinds of events move it.
-/

namespace RouteLens.Atomic

/-- The caller that an event moves. -/
def Event.caller? : Event → Option Nat
  | .callRefresh c | .callEnsureLoaded c | .checkFlag c | .inspectTable c | .spawn c _
  | .findBusy c | .register c | .recheckFlag c | .wake c | .join c _ | .cancel c => some c
  | _ => none

/-- A caller after a notification. -/
def Caller.woken : Caller → Caller
  | .registered _ => .registered true
  | .parked _ => .parked true
  | phase => phase

theorem System.wakeAll_callers (s : System) (c : Nat) :
    s.wakeAll.callers c = (s.callers c).woken := by
  cases h : s.callers c <;> simp [wakeAll, h, Caller.woken]

/-- What a step does to a caller. -/
inductive Turn (s s' : System) (c : Nat) : Event → Prop
  /-- A step of someone else leaves the caller where it stands. -/
  | other {event : Event} (hcaller : event.caller? ≠ some c) (hnotify : ∀ t, event ≠ .notify t)
      (hafter : s'.callers c = s.callers c) : Turn s s' c event
  | notify {t : Nat} (htask : s.tasks t = .notifying)
      (hafter : s'.callers c = (s.callers c).woken) : Turn s s' c (.notify t)
  | callRefresh (hbefore : s.callers c = .absent) (hafter : s'.callers c = .starting) :
      Turn s s' c (.callRefresh c)
  | callEnsureLoaded (hbefore : s.callers c = .absent) (hafter : s'.callers c = .checking) :
      Turn s s' c (.callEnsureLoaded c)
  | checkFlag (hbefore : s.callers c = .checking)
      (hafter : s'.callers c = if s.refreshing then .returned else .inspecting) :
      Turn s s' c (.checkFlag c)
  | inspectTable (hbefore : s.callers c = .inspecting)
      (hafter : s'.callers c = if s.table.isEmpty then .starting else .returned) :
      Turn s s' c (.inspectTable c)
  | spawn {t : Nat} (hbefore : s.callers c = .starting) (hfree : s.refreshing = false)
      (hafter : s'.callers c = .awaiting t) (htask : s'.tasks t = .spawned) :
      Turn s s' c (.spawn c t)
  | findBusy (hbefore : s.callers c = .starting) (hbusy : s.dir = none ∨ s.refreshing = true)
      (hafter : s'.callers c = .joining) : Turn s s' c (.findBusy c)
  | register (hbefore : s.callers c = .joining) (hafter : s'.callers c = .registered false) :
      Turn s s' c (.register c)
  | recheckFlag {woken : Bool} (hbefore : s.callers c = .registered woken)
      (hafter : s'.callers c = if s.refreshing then .parked woken else .returned) :
      Turn s s' c (.recheckFlag c)
  | wake (hbefore : s.callers c = .parked true) (hafter : s'.callers c = .returned) :
      Turn s s' c (.wake c)
  | join {t : Nat} (hbefore : s.callers c = .awaiting t) (htask : s.tasks t = .finished)
      (hafter : s'.callers c = .returned) : Turn s s' c (.join c t)
  | cancel (hbefore : (s.callers c).waits = true) (hafter : s'.callers c = .cancelled) :
      Turn s s' c (.cancel c)

theorem Step.turn {s s' : System} {event : Event} (h : Step s event s') (c : Nat) :
    Turn s s' c event := by
  by_cases hc : event.caller? = some c
  · cases h with
    | startFetch | endFetch | store | clear | notify => cases hc
    | callRefresh d hbefore =>
      obtain rfl := Option.some.inj hc
      exact .callRefresh hbefore (by simp)
    | callEnsureLoaded d hbefore =>
      obtain rfl := Option.some.inj hc
      exact .callEnsureLoaded hbefore (by simp)
    | checkFlag d hbefore =>
      obtain rfl := Option.some.inj hc
      exact .checkFlag hbefore (by simp)
    | inspectTable d hbefore =>
      obtain rfl := Option.some.inj hc
      exact .inspectTable hbefore (by simp)
    | spawn d t dir hbefore _ hfree =>
      obtain rfl := Option.some.inj hc
      exact .spawn hbefore hfree (by simp) (by simp)
    | findBusy d hbefore hbusy =>
      obtain rfl := Option.some.inj hc
      exact .findBusy hbefore hbusy (by simp)
    | register d hbefore =>
      obtain rfl := Option.some.inj hc
      exact .register hbefore (by simp)
    | recheckFlag d woken hbefore =>
      obtain rfl := Option.some.inj hc
      exact .recheckFlag hbefore (by simp)
    | wake d hbefore =>
      obtain rfl := Option.some.inj hc
      exact .wake hbefore (by simp)
    | join d t hbefore htask =>
      obtain rfl := Option.some.inj hc
      exact .join hbefore htask (by simp)
    | cancel d hbefore =>
      obtain rfl := Option.some.inj hc
      exact .cancel hbefore (by simp)
  · cases h with
    | notify t htask => exact .notify htask (by simp [System.wakeAll_callers])
    | startFetch | endFetch | store | clear => exact .other hc (by simp) rfl
    | _ =>
      have hne : ∀ d, some d ≠ some c → c ≠ d := fun d h heq => h (congrArg some heq.symm)
      exact .other hc (by simp) (by simp [hne _ hc])

end RouteLens.Atomic
