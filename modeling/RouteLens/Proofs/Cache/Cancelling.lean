import RouteLens.Proofs.Cache.Fetches

/-!
# Cancelled callers

Nobody can tell that a caller was cancelled, except by asking for that caller (`cancel_unseen`): two
plays that differ in cancellations only have the same flag, table, fetches and kept tables after
every operation that both have, and give the same answers. All that an operation does to the tasks
it does to each of them alone (`tasksAfter`), so that the plays also agree on every task that is not
cancelled.
-/

namespace RouteLens.CachePlay

/-! ## Cancellations -/

/-- The second row of operations is the first with some cancellations taken out. -/
inductive FewerCancels : List CacheOp → List CacheOp → Prop
  | nil : FewerCancels [] []
  | keep {ops fewer : List CacheOp} (h : FewerCancels ops fewer) (op : CacheOp) :
      FewerCancels (ops ++ [op]) (fewer ++ [op])
  | drop {ops fewer : List CacheOp} (h : FewerCancels ops fewer) (task : String) :
      FewerCancels (ops ++ [CacheOp.cancel task]) fewer

/-- A task has been started by one of some operations. -/
def Started (ops : List CacheOp) (task : String) : Prop :=
  ∃ op ∈ ops, op.starts? = some task

/-- A task has been cancelled by one of some operations, and has not been started anew since. -/
def Cancelled (ops : List CacheOp) (task : String) : Prop :=
  ∃ before later, ops = before ++ CacheOp.cancel task :: later ∧ ¬ Started later task

section

variable {ops : List CacheOp} {op : CacheOp} {task : String}

theorem started_concat :
    Started (ops ++ [op]) task ↔ Started ops task ∨ op.starts? = some task := by
  simp [Started, or_and_right, exists_or]

theorem cancelled_concat :
    Cancelled (ops ++ [op]) task ↔
      op = .cancel task ∨ Cancelled ops task ∧ op.starts? ≠ some task := by
  constructor
  · rintro ⟨before, later, hops, hlater⟩
    rcases List.eq_nil_or_concat later with rfl | ⟨rest, last, rfl⟩
    · left
      exact List.singleton_inj.mp (List.append_inj' hops rfl).2
    · rw [List.concat_eq_append] at hops hlater
      rw [← List.cons_append, ← List.append_assoc] at hops
      obtain ⟨hfirst, hlast⟩ := List.append_inj' hops rfl
      obtain rfl := List.singleton_inj.mp hlast
      rw [started_concat, not_or] at hlater
      exact .inr ⟨⟨before, rest, hfirst, hlater.1⟩, hlater.2⟩
  · rintro (rfl | ⟨⟨before, later, rfl, hlater⟩, hstarts⟩)
    · exact ⟨ops, [], rfl, by simp [Started]⟩
    · refine ⟨before, later ++ [op], by simp, ?_⟩
      rw [started_concat, not_or]
      exact ⟨hlater, hstarts⟩

end

/-! ## Tasks -/

/-- Whether a task that is to fetch anew returns at once: it has no fetch to wait for. -/
def returnsAtOnce (p : CachePlay) : Bool :=
  match p.cache.start? with
  | none => !p.cache.refreshing
  | some _ => !p.nextResponse.held

/-- What an operation on a play makes of any tasks. -/
def tasksAfter (p : CachePlay) (op : CacheOp) (tasks : List (String × Bool)) :
    List (String × Bool) :=
  match op with
  | .refresh task => assign tasks task p.returnsAtOnce
  | .ensureLoaded task => assign tasks task (!p.cache.wantsLoad || p.returnsAtOnce)
  | .release => if p.held.isSome then tasks.map fun (name, _) => (name, true) else tasks
  | .cancel task => tasks.filter (·.1 != task)
  | _ => tasks

/-- A play with other tasks. -/
def setTasks (p : CachePlay) (tasks : List (String × Bool)) : CachePlay :=
  { p with tasks }

theorem callRefresh_setTasks (p : CachePlay) (tasks : List (String × Bool)) (task : String) :
    (p.setTasks tasks).callRefresh task =
      (p.callRefresh task).setTasks (assign tasks task p.returnsAtOnce) := by
  have hstart : (p.setTasks tasks).cache.start? = p.cache.start? := rfl
  rw [callRefresh, callRefresh, returnsAtOnce, hstart]
  cases p.cache.start? with
  | none => rfl
  | some started =>
    have hnext : (p.setTasks tasks).responses.head?.getD standardResponse = p.nextResponse := rfl
    have hown : p.responses.head?.getD standardResponse = p.nextResponse := rfl
    simp only [hnext, hown]
    cases p.nextResponse.held <;> rfl

theorem callEnsureLoaded_setTasks (p : CachePlay) (tasks : List (String × Bool)) (task : String) :
    (p.setTasks tasks).callEnsureLoaded task =
      (p.callEnsureLoaded task).setTasks
        (assign tasks task (!p.cache.wantsLoad || p.returnsAtOnce)) := by
  have hwants : (p.setTasks tasks).cache.wantsLoad = p.cache.wantsLoad := rfl
  rw [callEnsureLoaded, callEnsureLoaded, hwants]
  cases p.cache.wantsLoad with
  | true => exact callRefresh_setTasks p tasks task
  | false => rfl

/-- Tasks have no influence on anything else. -/
theorem step_setTasks (p : CachePlay) (tasks : List (String × Bool)) (op : CacheOp) :
    (p.setTasks tasks).step op =
      ((p.step op).1, (p.step op).2.setTasks (p.tasksAfter op tasks)) := by
  cases op with
  | refresh task => exact congrArg (Prod.mk _) (callRefresh_setTasks p tasks task)
  | ensureLoaded task => exact congrArg (Prod.mk _) (callEnsureLoaded_setTasks p tasks task)
  | release =>
    have hheld : (p.setTasks tasks).held = p.held := rfl
    simp only [step, release, tasksAfter, hheld]
    cases p.held <;> rfl
  | cancel | routes | snapshot | snapshotRoutes | codeLens => rfl

theorem step_tasks (p : CachePlay) (op : CacheOp) :
    (p.step op).2.tasks = p.tasksAfter op p.tasks :=
  congrArg (fun done => done.2.tasks) (step_setTasks p p.tasks op)

section

variable {p : CachePlay} {op : CacheOp} {tasks others : List (String × Bool)} {task : String}

theorem mem_map_true {finished : Bool} :
    (task, finished) ∈ tasks.map (fun (name, _) => (name, true)) ↔
      finished = true ∧ ∃ before, (task, before) ∈ tasks := by
  simp [eq_comm, and_comm]

/-- An operation leaves a task that it does not cancel in the same state among any tasks in which it
was in the same state. -/
theorem mem_tasksAfter_congr (hcancel : op ≠ .cancel task)
    (h : op.starts? ≠ some task →
      ∀ finished, (task, finished) ∈ tasks ↔ (task, finished) ∈ others) (finished : Bool) :
    (task, finished) ∈ p.tasksAfter op tasks ↔ (task, finished) ∈ p.tasksAfter op others := by
  have assigned {name : String} {value : Bool} (hop : op.starts? = some name) :
      (task, finished) ∈ assign tasks name value ↔ (task, finished) ∈ assign others name value := by
    rw [Atomic.mem_assign, Atomic.mem_assign]
    by_cases hname : task = name
    · simp [hname]
    · have hother : op.starts? ≠ some task := by
        rw [hop]
        exact fun heq => hname (Option.some.inj heq).symm
      rw [h hother]
  cases op with
  | refresh name => exact assigned rfl
  | ensureLoaded name => exact assigned rfl
  | release =>
    have hsame := h (Option.some_ne_none task).symm
    rw [tasksAfter, tasksAfter]
    split
    · simp only [mem_map_true, hsame]
    · exact hsame finished
  | cancel name =>
    rw [tasksAfter, tasksAfter, List.mem_filter, List.mem_filter,
      h (Option.some_ne_none task).symm]
  | routes | snapshot | snapshotRoutes | codeLens =>
    exact h (Option.some_ne_none task).symm finished

/-- A task is among those after an operation if it was started, or was there and is not
cancelled. -/
theorem exists_mem_tasksAfter :
    (∃ finished, (task, finished) ∈ p.tasksAfter op tasks) ↔
      op.starts? = some task ∨ op ≠ .cancel task ∧ ∃ finished, (task, finished) ∈ tasks := by
  have assigned (name : String) (value : Bool) :
      (∃ finished, (task, finished) ∈ assign tasks name value) ↔
        name = task ∨ ∃ finished, (task, finished) ∈ tasks := by
    simp only [Atomic.mem_assign, Prod.mk.injEq, exists_or, exists_and_right]
    by_cases hname : name = task
    · simp [hname]
    · simp [hname, Ne.symm hname]
  cases op with
  | refresh name => exact (assigned name _).trans (by simp [CacheOp.starts?])
  | ensureLoaded name => exact (assigned name _).trans (by simp [CacheOp.starts?])
  | release =>
    rw [tasksAfter]
    split
    · simp only [mem_map_true]
      simp [CacheOp.starts?]
    · simp [CacheOp.starts?]
  | cancel name =>
    simp only [tasksAfter, List.mem_filter]
    by_cases hname : name = task
    · simp [CacheOp.starts?, hname]
    · simp [CacheOp.starts?, hname, Ne.symm hname]
  | routes | snapshot | snapshotRoutes | codeLens => simp [CacheOp.starts?, tasksAfter]

end

/-- The tasks of a play are those that were started and not cancelled. -/
theorem exists_mem_tasks_after {dir : Option Path} {responses : List Response} {ops : List CacheOp}
    {task : String} : (∃ finished, (task, finished) ∈ (after dir responses ops).tasks) ↔
      Started ops task ∧ ¬ Cancelled ops task := by
  induction ops using List.reverseRecOn with
  | nil => simp [after, run, Started]
  | append_singleton ops op ih =>
    rw [after_concat, step_tasks, exists_mem_tasksAfter, ih, started_concat, cancelled_concat]
    have hcancel : op = .cancel task → op.starts? ≠ some task := by
      rintro rfl
      exact (Option.some_ne_none task).symm
    tauto

/-! ## Two plays -/

/-- Two plays with the same cache, fetches and kept tables, and the same of some tasks. -/
def Alike (agreed : String → Prop) (p q : CachePlay) : Prop :=
  ∃ tasks, q = p.setTasks tasks ∧
    ∀ task, agreed task → ∀ finished, (task, finished) ∈ p.tasks ↔ (task, finished) ∈ tasks

namespace Alike

variable {agreed : String → Prop} {p q : CachePlay}

theorem refl (p : CachePlay) : Alike agreed p p :=
  ⟨p.tasks, rfl, fun _ _ _ => Iff.rfl⟩

theorem answer_eq (h : Alike agreed p q) (op : CacheOp) : (p.step op).1 = (q.step op).1 := by
  obtain ⟨tasks, rfl, -⟩ := h
  rw [step_setTasks]

theorem step (h : Alike agreed p q) (op : CacheOp) :
    Alike (fun task => op ≠ .cancel task ∧ (op.starts? ≠ some task → agreed task))
      (p.step op).2 (q.step op).2 := by
  obtain ⟨tasks, rfl, htasks⟩ := h
  refine ⟨p.tasksAfter op tasks, congrArg Prod.snd (step_setTasks p tasks op), ?_⟩
  rintro task ⟨hcancel, hagreed⟩ finished
  rw [step_tasks]
  exact mem_tasksAfter_congr hcancel (fun hstarts => htasks task (hagreed hstarts)) finished

theorem cancel (h : Alike agreed p q) (name : String) :
    Alike (fun task => task ≠ name ∧ agreed task) (p.step (.cancel name)).2 q := by
  obtain ⟨tasks, rfl, htasks⟩ := h
  refine ⟨tasks, rfl, ?_⟩
  rintro task ⟨hname, hagreed⟩ finished
  rw [← htasks task hagreed finished, step_tasks]
  simp [tasksAfter, hname]

theorem mono {fewer : String → Prop} (h : Alike agreed p q)
    (hfewer : ∀ task, fewer task → agreed task) : Alike fewer p q := by
  obtain ⟨tasks, hq, htasks⟩ := h
  exact ⟨tasks, hq, fun task htask => htasks task (hfewer task htask)⟩

end Alike

/-- Two plays that differ in cancellations only agree on all but the tasks that are cancelled. -/
theorem FewerCancels.alike {ops fewer : List CacheOp} (h : FewerCancels ops fewer)
    (dir : Option Path) (responses : List Response) :
    Alike (fun task => ¬ Cancelled ops task) (after dir responses ops)
      (after dir responses fewer) := by
  induction h with
  | nil => exact .refl _
  | @keep ops fewer _ op ih =>
    rw [after_concat, after_concat]
    refine (ih.step op).mono fun task htask => ?_
    rw [cancelled_concat, not_or, not_and] at htask
    exact ⟨htask.1, fun hstarts hcancelled => htask.2 hcancelled hstarts⟩
  | @drop ops fewer _ name ih =>
    rw [after_concat]
    refine (ih.cancel name).mono fun task htask => ?_
    rw [cancelled_concat, not_or, not_and] at htask
    obtain ⟨hname, hcancelled⟩ := htask
    exact ⟨fun heq => hname (congrArg CacheOp.cancel heq.symm),
      fun hbefore => hcancelled hbefore (Option.some_ne_none task).symm⟩

/-! ## The fetch under way -/

/-- Until it is released the fetch under way is the same, and so is the table. -/
theorem run_of_held {p : CachePlay} {ending : FetchEnd} {between : List CacheOp}
    (hheld : p.held = some ending) (hbusy : p.cache.refreshing = true)
    (hbetween : CacheOp.release ∉ between) :
    (p.run between).2.cache = p.cache ∧ (p.run between).2.held = some ending := by
  induction between generalizing p with
  | nil => exact ⟨rfl, hheld⟩
  | cons op between ih =>
    obtain ⟨hop, hrest⟩ := not_or.mp (mt List.mem_cons.mpr hbetween)
    have hstep : (p.step op).2.cache = p.cache ∧ (p.step op).2.held = p.held := by
      cases fetching_step p op with
      | quiet hcache _ hsame => exact ⟨hcache, hsame⟩
      | waits _ hfree | answers _ hfree =>
        rw [hbusy] at hfree
        cases hfree
      | released hrelease => exact absurd hrelease.symm hop
    obtain ⟨hcache, hsame⟩ := hstep
    have hlater := ih (p := (p.step op).2) (hsame.trans hheld) (by rw [hcache, hbusy]) hrest
    rw [hcache] at hlater
    exact hlater

/-- Two plays of which one has more cancellations give the same answer to every operation that both
have, and after it have the same flag and table, the same fetches in the same directories, the same
kept tables, and every task in the same state that has not been cancelled; the names of tasks may be
used more than once. In particular, whatever is done while a fetch waits to be released, also if the
task that started it is cancelled, the release stores what it brings, clears the flag, and lets
every task return that has been started and not cancelled. -/
theorem cancel_unseen (dir : Option Path) (responses : List Response) :
    (∀ ops fewer, FewerCancels ops fewer → ∀ op,
      ((after dir responses ops).step op).1 = ((after dir responses fewer).step op).1 ∧
      (after dir responses (ops ++ [op])).cache = (after dir responses (fewer ++ [op])).cache ∧
      (after dir responses (ops ++ [op])).dirs = (after dir responses (fewer ++ [op])).dirs ∧
      (after dir responses (ops ++ [op])).snapshots =
        (after dir responses (fewer ++ [op])).snapshots ∧
      ∀ task, ¬ Cancelled (ops ++ [op]) task → ∀ finished,
        (task, finished) ∈ (after dir responses (ops ++ [op])).tasks ↔
          (task, finished) ∈ (after dir responses (fewer ++ [op])).tasks) ∧
    (∀ ops ending, (after dir responses ops).held = some ending →
      ∀ between : List CacheOp, CacheOp.release ∉ between →
        (after dir responses (ops ++ between ++ [CacheOp.release])).cache =
          (after dir responses ops).cache.finish ending ∧
        ∀ task, Started (ops ++ between) task → ¬ Cancelled (ops ++ between) task →
          (task, true) ∈ (after dir responses (ops ++ between ++ [CacheOp.release])).tasks) := by
  refine ⟨fun ops fewer hfewer op => ?_, fun ops ending hheld between hbetween => ?_⟩
  · have hanswer := (hfewer.alike dir responses).answer_eq op
    obtain ⟨tasks, hsame, htasks⟩ := (hfewer.keep op).alike dir responses
    rw [hsame]
    exact ⟨hanswer, rfl, rfl, rfl, htasks⟩
  · have hbusy : (after dir responses ops).cache.refreshing = true := by
      rw [(Accounted.after dir responses ops).flag, hheld]
      rfl
    obtain ⟨hcache, hstill⟩ := run_of_held hheld hbusy hbetween
    rw [← after_append] at hcache hstill
    rw [after_concat, step_tasks]
    refine ⟨?_, fun task hstarted hcancelled => ?_⟩
    · show (after dir responses (ops ++ between)).release.cache = _
      rw [release, hstill, ← hcache]
    · have hthere : ∃ finished, (task, finished) ∈ (after dir responses (ops ++ between)).tasks :=
        exists_mem_tasks_after.mpr ⟨hstarted, hcancelled⟩
      rw [tasksAfter, hstill, Option.isSome_some, if_pos rfl, mem_map_true]
      exact ⟨rfl, hthere⟩

/-- Of two fetches the first breaks off; two tasks wait for the second, the one that started it and
another. -/
def waiting : List CacheOp :=
  [.refresh "a", .refresh "b", .refresh "c"]

/-- The task that started the fetch is cancelled. -/
theorem cancel_unseen_waiting :
    (after (some []) brokenThenHeld (waiting ++ [CacheOp.cancel "b"] ++ [CacheOp.release])).cache =
      (after (some []) brokenThenHeld (waiting ++ [CacheOp.release])).cache ∧
    (after (some []) brokenThenHeld
        (waiting ++ [CacheOp.cancel "b"] ++ [CacheOp.release])).cache.table =
      Listing.table "[\x7b\"action\":\"C@f\"\x7d]" ∧
    ("c", true) ∈ (after (some []) brokenThenHeld
      (waiting ++ [CacheOp.cancel "b"] ++ [CacheOp.release])).tasks := by
  obtain ⟨hunseen, hreleased⟩ := cancel_unseen (some []) brokenThenHeld
  have hfewer : FewerCancels (waiting ++ [CacheOp.cancel "b"]) waiting :=
    .drop (.keep (.keep (.keep .nil (.refresh "a")) (.refresh "b")) (.refresh "c")) "b"
  have hheld : (after (some []) brokenThenHeld waiting).held =
      some (.fetched "[\x7b\"action\":\"C@f\"\x7d]") := rfl
  have hstarted : Started (waiting ++ [CacheOp.cancel "b"]) "c" :=
    ⟨.refresh "c", by simp [waiting], rfl⟩
  have hcancelled : ¬ Cancelled (waiting ++ [CacheOp.cancel "b"]) "c" := by
    rintro ⟨before, later, hops, -⟩
    have hmem : CacheOp.cancel "c" ∈ before ++ CacheOp.cancel "c" :: later := by simp
    rw [← hops] at hmem
    simp [waiting] at hmem
  obtain ⟨hcache, htasks⟩ := hreleased waiting _ hheld [.cancel "b"] (by simp)
  refine ⟨(hunseen _ _ hfewer .release).2.1, ?_, htasks "c" hstarted hcancelled⟩
  rw [hcache, RouteCache.finish, RouteCache.tableAfter]

end RouteLens.CachePlay
