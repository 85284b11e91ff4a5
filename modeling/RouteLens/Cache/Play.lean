import RouteLens.Cache.Basic
import RouteLens.Lens

/-!
# Playing a cache

A route cache whose fetches answer from a list, some of them only when they are released, under a
sequence of operations. Callers are named tasks: a caller that starts a fetch, or finds one under
way, waits for its end. After every operation all callers run as far as they can.
-/

namespace RouteLens

/-- What a fetch will answer, and whether it waits to be released first. -/
structure Response where
  held : Bool
  ending : FetchEnd

/-- An operation on a cache. -/
inductive CacheOp
  /-- A task that fetches anew, or waits for the fetch under way. -/
  | refresh (task : String)
  /-- A task that loads the table if it is still to be loaded. -/
  | ensureLoaded (task : String)
  /-- Lets the held fetch answer. -/
  | release
  /-- Stops a task and forgets its name; a fetch that it started goes on. -/
  | cancel (task : String)
  | routes (action : String)
  /-- Keeps the current table under a name. -/
  | snapshot (id : String)
  | snapshotRoutes (id action : String)
  | codeLens (source : String)

/-- What an operation answers. -/
inductive CacheAnswer
  | done
  | routes (routes : List Route)
  | kept (size : Nat) (routes : List Route)
  | lenses (lenses : Option (List Lens))

/-- What can be seen after an operation. -/
structure CacheReport where
  answer : CacheAnswer
  refreshing : Bool
  size : Nat
  fetches : Nat
  /-- The tasks that have finished, in order of their names. -/
  finished : List String

/-- A cache under play. -/
structure CachePlay where
  cache : RouteCache
  /-- The answers of fetches to come. -/
  responses : List Response
  /-- The answer of the fetch under way, which waits to be released. -/
  held : Option FetchEnd := none
  /-- The tasks by name, and whether they have finished. -/
  tasks : List (String × Bool) := []
  /-- The directories of all fetches so far. -/
  dirs : List Path := []
  snapshots : List (String × RouteTable) := []

namespace CachePlay

/-- What a fetch answers when no answer is given. -/
def standardResponse : Response := ⟨false, .fetched Artisan.emptyListing⟩

/-- Puts a value under a name in place of an older one. -/
def assign {α : Type} (entries : List (String × α)) (name : String) (value : α) :
    List (String × α) :=
  entries.filter (·.1 != name) ++ [(name, value)]

/-- Records a task. -/
def withTask (p : CachePlay) (task : String) (finished : Bool) : CachePlay :=
  { p with tasks := assign p.tasks task finished }

/-- A task that fetches, or waits for the fetch under way if there is one. -/
def callRefresh (p : CachePlay) (task : String) : CachePlay :=
  match p.cache.start? with
  | none => p.withTask task (!p.cache.refreshing)
  | some (dir, cache) =>
    let response := p.responses.head?.getD standardResponse
    let p := { p with responses := p.responses.tail, dirs := p.dirs ++ [dir] }
    if response.held then
      { p with cache, held := some response.ending }.withTask task false
    else { p with cache := cache.finish response.ending }.withTask task true

/-- A task that fetches if the table is still to be loaded. -/
def callEnsureLoaded (p : CachePlay) (task : String) : CachePlay :=
  if p.cache.wantsLoad then p.callRefresh task else p.withTask task true

/-- Lets the held fetch answer, and with it everyone who waits. -/
def release (p : CachePlay) : CachePlay :=
  match p.held with
  | none => p
  | some ending =>
    { p with
      cache := p.cache.finish ending
      held := none
      tasks := p.tasks.map fun (name, _) => (name, true) }

/-- The tasks that have finished, in order of their names. -/
def finished (p : CachePlay) : List String :=
  ((p.tasks.filter (·.2)).map (·.1)).mergeSort (· ≤ ·)

/-- Carries out an operation. -/
def step (p : CachePlay) : CacheOp → CacheAnswer × CachePlay
  | .refresh task => (.done, p.callRefresh task)
  | .ensureLoaded task => (.done, p.callEnsureLoaded task)
  | .release => (.done, p.release)
  | .cancel task => (.done, { p with tasks := p.tasks.filter (·.1 != task) })
  | .routes action => (.routes (p.cache.table.routesFor action), p)
  | .snapshot id => (.done, { p with snapshots := assign p.snapshots id p.cache.table })
  | .snapshotRoutes id action =>
    let table := (p.snapshots.lookup id).getD ∅
    (.kept table.size (table.routesFor action), p)
  | .codeLens source => (.lenses (Lens.ofSource p.cache.table source), p)

/-- What can be seen of a cache under play, beside an answer. -/
def report (p : CachePlay) (answer : CacheAnswer) : CacheReport :=
  { answer
    refreshing := p.cache.refreshing
    size := p.cache.table.size
    fetches := p.dirs.length
    finished := p.finished }

/-- Carries out operations in order: what can be seen after each, and the end. -/
def run (p : CachePlay) : List CacheOp → List CacheReport × CachePlay
  | [] => ([], p)
  | op :: rest =>
    let (answer, p) := p.step op
    let (reports, last) := p.run rest
    (p.report answer :: reports, last)

end CachePlay

end RouteLens
