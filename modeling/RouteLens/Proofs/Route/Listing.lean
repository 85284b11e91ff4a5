import Mathlib.Data.List.Basic
import RouteLens.Route.Listing
import RouteLens.Proofs.Route.Table

/-!
# Rules for the rows of a listing

What a row of a listing means, said without the reader: which of several keys counts, and which
rows give a route. The table of a listing is exactly the one that these rules define
(`table_exact`). A value of another type is as good as none, and a row has no say in the routes of
another row.
-/

namespace RouteLens.Listing

/-- The first of some keys under which a row has a string, an empty one included, gives it. -/
inductive FirstString (row : Json) : List String → Option String → Prop
  | none : FirstString row [] none
  | found {key : String} {keys : List String} {s : String} :
      row.get? key = some (.string s) → FirstString row (key :: keys) (some s)
  | next {key : String} {keys : List String} {result : Option String} :
      (∀ s, row.get? key ≠ some (.string s)) → FirstString row keys result →
      FirstString row (key :: keys) result

/-- A row lists methods, and `method` is the first of them. -/
def Lists (row : Json) (method : String) : Prop :=
  ∃ rest, row.get? "methods" = some (.array (.string method :: rest))

/-- The method of a row: the first that it lists, or else its one method, or else `GET`. -/
inductive RowMethod (row : Json) : String → Prop
  | listed {method : String} : Lists row method → RowMethod row method
  | single {method : Option String} : (∀ s, ¬ Lists row s) → FirstString row ["method"] method →
      RowMethod row (method.getD "GET")

/-- An element of a listing means a route. -/
structure RowRoute (row : Json) (r : Route) : Prop where
  isObject : ∃ members, row = .object members
  action : FirstString row ["action", "action_name"] (some r.action)
  action_ne_empty : r.action ≠ ""
  action_ne_closure : r.action ≠ "Closure"
  method : RowMethod row r.method
  uri : ∃ uri, FirstString row ["uri", "path"] uri ∧ r.uri = uri.getD ""
  name : FirstString row ["name", "route_name"] r.name

/-- The routes of an action, collected from elements in order. -/
inductive Collects (action : String) : List Json → List Route → Prop
  | nil : Collects action [] []
  | take {row : Json} {rows : List Json} {r : Route} {routes : List Route} :
      RowRoute row r → r.action = action → Collects action rows routes →
      Collects action (row :: rows) (r :: routes)
  | pass {row : Json} {rows : List Json} {routes : List Route} :
      (∀ r, RowRoute row r → r.action ≠ action) → Collects action rows routes →
      Collects action (row :: rows) routes

/-! ## Resolvers -/

theorem stringAt?_eq_some {row : Json} {key s : String} :
    stringAt? row key = some s ↔ row.get? key = some (.string s) := by
  rw [stringAt?, Option.bind_eq_some_iff]
  constructor
  · rintro ⟨value, hvalue, hs⟩
    cases value <;> simp_all [Json.string?]
  · exact fun h => ⟨.string s, h, rfl⟩

/-- The first string under some keys, as a reader finds it. -/
def firstString? (row : Json) : List String → Option String
  | [] => none
  | key :: keys => (stringAt? row key).or (firstString? row keys)

theorem firstString_iff {row : Json} {keys : List String} {result : Option String} :
    FirstString row keys result ↔ firstString? row keys = result := by
  constructor
  · intro h
    induction h with
    | none => rfl
    | found h => simp [firstString?, stringAt?_eq_some.mpr h]
    | next h _ ih =>
      have hnone : stringAt? row _ = none :=
        Option.eq_none_iff_forall_ne_some.mpr fun s hs => h s (stringAt?_eq_some.mp hs)
      simp [firstString?, hnone, ih]
  · rintro rfl
    induction keys with
    | nil => exact .none
    | cons key keys ih =>
      cases h : stringAt? row key with
      | none =>
        simp only [firstString?, h, Option.none_or]
        exact .next (fun s hs => by simp [stringAt?_eq_some.mpr hs] at h) ih
      | some s =>
        simp only [firstString?, h, Option.some_or]
        exact .found (stringAt?_eq_some.mp h)

/-- The first of the methods that a row lists, as a reader finds it. -/
def firstListed? (row : Json) : Option String :=
  (((row.get? "methods").bind Json.array?).bind (·.head?)).bind Json.string?

theorem lists_iff {row : Json} {method : String} :
    Lists row method ↔ firstListed? row = some method := by
  simp only [Lists, firstListed?, Option.bind_eq_some_iff]
  constructor
  · rintro ⟨rest, h⟩
    exact ⟨_, ⟨_, ⟨_, h, rfl⟩, rfl⟩, rfl⟩
  · rintro ⟨first, ⟨items, ⟨value, hvalue, hitems⟩, hfirst⟩, hmethod⟩
    cases value <;> simp [Json.array?] at hitems
    cases first <;> simp [Json.string?] at hmethod
    subst hitems hmethod
    obtain ⟨rest, rfl⟩ := List.head?_eq_some_iff.mp hfirst
    exact ⟨rest, hvalue⟩

theorem rowMethod_eq (row : Json) :
    rowMethod row = ((firstListed? row).or (firstString? row ["method"])).getD "GET" := by
  simp [rowMethod, firstListed?, firstString?, defaultMethod]

theorem rowMethod_iff {row : Json} {method : String} :
    RowMethod row method ↔ rowMethod row = method := by
  rw [rowMethod_eq]
  constructor
  · rintro (h | ⟨hnone, h⟩)
    · simp [lists_iff.mp h]
    · have hnone : firstListed? row = none :=
        Option.eq_none_iff_forall_ne_some.mpr fun s hs => hnone s (lists_iff.mpr hs)
      simp [hnone, firstString_iff.mp h]
  · rintro rfl
    cases h : firstListed? row with
    | some s => exact .listed (lists_iff.mpr h)
    | none => exact .single (fun s hs => by simp [lists_iff.mp hs] at h) (firstString_iff.mpr rfl)

theorem rowAction?_iff {row : Json} {action : String} :
    rowAction? row = some action ↔
      FirstString row ["action", "action_name"] (some action) ∧ action ≠ "" ∧
        action ≠ "Closure" := by
  have hfirst : (stringAt? row "action").or (stringAt? row "action_name") =
      firstString? row ["action", "action_name"] := by simp [firstString?]
  rw [firstString_iff, rowAction?, hfirst]
  cases firstString? row ["action", "action_name"] with
  | none => simp
  | some found =>
    show (if found = "" ∨ found = "Closure" then none else some found) = some action ↔ _
    rw [Option.ite_none_left_eq_some, not_or, Option.some.injEq]
    constructor
    · rintro ⟨⟨h1, h2⟩, rfl⟩
      exact ⟨rfl, h1, h2⟩
    · rintro ⟨rfl, h1, h2⟩
      exact ⟨⟨h1, h2⟩, rfl⟩

theorem rowUri_eq (row : Json) : rowUri row = (firstString? row ["uri", "path"]).getD "" := by
  simp [rowUri, firstString?]

theorem rowName?_eq (row : Json) : rowName? row = firstString? row ["name", "route_name"] := by
  simp [rowName?, firstString?]

/-- A row is read by its rules. -/
theorem rowRoute?_iff {row : Json} {r : Route} : rowRoute? row = some r ↔ RowRoute row r := by
  constructor
  · intro h
    cases row <;> simp only [rowRoute?, reduceCtorEq, Option.map_eq_some_iff] at h
    obtain ⟨action, haction, rfl⟩ := h
    obtain ⟨hfirst, hempty, hclosure⟩ := rowAction?_iff.mp haction
    exact ⟨⟨_, rfl⟩, hfirst, hempty, hclosure, rowMethod_iff.mpr rfl,
      ⟨_, firstString_iff.mpr rfl, rowUri_eq _⟩, firstString_iff.mpr (rowName?_eq _).symm⟩
  · rintro ⟨⟨members, rfl⟩, haction, hempty, hclosure, hmethod, ⟨uri, huri, hr⟩, hname⟩
    simp only [rowRoute?, rowAction?_iff.mpr ⟨haction, hempty, hclosure⟩, Option.map_some,
      rowMethod_iff.mp hmethod, rowUri_eq, firstString_iff.mp huri, rowName?_eq,
      firstString_iff.mp hname, ← hr]

theorem collects_iff {action : String} {rows : List Json} {routes : List Route} :
    Collects action rows routes ↔
      (rows.filterMap rowRoute?).filter (·.action = action) = routes := by
  constructor
  · intro h
    induction h with
    | nil => rfl
    | take hrow haction _ ih => simp [rowRoute?_iff.mpr hrow, haction, ih]
    | @pass row rows routes hrow _ ih =>
      cases h : rowRoute? row with
      | none => simp [h, ih]
      | some r => simp [h, ih, hrow r (rowRoute?_iff.mp h)]
  · rintro rfl
    induction rows with
    | nil => exact .nil
    | cons row rows ih =>
      cases h : rowRoute? row with
      | none =>
        rw [List.filterMap_cons_none h]
        exact .pass (fun r hr => by simp [rowRoute?_iff.mpr hr] at h) ih
      | some r =>
        rw [List.filterMap_cons_some h]
        by_cases haction : r.action = action
        · rw [List.filter_cons_of_pos (by simpa using haction)]
          exact .take (rowRoute?_iff.mp h) haction ih
        · rw [List.filter_cons_of_neg (by simpa using haction)]
          refine .pass (fun r' hr' => ?_) ih
          obtain rfl : r = r' := Option.some.inj (h.symm.trans (rowRoute?_iff.mpr hr'))
          exact haction

/-! ## Keys that do not count -/

/-- The keys under which a row may have a string. -/
def stringKeys : List String :=
  ["action", "action_name", "method", "uri", "path", "name", "route_name"]

/-- What a row has under a key counts: it is the key's to hold a string, or a list that starts with
one, and it does. -/
def Counts (row : Json) (key : String) : Prop :=
  key ∈ stringKeys ∧ (∃ s, row.get? key = some (.string s)) ∨
    key = "methods" ∧ ∃ s, Lists row s

theorem member?_filter (key dropped : String) (members : List (String × Json)) :
    Json.member? key (members.filter (·.1 != dropped)) =
      if key = dropped then none else Json.member? key members := by
  induction members with
  | nil => simp [Json.member?]
  | cons member members ih =>
    obtain ⟨k, value⟩ := member
    by_cases hk : k = dropped
    · subst hk
      rw [List.filter_cons_of_neg (by simp), ih, Json.member?]
      by_cases hkey : key = k
      · simp [hkey]
      · simp [hkey, Ne.symm hkey]
        split <;> simp_all
    · rw [List.filter_cons_of_pos (by simpa using hk), Json.member?, Json.member?, ih]
      by_cases hkey : key = dropped
      · subst hkey
        simp [hk]
      · simp [hkey]

/-- Rows with the same strings and the same first method mean the same. -/
theorem rowRoute?_congr {a b : List (String × Json)}
    (hstring : ∀ key ∈ stringKeys, stringAt? (.object a) key = stringAt? (.object b) key)
    (hlisted : firstListed? (.object a) = firstListed? (.object b)) :
    rowRoute? (.object a) = rowRoute? (.object b) := by
  simp only [stringKeys, List.forall_mem_cons] at hstring
  obtain ⟨h1, h2, h3, h4, h5, h6, h7, -⟩ := hstring
  simp only [rowRoute?, rowAction?, rowMethod_eq, rowUri_eq, rowName?_eq, firstString?, h1, h2, h3,
    h4, h5, h6, h7, hlisted]

/-- A key that does not count might as well be missing. -/
theorem rowRoute?_without {members : List (String × Json)} {key : String}
    (h : ¬ Counts (.object members) key) :
    rowRoute? (.object (members.filter (·.1 != key))) = rowRoute? (.object members) := by
  rw [Counts, not_or, not_and, not_and] at h
  apply rowRoute?_congr
  · intro k hk
    by_cases hkey : k = key
    · subst hkey
      have hnone : stringAt? (.object members) k = none :=
        Option.eq_none_iff_forall_ne_some.mpr fun s hs => h.1 hk ⟨s, stringAt?_eq_some.mp hs⟩
      rw [hnone]
      simp [stringAt?, Json.get?, member?_filter]
    · simp [stringAt?, Json.get?, member?_filter, hkey]
  · by_cases hkey : "methods" = key
    · subst hkey
      have hnone : firstListed? (.object members) = none :=
        Option.eq_none_iff_forall_ne_some.mpr fun s hs => h.2 rfl ⟨s, lists_iff.mpr hs⟩
      rw [hnone]
      simp [firstListed?, Json.get?, member?_filter]
    · simp [firstListed?, Json.get?, member?_filter, hkey]

/-! ## Tables of listings -/

/-- The actions that a listing names: those of the routes that its elements mean. -/
def named (text : String) : Set String :=
  {action | ∃ rows row r, Json.parse text = some (.array rows) ∧ row ∈ rows ∧ RowRoute row r ∧
    r.action = action}

theorem mem_routes_iff {text : String} {r : Route} :
    r ∈ routes text ↔ ∃ rows row, Json.parse text = some (.array rows) ∧ row ∈ rows ∧
      RowRoute row r := by
  rw [routes]
  split
  · next rows hrows =>
    simp only [hrows, List.mem_filterMap, rowRoute?_iff, Option.some.injEq, Json.array.injEq]
    exact ⟨fun ⟨row, h⟩ => ⟨rows, row, rfl, h⟩, fun ⟨_, row, heq, h⟩ => ⟨row, heq ▸ h⟩⟩
  · next hrows =>
    refine ⟨fun h => by simp at h, ?_⟩
    rintro ⟨rows, row, hparse, -⟩
    exact absurd hparse (hrows rows)

theorem mem_routes {text : String} {r : Route} (h : r ∈ routes text) : ∃ row, RowRoute row r := by
  obtain ⟨-, row, -, -, hrow⟩ := mem_routes_iff.mp h
  exact ⟨row, hrow⟩

theorem contains_table_iff {text action : String} :
    (table text).contains action = true ↔ action ∈ named text := by
  rw [table, RouteTable.contains_ofList]
  simp only [mem_routes_iff, named, Set.mem_ofPred_eq]
  constructor
  · rintro ⟨r, ⟨rows, row, hparse, hrow, hr⟩, haction⟩
    exact ⟨rows, row, r, hparse, hrow, hr, haction⟩
  · rintro ⟨rows, row, r, hparse, hrow, hr, haction⟩
    exact ⟨r, ⟨rows, row, hparse, hrow, hr⟩, haction⟩

/-- The table of a listing has as many actions as the listing names. -/
theorem size_table (text : String) : (table text).size = (named text).ncard := by
  rw [RouteTable.size_eq_ncard]
  congr 1
  ext action
  exact contains_table_iff

theorem table_of_malformed {text : String} (h : ∀ rows, Json.parse text ≠ some (.array rows)) :
    table text = ∅ := by
  rw [table, routes]
  split
  · next rows hrows => exact absurd hrows (h rows)
  · rfl

/-- The table of a listing is exactly the one that the rules for rows define. A text that is no
array gives the empty table, and else each action has the routes that its elements mean, in order.
Each element adds its own route whatever the others are. No key is empty or stands for a closure,
every key has a route, every route stands under its own action, and what does not count in an
element makes no difference. -/
theorem table_exact (text : String) :
    (match Json.parse text with
      | some (.array rows) => ∀ action,
        (∀ routes, Collects action rows routes ↔ (table text).routesFor action = routes) ∧
        (table text).routesFor action =
          rows.flatMap fun row => (rowRoute? row).toList.filter (·.action = action)
      | _ => table text = ∅) ∧
    (∀ action, (table text).contains action = true →
      action ≠ "" ∧ action ≠ "Closure" ∧ (table text).routesFor action ≠ []) ∧
    (∀ action, ∀ r ∈ (table text).routesFor action,
      (table text).contains action = true ∧ r.action = action) ∧
    (∀ members key, ¬ Counts (.object members) key →
      rowRoute? (.object (members.filter (·.1 != key))) = rowRoute? (.object members)) := by
  refine ⟨?_, fun action h => ?_, fun action r hr => ?_, fun _ _ => rowRoute?_without⟩
  · split
    · next rows hrows =>
      intro action
      rw [table, RouteTable.routesFor_ofList, routes, hrows]
      refine ⟨fun _ => collects_iff, ?_⟩
      simp only [List.filterMap_eq_flatMap_toList, List.filter_flatMap]
    · next hrows => exact table_of_malformed hrows
  · refine ⟨?_, ?_, (RouteTable.contains_ofList_iff_routesFor _ _).mp h⟩
    · obtain ⟨r, hr, rfl⟩ := (RouteTable.contains_ofList _ _).mp h
      obtain ⟨row, hrow⟩ := mem_routes hr
      exact hrow.action_ne_empty
    · obtain ⟨r, hr, rfl⟩ := (RouteTable.contains_ofList _ _).mp h
      obtain ⟨row, hrow⟩ := mem_routes hr
      exact hrow.action_ne_closure
  · refine ⟨(RouteTable.contains_ofList_iff_routesFor _ _).mpr (List.ne_nil_of_mem hr), ?_⟩
    rw [table, RouteTable.routesFor_ofList, List.mem_filter] at hr
    simpa using hr.2

example : rowRoute? (.object [("action_name", .string "A@b"), ("action", .string "")]) = none := by
  decide

end RouteLens.Listing
