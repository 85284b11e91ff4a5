import RouteLens.Proofs.Json.Text
import RouteLens.Proofs.Route.Listing

/-!
# Listings written from routes

Routes written as a JSON array are a listing, and reading it gives the routes back: all of them but
those without an action and those of closures (`table_text`). A written route has the first of the
keys that a row is read by, wherever there are two, and a missing name is written as a null, which
is as good as no name.
-/

namespace RouteLens.Listing

/-- The listing that routes are written as. -/
def text (rs : List Route) : String :=
  (Json.array (rs.map Route.toJson)).text

/-! ## Written routes as rows -/

theorem stringAt?_toJson (r : Route) :
    stringAt? r.toJson "method" = some r.method ∧ stringAt? r.toJson "uri" = some r.uri ∧
      stringAt? r.toJson "name" = r.name ∧ stringAt? r.toJson "action" = some r.action := by
  obtain ⟨method, uri, name, action⟩ := r
  cases name <;> simp [stringAt?, Route.toJson, Json.get?, Json.member?, Json.ofOption, Json.string?]

theorem get?_toJson_of_not_mem {r : Route} {key : String} (h : key ∉ Route.keys) :
    r.toJson.get? key = none := by
  simp only [Route.keys, List.mem_cons, List.not_mem_nil, or_false, not_or] at h
  obtain ⟨h1, h2, h3, h4⟩ := h
  simp [Route.toJson, Json.get?, Json.member?, Ne.symm h1, Ne.symm h2, Ne.symm h3, Ne.symm h4]

theorem rowMethod_toJson (r : Route) : rowMethod r.toJson = r.method := by
  obtain ⟨hmethod, -⟩ := stringAt?_toJson r
  have hmethods : r.toJson.get? "methods" = none := get?_toJson_of_not_mem (by decide)
  simp [rowMethod, hmethods, hmethod]

theorem rowUri_toJson (r : Route) : rowUri r.toJson = r.uri := by
  obtain ⟨-, huri, -⟩ := stringAt?_toJson r
  simp [rowUri, huri]

theorem rowName?_toJson (r : Route) : rowName? r.toJson = r.name := by
  obtain ⟨-, -, hname, -⟩ := stringAt?_toJson r
  have hother : r.toJson.get? "route_name" = none := get?_toJson_of_not_mem (by decide)
  rw [rowName?, hname, stringAt?, hother]
  exact Option.or_none

theorem rowAction?_toJson (r : Route) :
    rowAction? r.toJson = if r.action ≠ "" ∧ r.action ≠ "Closure" then some r.action else none := by
  obtain ⟨-, -, -, haction⟩ := stringAt?_toJson r
  rw [rowAction?, haction]
  show (if r.action = "" ∨ r.action = "Closure" then none else some r.action) = _
  by_cases h : r.action = "" ∨ r.action = "Closure"
  · rw [if_pos h, if_neg fun hne => h.elim hne.1 hne.2]
  · rw [if_neg h, if_pos (not_or.mp h)]

/-- A written route means the route itself, if it has an action that a controller can answer. -/
theorem rowRoute?_toJson (r : Route) :
    rowRoute? r.toJson = if r.action ≠ "" ∧ r.action ≠ "Closure" then some r else none := by
  have hrow : rowRoute? r.toJson = (rowAction? r.toJson).map fun action =>
      ⟨rowMethod r.toJson, rowUri r.toJson, rowName? r.toJson, action⟩ := rfl
  rw [hrow, rowAction?_toJson, rowMethod_toJson, rowUri_toJson, rowName?_toJson]
  split <;> rfl

theorem filterMap_rowRoute?_toJson (rs : List Route) :
    (rs.map Route.toJson).filterMap rowRoute? =
      rs.filter fun r => r.action ≠ "" ∧ r.action ≠ "Closure" := by
  induction rs with
  | nil => rfl
  | cons r rs ih =>
    by_cases h : r.action ≠ "" ∧ r.action ≠ "Closure"
    · rw [List.map_cons, List.filterMap_cons_some ((rowRoute?_toJson r).trans (if_pos h)), ih,
        List.filter_cons_of_pos (by simpa using h)]
    · rw [List.map_cons, List.filterMap_cons_none ((rowRoute?_toJson r).trans (if_neg h)), ih,
        List.filter_cons_of_neg (by simpa using h)]

/-! ## Written listings -/

theorem printableItems_toJson (rs : List Route) : Json.PrintableItems (rs.map Route.toJson) := by
  induction rs with
  | nil => trivial
  | cons r rs ih =>
    have hname : (Json.ofOption Json.string r.name).Printable := by
      cases r.name <;> trivial
    exact ⟨⟨trivial, trivial, hname, trivial, trivial⟩, ih⟩

theorem itemsDepth_toJson (rs : List Route) :
    Literal.itemsDepth (Json.toItems (rs.map Route.toJson)) ≤ 1 := by
  induction rs with
  | nil => exact Nat.zero_le 1
  | cons r rs ih =>
    have hroute : r.toJson.toLiteral.depth = 1 := by
      obtain ⟨method, uri, name, action⟩ := r
      cases name <;> rfl
    exact Nat.max_le.mpr ⟨Nat.le_of_eq hroute, ih⟩

theorem parse_text (rs : List Route) :
    Json.parse (text rs) = some (.array (rs.map Route.toJson)) := by
  refine Json.parse_text (printableItems_toJson rs) ?_
  have hdepth : (Json.array (rs.map Route.toJson)).toLiteral.depth ≤ 1 + 1 :=
    Nat.succ_le_succ (itemsDepth_toJson rs)
  exact Nat.le_trans hdepth (by decide)

/-- A listing written from routes holds exactly those of them, in order and with every field as it
was, that have an action which is not empty and not a closure's; its table is that of inserting them
one after the other. -/
theorem table_text (rs : List Route) :
    routes (text rs) = rs.filter (fun r => r.action ≠ "" ∧ r.action ≠ "Closure") ∧
      table (text rs) =
        (rs.filter fun r => r.action ≠ "" ∧ r.action ≠ "Closure").foldl RouteTable.insert ∅ ∧
      ∀ action, (table (text rs)).routesFor action =
        rs.filter fun r => r.action = action ∧ r.action ≠ "" ∧ r.action ≠ "Closure" := by
  have hroutes : routes (text rs) = rs.filter fun r => r.action ≠ "" ∧ r.action ≠ "Closure" := by
    rw [routes, parse_text]
    exact filterMap_rowRoute?_toJson rs
  have htable : table (text rs) =
      RouteTable.ofList (rs.filter fun r => r.action ≠ "" ∧ r.action ≠ "Closure") := by
    rw [table, hroutes]
  refine ⟨hroutes, htable, fun action => ?_⟩
  rw [htable, RouteTable.routesFor_ofList, List.filter_filter]
  simp only [Bool.decide_and]

example : text [⟨"GET", "users", none, "U@index"⟩] =
    "[\x7b\"method\":\"GET\",\"uri\":\"users\",\"name\":null,\"action\":\"U@index\"\x7d]" := by
  cbv

end RouteLens.Listing
