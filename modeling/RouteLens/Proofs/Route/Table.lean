import Mathlib.Data.Set.Card
import RouteLens.Route.Table

/-!
# Laws of route tables

A table read action by action: it holds the routes that were inserted for an action, in order of
arrival, and an action is present exactly when there is one.
-/

namespace RouteLens.RouteTable

@[simp] theorem routesFor_empty (action : String) : (∅ : RouteTable).routesFor action = [] :=
  Std.TreeMap.getD_emptyc

theorem routesFor_insert (t : RouteTable) (r : Route) (action : String) :
    (t.insert r).routesFor action =
      if r.action = action then t.routesFor action ++ [r] else t.routesFor action := by
  simp only [routesFor, insert, Std.TreeMap.getD_insert, Std.LawfulEqCmp.compare_eq_iff_eq]
  split
  · next h => rw [h]
  · rfl

theorem routesFor_foldl_insert (routes : List Route) (t : RouteTable) (action : String) :
    (routes.foldl insert t).routesFor action =
      t.routesFor action ++ routes.filter (·.action = action) := by
  induction routes generalizing t with
  | nil => simp
  | cons r routes ih =>
    rw [List.foldl_cons, ih, routesFor_insert]
    by_cases h : r.action = action
    · simp [h]
    · simp [h]

theorem routesFor_ofList (routes : List Route) (action : String) :
    (ofList routes).routesFor action = routes.filter (·.action = action) := by
  rw [ofList, routesFor_foldl_insert]
  exact congrArg (· ++ _) (routesFor_empty action)

theorem contains_insert (t : RouteTable) (r : Route) (action : String) :
    (t.insert r).contains action = true ↔ r.action = action ∨ t.contains action = true := by
  simp [contains, insert, Std.TreeMap.contains_insert]

theorem contains_foldl_insert (routes : List Route) (t : RouteTable) (action : String) :
    (routes.foldl insert t).contains action = true ↔
      t.contains action = true ∨ ∃ r ∈ routes, r.action = action := by
  induction routes generalizing t with
  | nil => simp
  | cons r routes ih =>
    rw [List.foldl_cons, ih, contains_insert]
    simp [or_assoc, or_left_comm]

theorem contains_ofList (routes : List Route) (action : String) :
    (ofList routes).contains action = true ↔ ∃ r ∈ routes, r.action = action := by
  rw [ofList, contains_foldl_insert]
  have : (empty : RouteTable).contains action = false := Std.TreeMap.contains_emptyc
  simp [this]

theorem contains_ofList_iff_routesFor (routes : List Route) (action : String) :
    (ofList routes).contains action = true ↔ (ofList routes).routesFor action ≠ [] := by
  rw [contains_ofList, routesFor_ofList]
  simp

/-- The size of a table is the number of actions in it. -/
theorem size_eq_ncard (t : RouteTable) : t.size = {action | t.contains action = true}.ncard := by
  have hactions : {action | t.contains action = true} = (t.routes.keys.toFinset : Set String) := by
    ext action
    rw [Set.mem_ofPred_eq, contains, ← Std.TreeMap.mem_iff_contains, List.coe_toFinset,
      Set.mem_ofPred_eq, Std.TreeMap.mem_keys]
  rw [hactions, Set.ncard_coe_finset, List.toFinset_card_of_nodup Std.TreeMap.nodup_keys,
    Std.TreeMap.length_keys, size]

end RouteLens.RouteTable
