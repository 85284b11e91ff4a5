import Mathlib.Data.List.Sort
import Mathlib.Data.Finset.Card
import RouteLens.Proofs.Route.Listing

/-!
# Orders of arrival

What a route table keeps of the order in which its routes arrived: for each action the order of its
own routes, and nothing else. So two tables are the same exactly when every action had the same
routes arrive in the same order, and routes, or the rows of a listing, may change places as long as
those of one action stay in line (`RouteTable.ofList_exact`).
-/

namespace RouteLens

/-! ## Reordered lists -/

section Reordered

variable {α : Type} {tied : α → α → Prop} {l m : List α}

/-- A list has the elements of another in other places: of two that are tied, the one that came
first still does. -/
def Reordered (tied : α → α → Prop) (l m : List α) : Prop :=
  ∃ place : Fin l.length ≃ Fin m.length, (∀ i, m[place i] = l[i]) ∧
    ∀ i j, i < j → tied l[i] l[j] → place i < place j

/-- The places of the elements that `p` holds for, first to last. -/
def placesOf (p : α → Bool) (l : List α) : List (Fin l.length) :=
  (List.finRange l.length).filter fun i => p l[i]

theorem placesOf_increasing (p : α → Bool) (l : List α) : (placesOf p l).Pairwise (· < ·) :=
  (List.pairwise_lt_finRange l.length).filter _

theorem mem_placesOf {p : α → Bool} {i : Fin l.length} : i ∈ placesOf p l ↔ p l[i] = true := by
  simp [placesOf]

theorem map_placesOf (p : α → Bool) (l : List α) :
    (placesOf p l).map (fun i => l[i]) = l.filter p := by
  have hall : (List.finRange l.length).map (fun i => l[i]) = l := by
    simp
  conv_rhs => rw [← hall]
  rw [List.filter_map]
  rfl

/-- What is tied together is found in the same order. -/
theorem Reordered.filter_eq (h : Reordered tied l m) {p : α → Bool}
    (hp : ∀ a b, p a = true → p b = true → tied a b) : l.filter p = m.filter p := by
  obtain ⟨place, hplace, hkeeps⟩ := h
  have hmoved : (placesOf p l).map place = placesOf p m := by
    -- both list the same places in increasing order
    have hincreasing : ((placesOf p l).map place).Pairwise (· < ·) := by
      rw [List.pairwise_map]
      refine (placesOf_increasing p l).imp_of_mem fun {i j} hi hj hlt => ?_
      exact hkeeps i j hlt (hp _ _ (mem_placesOf.mp hi) (mem_placesOf.mp hj))
    have hnodup := (placesOf_increasing p m).nodup
    refine List.Perm.eq_of_pairwise ?_ hincreasing (placesOf_increasing p m) ?_
    · intro i j _ _ hij hji
      exact absurd hji (not_lt_of_gt hij)
    · rw [List.perm_ext_iff_of_nodup hincreasing.nodup hnodup]
      intro j
      obtain ⟨i, rfl⟩ := place.surjective j
      rw [mem_placesOf, hplace, List.mem_map_of_injective place.injective, mem_placesOf]
  rw [← map_placesOf p l, ← map_placesOf p m, ← hmoved, List.map_map]
  exact List.map_congr_left fun i _ => (hplace i).symm

/-- Two elements that change places can be told apart by a list that has both. -/
theorem filter_ne_of_swapped {p : α → Bool} {a b : α} (ha : p a = true) (hb : p b = true)
    (hne : a ≠ b) (before between after : List α) :
    (before ++ a :: (between ++ b :: after)).filter p ≠
      (before ++ b :: (between ++ a :: after)).filter p := by
  intro h
  rw [List.filter_append, List.filter_append, List.filter_cons_of_pos ha,
    List.filter_cons_of_pos hb] at h
  exact hne (List.cons.inj (List.append_cancel_left h)).1

end Reordered

namespace RouteTable

/-! ## Tables with the same routes -/

theorem contains_iff_isSome {t : RouteTable} {action : String} :
    t.contains action = true ↔ t.routes[action]?.isSome = true := by
  rw [contains, Std.TreeMap.contains_eq_isSome_getElem?]

theorem routesFor_eq (t : RouteTable) (action : String) :
    t.routesFor action = t.routes[action]?.getD [] :=
  Std.TreeMap.getD_eq_getD_getElem?

theorem finite_actions (t : RouteTable) : {action | t.contains action = true}.Finite := by
  refine (List.finite_toSet t.routes.keys).subset fun action haction => ?_
  exact Std.TreeMap.mem_keys.mpr (Std.TreeMap.mem_iff_contains.mpr haction)

/-- Tables are the same exactly when every action has the same routes in both, or none in both. -/
theorem beq_iff {t u : RouteTable} :
    (t == u) = true ↔ ∀ action : String, t.routes[action]? = u.routes[action]? := by
  have hunfold : (t == u) = true ↔ t.size = u.size ∧
      ∀ (action : String) routes, t.routes[action]? = some routes →
        u.routes[action]? = some routes := by
    show sameRoutes t u = true ↔ _
    simp [sameRoutes, toList, Std.TreeMap.mem_toList_iff_getElem?_eq_some]
  rw [hunfold]
  constructor
  · rintro ⟨hsize, hfound⟩ action
    have hsubset : {action | t.contains action = true} ⊆ {action | u.contains action = true} := by
      intro action haction
      obtain ⟨routes, hroutes⟩ := Option.isSome_iff_exists.mp (contains_iff_isSome.mp haction)
      exact contains_iff_isSome.mpr (Option.isSome_iff_exists.mpr ⟨routes, hfound _ _ hroutes⟩)
    -- as many actions on both sides, so the second table has no others
    have hsame : {action | t.contains action = true} = {action | u.contains action = true} := by
      refine Set.eq_of_subset_of_ncard_le hsubset ?_ (finite_actions u)
      rw [← size_eq_ncard, ← size_eq_ncard, hsize]
    cases hroutes : t.routes[action]? with
    | some routes => exact (hfound action routes hroutes).symm
    | none =>
      have hnot : action ∉ {action | u.contains action = true} := by
        rw [← hsame, Set.mem_ofPred_eq, contains_iff_isSome, hroutes]
        simp
      rw [Set.mem_ofPred_eq, contains_iff_isSome, Option.not_isSome_iff_eq_none] at hnot
      exact hnot.symm
  · intro h
    refine ⟨?_, fun action routes hroutes => (h action).symm.trans hroutes⟩
    rw [size_eq_ncard, size_eq_ncard]
    congr 1
    ext action
    simp only [Set.mem_ofPred_eq, contains_iff_isSome, h]

/-! ## Tables of routes that arrived -/

/-- A key of a table of routes has exactly the routes that arrived for it, and at least one. -/
theorem getElem?_ofList (rs : List Route) (action : String) :
    (ofList rs).routes[action]? =
      if rs.filter (·.action = action) = [] then none
      else some (rs.filter (·.action = action)) := by
  have hroutes := routesFor_ofList rs action
  rw [routesFor_eq] at hroutes
  have hcontains := contains_ofList_iff_routesFor rs action
  rw [contains_iff_isSome, routesFor_ofList] at hcontains
  split
  · next hnil =>
    simpa [hnil] using hcontains
  · next hne =>
    obtain ⟨routes, hsome⟩ := Option.isSome_iff_exists.mp (hcontains.mpr hne)
    rw [hsome, Option.getD_some] at hroutes
    rw [hsome, hroutes]

/-- Tables of routes are the same exactly when each action had the same routes in the same order. -/
theorem beq_ofList_iff {rs ss : List Route} :
    (ofList rs == ofList ss) = true ↔
      ∀ action, rs.filter (·.action = action) = ss.filter (·.action = action) := by
  rw [beq_iff]
  constructor
  · intro h action
    rw [← routesFor_ofList, ← routesFor_ofList, routesFor_eq, routesFor_eq, h]
  · intro h action
    rw [getElem?_ofList, getElem?_ofList, h]

theorem size_ofList (rs : List Route) :
    (ofList rs).size = (rs.map Route.action).toFinset.card := by
  rw [size_eq_ncard, ← Set.ncard_coe_finset]
  congr 1
  ext action
  simp [contains_ofList]

theorem isEmpty_ofList {rs : List Route} : (ofList rs).isEmpty = true ↔ rs = [] := by
  have hsize : (ofList rs).isEmpty = ((ofList rs).size == 0) := Std.TreeMap.isEmpty_eq_size_eq_zero
  rw [hsize, beq_iff_eq, size_ofList, Finset.card_eq_zero, List.toFinset_eq_empty_iff,
    List.map_eq_nil_iff]

/-- Routes of one action. -/
def SameAction (r s : Route) : Prop :=
  r.action = s.action

theorem beq_of_reordered {rs ss : List Route} (h : Reordered SameAction rs ss) :
    (ofList rs == ofList ss) = true := by
  rw [beq_ofList_iff]
  intro action
  apply h.filter_eq
  intro r s hr hs
  rw [SameAction, of_decide_eq_true hr, of_decide_eq_true hs]

theorem not_beq_of_swapped {r s : Route} (hne : r ≠ s) (haction : r.action = s.action)
    (before between after : List Route) :
    (ofList (before ++ r :: (between ++ s :: after)) ==
      ofList (before ++ s :: (between ++ r :: after))) = false := by
  rw [Bool.eq_false_iff]
  intro h
  have hfilter := beq_ofList_iff.mp h s.action
  exact filter_ne_of_swapped (by simpa using haction) (by simp) hne before between after hfilter

end RouteTable

/-! ## Listings with rows in another order -/

namespace Listing

/-- Elements of a listing that mean routes of one action. -/
def SameAction (a b : Json) : Prop :=
  ∃ r s, RowRoute a r ∧ RowRoute b s ∧ r.action = s.action

theorem table_of_parse {text : String} {rows : List Json}
    (h : Json.parse text = some (.array rows)) :
    table text = RouteTable.ofList (rows.filterMap rowRoute?) := by
  rw [table, routes, h]

/-- The routes of an action come from the elements that mean one. -/
theorem filter_filterMap_rowRoute? (q : Route → Bool) (rows : List Json) :
    (rows.filterMap rowRoute?).filter q =
      (rows.filter fun row => (rowRoute? row).any q).filterMap rowRoute? := by
  induction rows with
  | nil => rfl
  | cons row rows ih =>
    cases hrow : rowRoute? row with
    | none => simp [hrow, ih]
    | some r => by_cases hq : q r = true <;> simp [hrow, hq, ih]

theorem beq_table_of_reordered {text other : String} {rows others : List Json}
    (htext : Json.parse text = some (.array rows))
    (hother : Json.parse other = some (.array others))
    (h : Reordered SameAction rows others) : (table text == table other) = true := by
  rw [table_of_parse htext, table_of_parse hother, RouteTable.beq_ofList_iff]
  intro action
  rw [filter_filterMap_rowRoute?, filter_filterMap_rowRoute?]
  congr 1
  apply h.filter_eq
  intro a b ha hb
  obtain ⟨r, hr, hraction⟩ := (Option.any_eq_true _ _).mp ha
  obtain ⟨s, hs, hsaction⟩ := (Option.any_eq_true _ _).mp hb
  refine ⟨r, s, rowRoute?_iff.mp hr, rowRoute?_iff.mp hs, ?_⟩
  rw [of_decide_eq_true hraction, of_decide_eq_true hsaction]

theorem not_beq_table_of_swapped {text other : String} {a b : Json} {r s : Route}
    {before between after : List Json}
    (htext : Json.parse text = some (.array (before ++ a :: (between ++ b :: after))))
    (hother : Json.parse other = some (.array (before ++ b :: (between ++ a :: after))))
    (ha : RowRoute a r) (hb : RowRoute b s) (hne : r ≠ s) (haction : r.action = s.action) :
    (table text == table other) = false := by
  rw [table_of_parse htext, table_of_parse hother]
  simp only [List.filterMap_append, List.filterMap_cons_some (rowRoute?_iff.mpr ha),
    List.filterMap_cons_some (rowRoute?_iff.mpr hb)]
  exact RouteTable.not_beq_of_swapped hne haction _ _ _

end Listing

/-- What a table has after routes arrived: for each action its routes, in the order in which they
came; the number of actions that came; and nothing if nothing came. Tables are the same exactly when
each action has the same routes in the same order. So a different order of arrival, or of the rows
of a listing, gives the same table as long as the routes of each action stay in line, and another
table when two different routes of one action change places. -/
theorem RouteTable.ofList_exact (rs : List Route) :
    (∀ action, (ofList rs).routesFor action = rs.filter (·.action = action) ∧
      ((ofList rs).contains action = true ↔ rs.filter (·.action = action) ≠ [])) ∧
    (ofList rs).size = (rs.map Route.action).toFinset.card ∧
    ((ofList rs).isEmpty = true ↔ rs = []) ∧
    (∀ ss, (ofList rs == ofList ss) = true ↔
      ∀ action, rs.filter (·.action = action) = ss.filter (·.action = action)) ∧
    (∀ ss, Reordered SameAction rs ss → (ofList rs == ofList ss) = true) ∧
    (∀ before between after r s, rs = before ++ r :: (between ++ s :: after) → r ≠ s →
      r.action = s.action →
      (ofList rs == ofList (before ++ s :: (between ++ r :: after))) = false) ∧
    (∀ text other rows others, Json.parse text = some (.array rows) →
      Json.parse other = some (.array others) →
      (Reordered Listing.SameAction rows others →
        (Listing.table text == Listing.table other) = true) ∧
      ∀ before between after a b r s, rows = before ++ a :: (between ++ b :: after) →
        others = before ++ b :: (between ++ a :: after) → Listing.RowRoute a r →
        Listing.RowRoute b s → r ≠ s → r.action = s.action →
        (Listing.table text == Listing.table other) = false) := by
  refine ⟨fun action => ⟨routesFor_ofList rs action, ?_⟩, size_ofList rs, isEmpty_ofList,
    fun ss => beq_ofList_iff, fun ss => beq_of_reordered, ?_, ?_⟩
  · rw [contains_ofList_iff_routesFor, routesFor_ofList]
  · rintro before between after r s rfl hne haction
    exact not_beq_of_swapped hne haction before between after
  · intro text other rows others htext hother
    refine ⟨Listing.beq_table_of_reordered htext hother, ?_⟩
    rintro before between after a b r s rfl rfl ha hb hne haction
    exact Listing.not_beq_table_of_swapped htext hother ha hb hne haction

end RouteLens
