import Mathlib.Data.List.Forall2
import RouteLens.Lens
import RouteLens.Proofs.Controller.Header
import RouteLens.Proofs.Controller.Lines
import RouteLens.Proofs.Route.Listing

/-!
# Lenses of a source under a listing

The lenses of a source are the join of its actions with the routes of a listing. The table between
them groups the routes by action, and so it never shows: each pair of an action and a route of that
action gives one lens, and the pairs come in lexicographic order of their indices.

Lenses come in the order of their lines as long as a word can count the line feeds of the source,
and no longer: below `2 ^ 32 - 1` blank lines, two methods on lines that follow each other are shown
on the last line that a word can hold and on line 0 (`inOrder_iff`).
-/

namespace RouteLens

open Source

/-- The pairs of indices at which an action and a route agree, in lexicographic order. -/
structure IsJoin (actions : List Action) (routes : List Route) (pairs : List (Nat × Nat)) :
    Prop where
  ordered : pairs.Pairwise (fun p q => p.1 < q.1 ∨ p.1 = q.1 ∧ p.2 < q.2)
  mem_iff : ∀ i j, (i, j) ∈ pairs ↔
    ∃ a r, actions[i]? = some a ∧ routes[j]? = some r ∧ r.action = a.action

/-- The lens of a pair of indices: the title of the route at the start of the action's line. -/
def Shows (actions : List Action) (routes : List Route) (p : Nat × Nat) (lens : Lens) : Prop :=
  ∃ a r, actions[p.1]? = some a ∧ routes[p.2]? = some r ∧
    lens = ⟨⟨⟨a.line, 0⟩, ⟨a.line, 0⟩⟩, r.title, ""⟩

/-- Every action with each of its routes, by nested loops. Both keep their indices. -/
def nestedJoin (actions : List Action) (routes : List Route) :
    List ((Action × Nat) × (Route × Nat)) :=
  actions.zipIdx.flatMap fun a =>
    (routes.zipIdx.filter fun r => r.1.action = a.1.action).map fun r => (a, r)

section Join

variable {actions : List Action} {routes : List Route}

theorem mem_nestedJoin {a : Action} {r : Route} {i j : Nat} :
    ((a, i), (r, j)) ∈ nestedJoin actions routes ↔
      actions[i]? = some a ∧ routes[j]? = some r ∧ r.action = a.action := by
  simp only [nestedJoin, List.mem_flatMap, List.mem_map, List.mem_filter, decide_eq_true_eq,
    Prod.mk.injEq]
  constructor
  · rintro ⟨_, ha, _, ⟨hr, heq⟩, rfl, rfl⟩
    exact ⟨List.mem_zipIdx_iff_getElem?.mp ha, List.mem_zipIdx_iff_getElem?.mp hr, heq⟩
  · rintro ⟨ha, hr, heq⟩
    exact ⟨(a, i), List.mem_zipIdx_iff_getElem?.mpr ha, (r, j),
      ⟨List.mem_zipIdx_iff_getElem?.mpr hr, heq⟩, rfl, rfl⟩

theorem pairwise_snd_zipIdx {α : Type} (l : List α) :
    l.zipIdx.Pairwise (fun x y => x.2 < y.2) := by
  rw [← List.pairwise_map (f := Prod.snd) (R := (· < ·)), List.zipIdx_map_snd]
  exact List.pairwise_lt_range'

theorem isJoin_nestedJoin :
    IsJoin actions routes ((nestedJoin actions routes).map fun x => (x.1.2, x.2.2)) := by
  constructor
  · rw [List.pairwise_map, nestedJoin, List.pairwise_flatMap]
    constructor
    · intro a _
      rw [List.pairwise_map]
      exact ((pairwise_snd_zipIdx routes).filter _).imp fun hlt => Or.inr ⟨rfl, hlt⟩
    · refine (pairwise_snd_zipIdx actions).imp fun {a b} hlt x hx y hy => Or.inl ?_
      obtain ⟨_, -, rfl⟩ := List.mem_map.mp hx
      obtain ⟨_, -, rfl⟩ := List.mem_map.mp hy
      exact hlt
  · intro i j
    constructor
    · intro h
      obtain ⟨⟨⟨a, _⟩, r, _⟩, hx, heq⟩ := List.mem_map.mp h
      obtain ⟨rfl, rfl⟩ := Prod.mk.inj heq
      exact ⟨a, r, mem_nestedJoin.mp hx⟩
    · rintro ⟨a, r, h⟩
      exact List.mem_map.mpr ⟨((a, i), (r, j)), mem_nestedJoin.mpr h, rfl⟩

theorem forall₂_shows_nestedJoin :
    List.Forall₂ (Shows actions routes)
      ((nestedJoin actions routes).map fun x => (x.1.2, x.2.2))
      ((nestedJoin actions routes).map fun x => Lens.ofItem ⟨x.1.1.line, x.2.1.title⟩) := by
  rw [List.forall₂_map_left_iff, List.forall₂_map_right_iff, List.forall₂_same]
  rintro ⟨⟨a, i⟩, r, j⟩ hmem
  obtain ⟨ha, hr, -⟩ := mem_nestedJoin.mp hmem
  exact ⟨a, r, ha, hr, rfl⟩

end Join

namespace LensItem

theorem build_eq (lookup : String → List Route) (actions : List Action) :
    build (m := Id) lookup actions =
      actions.flatMap fun a => (lookup a.action).map fun r => ⟨a.line, r.title⟩ := by
  induction actions with
  | nil => rfl
  | cons a actions ih =>
    rw [List.flatMap_cons, ← ih]
    rfl

/-- The routes of an action in a table are those that a loop over all routes would pick. -/
theorem build_ofList (routes : List Route) (actions : List Action) :
    build (m := Id) (RouteTable.ofList routes).routesFor actions =
      (nestedJoin actions routes).map fun x => ⟨x.1.1.line, x.2.1.title⟩ := by
  have hroutes (a : Action) : routes.filter (·.action = a.action) =
      (routes.zipIdx.filter fun r => r.1.action = a.action).map Prod.fst := by
    conv_lhs => rw [← List.zipIdx_map_fst 0 routes, List.filter_map]
    rfl
  simp only [build_eq, RouteTable.routesFor_ofList, nestedJoin, List.map_flatMap, List.map_map,
    hroutes]
  conv_lhs => rw [← List.zipIdx_map_fst 0 actions, List.flatMap_map]
  rfl

/-- Items stand on the lines of their actions. -/
theorem linesUpTo_build (lookup : String → List Route) {bound : Nat} {actions : List Action}
    (h : LinesUpTo bound (actions.map Action.line)) :
    LinesUpTo bound ((build (m := Id) lookup actions).map LensItem.line) := by
  have := h.flatMap_replicate fun a => (lookup a.action).length
  simpa [build_eq, List.map_flatMap, Function.comp_def, List.map_const'] using this

end LensItem

namespace Lens

/-- The items of a source, before an empty list of them becomes no answer. -/
def items (table : RouteTable) (source : String) : List LensItem :=
  LensItem.build (m := Id) table.routesFor (Controller.actions source)

theorem ofSource_eq_none {table : RouteTable} {source : String} :
    ofSource table source = none ↔ items table source = [] := by
  rw [ofSource, ← items]
  split
  · next h => simp [h]
  · next h => simpa using h

theorem ofSource_eq_some {table : RouteTable} {source : String} {lenses : List Lens} :
    ofSource table source = some lenses ↔
      items table source ≠ [] ∧ (items table source).map ofItem = lenses := by
  rw [ofSource, ← items]
  split
  · next h => simp [h]
  · next h => rw [Option.some.injEq, and_iff_right h]

/-- The lines of the lenses never go down. -/
def InOrder (lenses : List Lens) : Prop :=
  lenses.Pairwise fun l m => l.range.start.line ≤ m.range.start.line

theorem linesUpTo_ofSource {table : RouteTable} {source : String} {lenses : List Lens}
    (h : ofSource table source = some lenses) :
    LinesUpTo (source.toList.count '\n') (lenses.map (·.range.start.line)) := by
  obtain ⟨-, rfl⟩ := ofSource_eq_some.mp h
  rw [List.map_map]
  exact LensItem.linesUpTo_build _ (Controller.linesUpTo_actions source)

theorem inOrder_ofSource {table : RouteTable} {source : String} {lenses : List Lens}
    (h : ofSource table source = some lenses) (hcount : source.toList.count '\n' < UInt32.size) :
    InOrder lenses :=
  List.pairwise_map.mp ((linesUpTo_ofSource h).pairwise hcount)

/-- The lenses of a source under the table of a listing are the join of the source's actions with
the listing's routes. There is one lens for each pair of indices, in lexicographic order, and no
answer rather than an empty one. The numbers of their lines never go down and never pass the number
of line feeds in the source. A lens has its number as a word of 32 bits, so no word passes the
number of line feeds either; and as long as the line feeds can be counted in a word, the lenses are
in order of their lines. -/
theorem ofSource_exact (json source : String) :
    ∃ pairs, IsJoin (Controller.actions source) (Listing.routes json) pairs ∧
      (ofSource (Listing.table json) source = none ↔ pairs = []) ∧
      ∀ lenses, ofSource (Listing.table json) source = some lenses →
        lenses ≠ [] ∧
        List.Forall₂ (Shows (Controller.actions source) (Listing.routes json)) pairs lenses ∧
        LinesUpTo (source.toList.count '\n') (lenses.map (·.range.start.line)) ∧
        (∀ lens ∈ lenses, lens.range.start.line.toNat ≤ source.toList.count '\n') ∧
        (source.toList.count '\n' < UInt32.size → InOrder lenses) := by
  have hitems : items (Listing.table json) source =
      (nestedJoin (Controller.actions source) (Listing.routes json)).map
        fun x => ⟨x.1.1.line, x.2.1.title⟩ :=
    LensItem.build_ofList (Listing.routes json) (Controller.actions source)
  refine ⟨_, isJoin_nestedJoin, ?_, fun lenses hlenses => ?_⟩
  · rw [ofSource_eq_none, hitems, List.map_eq_nil_iff, List.map_eq_nil_iff]
  · have hlines := linesUpTo_ofSource hlenses
    refine ⟨?_, ?_, hlines, fun lens hlens => ?_, inOrder_ofSource hlenses⟩
    · obtain ⟨hne, rfl⟩ := ofSource_eq_some.mp hlenses
      simpa using hne
    · obtain ⟨-, rfl⟩ := ofSource_eq_some.mp hlenses
      rw [hitems, List.map_map]
      exact forall₂_shows_nestedJoin
    · exact hlines.toNat_le (List.mem_map_of_mem hlens)

/-! ## More line feeds than a word can count -/

/-- Blank lines above a source move its items down. -/
theorem items_blankLines (table : RouteTable) (k : Nat) (source : String) :
    items table (Controller.blankLines k ++ source) =
      (items table source).map fun item => { item with line := item.line + UInt32.ofNat k } := by
  rw [items, items, Controller.actions_blankLines, LensItem.build_eq, LensItem.build_eq,
    List.flatMap_map, List.map_flatMap]
  simp only [List.map_map, Function.comp_def]

/-- A class with a method on line 0 and another on line 1. -/
def twoMethods : String := "class C public function a(\npublic function b("

/-- A listing with a route for each of the two methods. -/
def twoRows : String :=
  "[\x7b\"uri\":\"a\",\"action\":\"C@a\"\x7d,\x7b\"uri\":\"b\",\"action\":\"C@b\"\x7d]"

theorem count_twoMethods (k : Nat) :
    (Controller.blankLines k ++ twoMethods).toList.count '\n' = k + 1 := by
  have hone : twoMethods.toList.count '\n' = 1 := by decide +kernel
  rw [String.toList_append, List.count_append, Controller.count_blankLines, hone]

theorem exists_ofSource_twoMethods (k : Nat) :
    ∃ lenses, ofSource (Listing.table twoRows) (Controller.blankLines k ++ twoMethods) =
        some lenses ∧
      lenses.map (·.range.start.line) = [UInt32.ofNat k, UInt32.ofNat (k + 1)] := by
  have hitems : items (Listing.table twoRows) twoMethods = [⟨0, "GET a"⟩, ⟨1, "GET b"⟩] := by
    decide +kernel
  have hmoved := items_blankLines (Listing.table twoRows) k twoMethods
  rw [hitems] at hmoved
  refine ⟨_, ofSource_eq_some.mpr ⟨?_, rfl⟩, ?_⟩
  · rw [hmoved]
    exact List.cons_ne_nil _ _
  · rw [hmoved, UInt32.ofNat_add]
    simp [ofItem, LensItem.range, UInt32.add_comm]

/-- With one line feed more than a word can count, the last word is followed by 0. -/
theorem exists_not_inOrder :
    ∃ lenses, ofSource (Listing.table twoRows)
        (Controller.blankLines (UInt32.size - 1) ++ twoMethods) = some lenses ∧
      lenses.map (·.range.start.line) = [4294967295, 0] ∧ ¬ InOrder lenses := by
  obtain ⟨lenses, hlenses, hlines⟩ := exists_ofSource_twoMethods (UInt32.size - 1)
  have hwords : [UInt32.ofNat (UInt32.size - 1), UInt32.ofNat (UInt32.size - 1 + 1)] =
      [4294967295, 0] := by decide
  rw [hwords] at hlines
  refine ⟨lenses, hlenses, hlines, fun hordered => ?_⟩
  have hpairwise := List.pairwise_map.mpr hordered
  rw [hlines] at hpairwise
  exact absurd hpairwise (by decide)

/-- The lenses of all sources up to a number of line feeds are in order exactly if a word can count
those line feeds. -/
theorem inOrder_iff (bound : Nat) :
    (∀ json source lenses, source.toList.count '\n' ≤ bound →
      ofSource (Listing.table json) source = some lenses → InOrder lenses) ↔
    bound < UInt32.size := by
  constructor
  · intro h
    by_contra hbound
    have hcount : (Controller.blankLines (UInt32.size - 1) ++ twoMethods).toList.count '\n' ≤
        bound := by
      rw [count_twoMethods]
      exact Nat.le_of_not_lt hbound
    obtain ⟨lenses, hlenses, -, hnot⟩ := exists_not_inOrder
    exact hnot (h _ _ lenses hcount hlenses)
  · intro hbound json source lenses hcount hlenses
    exact inOrder_ofSource hlenses (Nat.lt_of_le_of_lt hcount hbound)

/-- So the order of lenses does not hold of every source. -/
theorem not_forall_inOrder :
    ¬ ∀ (json source : String) (lenses : List Lens),
      ofSource (Listing.table json) source = some lenses → InOrder lenses := by
  intro h
  obtain ⟨lenses, hlenses, -, hnot⟩ := exists_not_inOrder
  exact hnot (h _ _ lenses hlenses)

end Lens

end RouteLens
