import RouteLens.Proofs.Controller.Methods

/-!
# Lines of actions

The scan counts line feeds from one declaration to the next and never from the start again. Since
every declaration starts at a boundary between characters, the sum is still the number of line feeds
before the declaration. Lines are words of 32 bits, and so this number is taken modulo `2 ^ 32`.
-/

namespace RouteLens.Source

open Utf8 (encode)

@[simp] theorem lineFeeds_zero (text : List Char) : lineFeeds 0 text = 0 := by
  cases text <;> simp [lineFeeds]

@[simp] theorem dropOctets_zero (text : List Char) : dropOctets 0 text = text := by
  cases text <;> simp [dropOctets]

theorem lineFeeds_append (pre post : List Char) (n : Nat) :
    lineFeeds ((encode pre).length + n) (pre ++ post) = pre.count '\n' + lineFeeds n post := by
  induction pre with
  | nil => simp
  | cons c pre ih =>
    have hpos := c.utf8Size_pos
    have hlen : (encode (c :: pre)).length + n - c.utf8Size = (encode pre).length + n := by
      simp
      omega
    have hne : ¬ (encode (c :: pre)).length + n = 0 := by
      simp
      omega
    rw [List.cons_append, lineFeeds, if_neg hne, hlen, ih, List.count_cons]
    simp only [beq_iff_eq]
    omega

theorem lineFeeds_length_encode (pre post : List Char) :
    lineFeeds (encode pre).length (pre ++ post) = pre.count '\n' := by
  have := lineFeeds_append pre post 0
  rwa [Nat.add_zero, lineFeeds_zero, Nat.add_zero] at this

theorem dropOctets_append (pre post : List Char) :
    dropOctets (encode pre).length (pre ++ post) = post := by
  induction pre with
  | nil => simp
  | cons c pre ih =>
    have hpos := c.utf8Size_pos
    have hlen : (encode (c :: pre)).length - c.utf8Size = (encode pre).length := by simp
    have hne : ¬ (encode (c :: pre)).length = 0 := by
      simp
      omega
    rw [List.cons_append, dropOctets, if_neg hne, hlen, ih]

theorem lineFeeds_mono (text : List Char) {m n : Nat} (h : m ≤ n) :
    lineFeeds m text ≤ lineFeeds n text := by
  induction text generalizing m n with
  | nil => simp [lineFeeds]
  | cons c rest ih =>
    rw [lineFeeds, lineFeeds]
    by_cases hm : m = 0
    · simp [hm]
    · have hn : n ≠ 0 := by omega
      rw [if_neg hm, if_neg hn]
      exact Nat.add_le_add_left (ih (by omega)) _

theorem lineFeeds_le_count (text : List Char) (n : Nat) : lineFeeds n text ≤ text.count '\n' := by
  induction text generalizing n with
  | nil => simp [lineFeeds]
  | cons c rest ih =>
    have := ih (n - c.utf8Size)
    rw [lineFeeds, List.count_cons]
    simp only [beq_iff_eq]
    split
    · exact Nat.zero_le _
    · omega

/-- Of two starts of a text the one with fewer octets is a start of the other. -/
theorem prefix_of_length_encode_le {a b text : List Char} (ha : a <+: text) (hb : b <+: text)
    (h : (encode a).length ≤ (encode b).length) : a <+: b := by
  rcases List.prefix_or_prefix_of_prefix ha hb with hab | ⟨l, rfl⟩
  · exact hab
  · rw [Utf8.encode_append, List.length_append] at h
    obtain rfl : l = [] := Utf8.eq_nil_of_length_encode (by omega)
    simp

/-- Lines up to `bound`: they stand for numbers, each modulo `2 ^ 32`, that never go down and never
pass `bound`. -/
def LinesUpTo (bound : Nat) (lines : List UInt32) : Prop :=
  ∃ feeds : List Nat, lines = feeds.map UInt32.ofNat ∧ feeds.Pairwise (· ≤ ·) ∧
    ∀ n ∈ feeds, n ≤ bound

theorem LinesUpTo.toNat_le {bound : Nat} {lines : List UInt32} (h : LinesUpTo bound lines)
    {line : UInt32} (hline : line ∈ lines) : line.toNat ≤ bound := by
  obtain ⟨feeds, rfl, -, hbound⟩ := h
  obtain ⟨n, hn, rfl⟩ := List.mem_map.mp hline
  rw [UInt32.toNat_ofNat']
  exact Nat.le_trans (Nat.mod_le _ _) (hbound n hn)

theorem LinesUpTo.pairwise {bound : Nat} {lines : List UInt32} (h : LinesUpTo bound lines)
    (hbound : bound < UInt32.size) : lines.Pairwise (· ≤ ·) := by
  obtain ⟨feeds, rfl, hordered, hle⟩ := h
  have hsize : UInt32.size = 4294967296 := rfl
  refine List.pairwise_map.mpr (hordered.imp_of_mem fun {m n} hm hn hmn => ?_)
  have hm' := hle m hm
  have hn' := hle n hn
  rw [UInt32.le_iff_toNat_le, UInt32.toNat_ofNat', UInt32.toNat_ofNat',
    Nat.mod_eq_of_lt (by omega), Nat.mod_eq_of_lt (by omega)]
  exact hmn

/-- Lines stay in order when each comes any number of times. -/
theorem LinesUpTo.flatMap_replicate {α : Type} {bound : Nat} {items : List α} {line : α → UInt32}
    (h : LinesUpTo bound (items.map line)) (times : α → Nat) :
    LinesUpTo bound (items.flatMap fun x => List.replicate (times x) (line x)) := by
  obtain ⟨feeds, hlines, hordered, hbound⟩ := h
  suffices hsub : ∃ feeds' : List Nat,
      items.flatMap (fun x => List.replicate (times x) (line x)) = feeds'.map UInt32.ofNat ∧
        feeds'.Pairwise (· ≤ ·) ∧ feeds' ⊆ feeds by
    obtain ⟨feeds', heq, hordered', hsubset⟩ := hsub
    exact ⟨feeds', heq, hordered', fun n hn => hbound n (hsubset hn)⟩
  clear hbound
  induction items generalizing feeds with
  | nil => exact ⟨[], rfl, .nil, List.nil_subset _⟩
  | cons x items ih =>
    cases feeds with
    | nil => simp at hlines
    | cons n feeds =>
      obtain ⟨hline, hlines⟩ := List.cons.inj hlines
      obtain ⟨hle, hordered⟩ := List.pairwise_cons.mp hordered
      obtain ⟨feeds', heq, hordered', hsubset⟩ := ih feeds hlines hordered
      refine ⟨List.replicate (times x) n ++ feeds', by simp [heq, hline], ?_, ?_⟩
      · refine List.pairwise_append.mpr ⟨List.pairwise_replicate.mpr (by simp), hordered', ?_⟩
        intro a ha b hb
        rw [List.eq_of_mem_replicate ha]
        exact hle b (hsubset hb)
      · refine List.append_subset.mpr ⟨?_, List.subset_cons_of_subset _ hsubset⟩
        intro a ha
        rw [List.eq_of_mem_replicate ha]
        exact List.mem_cons_self

end RouteLens.Source

namespace RouteLens.Controller

open Source
open Utf8 (encode)

/-- Counting on from each declaration to the next gives the line of every declaration. -/
theorem map_line_actionsFrom (className : String) (pre post : List Char)
    (methods : List (Nat × String)) (hordered : methods.Pairwise (fun m n => m.1 < n.1))
    (hlow : ∀ m ∈ methods, (encode pre).length ≤ m.1)
    (hboundary : ∀ m ∈ methods, ∃ front, front <+: pre ++ post ∧ (encode front).length = m.1) :
    (actionsFrom className (encode pre).length (UInt32.ofNat (pre.count '\n')) post methods).map
      Action.line = methods.map fun m => lineAt (pre ++ post) m.1 := by
  induction methods generalizing pre post with
  | nil => rfl
  | cons m methods ih =>
    obtain ⟨offset, name⟩ := m
    obtain ⟨front, hfront, rfl⟩ := hboundary (offset, name) List.mem_cons_self
    have hle := hlow _ List.mem_cons_self
    obtain ⟨mid, rfl⟩ := prefix_of_length_encode_le (List.prefix_append pre post) hfront hle
    obtain ⟨post, rfl⟩ := (List.prefix_append_right_inj pre).mp hfront
    obtain ⟨hlater, hordered⟩ := List.pairwise_cons.mp hordered
    have hgap : (encode (pre ++ mid)).length - (encode pre).length = (encode mid).length := by simp
    have hline : UInt32.ofNat (pre.count '\n') + lineAt (mid ++ post) (encode mid).length =
        UInt32.ofNat ((pre ++ mid).count '\n') := by
      rw [lineAt, lineFeeds_length_encode, List.count_append, UInt32.ofNat_add]
    have hhere : lineAt (pre ++ (mid ++ post)) (encode (pre ++ mid)).length =
        UInt32.ofNat ((pre ++ mid).count '\n') := by
      rw [← List.append_assoc, lineAt, lineFeeds_length_encode]
    have hrest := ih (pre ++ mid) post hordered (fun m hm => Nat.le_of_lt (hlater m hm))
      (fun m hm => by simpa using hboundary m (List.mem_cons_of_mem _ hm))
    simp only [actionsFrom, hgap, hline, dropOctets_append, List.map_cons, Action.ofMethod, hrest,
      hhere, List.append_assoc]

theorem exists_prefix_of_mem_publicMethods {source : List Char} {m : Nat × String}
    (h : m ∈ publicMethods source) :
    ∃ front, front <+: source ∧ (encode front).length = m.1 := by
  obtain ⟨text, htext⟩ := mem_publicMethods.mp h
  obtain ⟨front, post, rfl, hlen, -⟩ := htext.exists_split
  exact ⟨front, List.prefix_append _ _, hlen⟩

/-- Every action is on the line of its declaration. -/
theorem map_line_actions {source name : String} (h : className? source.toList = some name) :
    (actions source).map Action.line =
      (publicMethods source.toList).map fun m => lineAt source.toList m.1 := by
  simp only [actions, h]
  exact map_line_actionsFrom _ [] source.toList _ (publicMethods_increasing _)
    (fun _ _ => Nat.zero_le _) fun _ hm => exists_prefix_of_mem_publicMethods hm

/-- The actions of a source with a class, each with the line of its declaration. -/
theorem actions_eq_map {source name : String} (h : className? source.toList = some name) :
    actions source = (publicMethods source.toList).map fun m =>
      .ofMethod (qualifiedName (namespacePath? source.toList) name) m.2
        (lineAt source.toList m.1) := by
  have hname := map_action_actions h
  have hline := map_line_actions h
  apply List.ext_getElem?
  intro i
  have hname' := congrArg (·[i]?) hname
  have hline' := congrArg (·[i]?) hline
  simp only [List.getElem?_map] at hname' hline' ⊢
  cases ha : (actions source)[i]? with
  | none =>
    rw [ha, Option.map_none] at hname'
    rw [Option.map_eq_none_iff.mp hname'.symm, Option.map_none]
  | some a =>
    rw [ha, Option.map_some] at hname' hline'
    obtain ⟨m, hm, haction⟩ := Option.map_eq_some_iff.mp hname'.symm
    rw [hm, Option.map_some] at hline' ⊢
    rw [Action.ofMethod, haction, ← Option.some.inj hline']

theorem linesUpTo_actions (source : String) :
    LinesUpTo (source.toList.count '\n') ((actions source).map Action.line) := by
  cases h : className? source.toList with
  | none =>
    rw [actions_of_className?_none h]
    exact ⟨[], rfl, .nil, by simp⟩
  | some name =>
    refine ⟨(publicMethods source.toList).map fun m => lineFeeds m.1 source.toList, ?_, ?_, ?_⟩
    · rw [map_line_actions h, List.map_map]
      rfl
    · exact List.pairwise_map.mpr
        ((publicMethods_increasing _).imp fun hlt => lineFeeds_mono _ (Nat.le_of_lt hlt))
    · intro n hn
      obtain ⟨m, -, rfl⟩ := List.mem_map.mp hn
      exact lineFeeds_le_count _ _

end RouteLens.Controller
