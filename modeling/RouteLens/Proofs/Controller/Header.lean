import RouteLens.Proofs.Controller.Finds

/-!
# A header in front of a source

A text that is put in front of a source, ends its last line and has no keyword of the scan in it,
only moves the declarations down: the scan finds the same ones, each behind the header and what was
before it (`Pattern.finds_header`). So the actions stay, and their lines grow by those of the
header (`actions_append_header`). Blank lines are such a header for any source
(`actions_blankLines`).
-/

namespace RouteLens.Controller

open Source

theorem opens_append_iff {front : List Char} (h : Opens front) (passed : List Char) :
    Opens (front ++ passed) ↔ Opens passed := by
  rw [Opens, List.getLast?_append]
  cases hlast : passed.getLast? with
  | none => simpa [Opens, hlast] using h
  | some c => simp [Opens, hlast]

theorem opens_of_getLast? {passed : List Char} (h : passed.getLast? = some '\n') :
    Opens passed := by
  intro c hc
  obtain rfl := Option.some.inj (h.symm.trans hc)
  exact ⟨by decide, by decide⟩

namespace Pattern

variable {α : Type} (P : Pattern α)

/-- Where a word may start behind a text, what lies further back changes nothing. -/
theorem finds_append_passed {front : List Char} (hfront : Opens front) (passed rest : List Char) :
    P.finds (front ++ passed) rest = (P.finds passed rest).map (Prod.map (front ++ ·) id) := by
  induction rest generalizing passed with
  | nil => rfl
  | cons c rest ih =>
    have hopens := opens_append_iff hfront passed
    by_cases h : P.keyword.toList <+: c :: rest ∧ Opens passed
    · obtain ⟨⟨after, hafter⟩, hp⟩ := h
      rw [P.finds_cons_of_prefix (hopens.mpr hp) hafter.symm, P.finds_cons_of_prefix hp hafter.symm,
        List.append_assoc, ih, List.map_append, List.map_map]
      rfl
    · have hnot : P.keyword.toList <+: c :: rest → ¬ Opens passed := fun hpre hp => h ⟨hpre, hp⟩
      rw [P.finds_cons_of_not fun hpre hp => hnot hpre (hopens.mp hp), P.finds_cons_of_not hnot,
        List.append_assoc, ih]

/-- A keyword that does not stand in a header starts nowhere in it, since no keyword goes on behind
a line feed. -/
theorem not_prefix_of_header {header : List Char} (hend : header.getLast? = some '\n')
    (habsent : ¬ P.keyword.toList <:+: header) (source : List Char) :
    ∀ pre post, header = pre ++ post → post ≠ [] → ¬ P.keyword.toList <+: post ++ source := by
  intro pre post hsplit hne hpre
  rcases List.eq_nil_or_concat post with rfl | ⟨body, c, rfl⟩
  · exact absurd rfl hne
  obtain rfl : c = '\n' := by simpa [hsplit] using hend
  rw [List.concat_eq_append, List.append_assoc, List.singleton_append] at hpre
  obtain ⟨more, rfl⟩ := exists_of_prefix_word P.isName (by decide) hpre
  exact habsent ⟨pre, more ++ ['\n'], by simp [hsplit]⟩

theorem finds_header {header : List Char} (hend : header.getLast? = some '\n')
    (habsent : ¬ P.keyword.toList <:+: header) (source : List Char) :
    P.finds [] (header ++ source) = (P.finds [] source).map (Prod.map (header ++ ·) id) := by
  have hbehind := P.finds_append_passed (opens_of_getLast? hend) [] source
  rw [List.append_nil] at hbehind
  rw [P.finds_pass (P.not_prefix_of_header hend habsent source), List.nil_append, hbehind]

end Pattern

section Header

variable {header : List Char} (hend : header.getLast? = some '\n') (source : List Char)

include hend

theorem className?_append_header (habsent : ¬ "class".toList <:+: header) :
    className? (header ++ source) = className? source := by
  rw [className?_eq_finds, classPattern.finds_header hend habsent, List.head?_map, Option.map_map,
    className?_eq_finds]
  rfl

theorem namespacePath?_append_header (habsent : ¬ "namespace".toList <:+: header) :
    namespacePath? (header ++ source) = namespacePath? source := by
  rw [namespacePath?_eq_finds, namespacePattern.finds_header hend habsent, List.head?_map,
    Option.map_map, namespacePath?_eq_finds]
  rfl

end Header

theorem actions_header {header source : String} (hend : header.toList.getLast? = some '\n')
    (hnamespace : ¬ "namespace".toList <:+: header.toList)
    (hclass : ¬ "class".toList <:+: header.toList)
    (hpublic : ¬ "public".toList <:+: header.toList) :
    actions (header ++ source) = (actions source).map fun a =>
      { a with line := a.line + UInt32.ofNat (header.toList.count '\n') } := by
  have hname := className?_append_header hend source.toList hclass
  have hpath := namespacePath?_append_header hend source.toList hnamespace
  have hmethods := methodPattern.finds_header hend hpublic source.toList
  rw [← String.toList_append] at hname hpath hmethods
  cases hsource : className? source.toList with
  | none =>
    rw [actions_of_className?_none (hname.trans hsource), actions_of_className?_none hsource]
    rfl
  | some name =>
    rw [actions_eq_finds (hname.trans hsource), actions_eq_finds hsource, hpath, hmethods,
      List.map_map, List.map_map]
    apply List.map_congr_left
    intro found _
    have hline : UInt32.ofNat ((header.toList ++ found.1).count '\n') =
        UInt32.ofNat (found.1.count '\n') + UInt32.ofNat (header.toList.count '\n') := by
      rw [List.count_append, Nat.add_comm, UInt32.ofNat_add]
    simp only [Function.comp_apply, Prod.map, Action.ofMethod, hline, id]

/-- A header that ends its last line, and in which no keyword of the scan stands, moves the actions
of the source behind it down by its lines, and does nothing else to them. Lines are words of 32
bits, so the sum is taken modulo `2 ^ 32`. -/
theorem actions_append_header (header source : String)
    (hend : header.toList.getLast? = some '\n')
    (habsent : ∀ word ∈ ["namespace", "class", "public"], ¬ word.toList <:+: header.toList) :
    actions (header ++ source) = (actions source).map fun a =>
      { a with line := a.line + UInt32.ofNat (header.toList.count '\n') } := by
  have hnamespace := habsent "namespace" (by simp)
  have hclass := habsent "class" (by simp)
  have hpublic := habsent "public" (by simp)
  exact actions_header hend hnamespace hclass hpublic

theorem actions_append_header_php :
    actions ("<?php\n// subclas\n" ++ "namespace A;class C public function f(\npublic function g(")
      = [⟨"A\\C@f", 2⟩, ⟨"A\\C@g", 3⟩] := by
  have hscan : actions "namespace A;class C public function f(\npublic function g(" =
      [⟨"A\\C@f", 0⟩, ⟨"A\\C@g", 1⟩] := by decide +kernel
  have habsent : ∀ word ∈ ["namespace", "class", "public"],
      ¬ word.toList <:+: "<?php\n// subclas\n".toList := by decide +kernel
  rw [actions_append_header _ _ rfl habsent, hscan]
  rfl

/-! ## Blank lines -/

/-- So many blank lines. -/
def blankLines (k : Nat) : String :=
  String.ofList (List.replicate k '\n')

theorem count_blankLines (k : Nat) : (blankLines k).toList.count '\n' = k := by
  rw [blankLines, String.toList_ofList, List.count_replicate_self]

theorem not_infix_blankLines {word : List Char} (h : IsName word) (k : Nat) :
    ¬ word <:+: (blankLines k).toList := by
  intro hword
  obtain ⟨c, rest, rfl⟩ := List.exists_cons_of_ne_nil h.1
  rw [blankLines, String.toList_ofList] at hword
  obtain rfl : c = '\n' := List.eq_of_mem_replicate (hword.subset List.mem_cons_self)
  exact absurd (h.2 _ List.mem_cons_self) (by decide)

/-- Blank lines above a source move its actions down, whatever the source is. -/
theorem actions_blankLines (k : Nat) (source : String) :
    actions (blankLines k ++ source) =
      (actions source).map fun a => { a with line := a.line + UInt32.ofNat k } := by
  cases k with
  | zero => simp [blankLines]
  | succ k =>
    have hend : (blankLines (k + 1)).toList.getLast? = some '\n' := by
      rw [blankLines, String.toList_ofList, List.replicate_succ', List.getLast?_concat]
    rw [actions_header hend (not_infix_blankLines isName_namespace _)
      (not_infix_blankLines isName_class _) (not_infix_blankLines isName_public _),
      count_blankLines]

end RouteLens.Controller
