import RouteLens.Proofs.Controller.Lines
import RouteLens.Proofs.Controller.Words

/-!
# What a scan finds, with the text before it

The offset and the line of a declaration are both read off the text before it. Here a pattern gives
every declaration together with that text, so that two scans can be compared where their offsets
differ. The class, the namespace, the public methods and the actions of a source are said by what
the three patterns find (`actions_eq_finds`).
-/

namespace RouteLens.Controller

open Source
open Utf8 (encode)

instance (passed : List Char) : Decidable (Opens passed) :=
  decidable_of_iff (Site.startsWord ⟨passed.getLast?, 0, []⟩ = true) startsWord_iff

namespace Pattern

variable {α : Type} (P : Pattern α)

/-- What is found in `rest`, each with the text before it; the text `passed` lies before `rest`. -/
def finds (passed : List Char) : List Char → List (List Char × α)
  | [] => []
  | c :: rest =>
    (if P.keyword.toList <+: c :: rest ∧ Opens passed then
      (P.read ((c :: rest).drop P.keyword.toList.length)).toList.map (passed, ·)
    else []) ++ finds (passed ++ [c]) rest

theorem finds_cons_of_prefix {passed rest after : List Char} {c : Char} (hp : Opens passed)
    (h : c :: rest = P.keyword.toList ++ after) :
    P.finds passed (c :: rest) =
      (P.read after).toList.map (passed, ·) ++ P.finds (passed ++ [c]) rest := by
  have hpre : P.keyword.toList <+: c :: rest := ⟨after, h.symm⟩
  have hafter : (c :: rest).drop P.keyword.toList.length = after := by simp [h]
  rw [finds, if_pos ⟨hpre, hp⟩, hafter]

theorem finds_cons_of_not {passed rest : List Char} {c : Char}
    (h : P.keyword.toList <+: c :: rest → ¬ Opens passed) :
    P.finds passed (c :: rest) = P.finds (passed ++ [c]) rest := by
  rw [finds, if_neg fun hfound => h hfound.1 hfound.2, List.nil_append]

/-- The offset of what is found is the number of octets before it. -/
theorem foundFrom_eq_map_finds (passed rest : List Char) :
    P.foundFrom passed rest =
      (P.finds passed rest).map fun found => ((encode found.1).length, found.2) := by
  induction rest generalizing passed with
  | nil => rfl
  | cons c rest ih =>
    by_cases h : P.keyword.toList <+: c :: rest ∧ Opens passed
    · obtain ⟨⟨after, hafter⟩, hp⟩ := h
      rw [P.foundFrom_cons_of_prefix hp hafter.symm, P.finds_cons_of_prefix hp hafter.symm, ih,
        List.map_append, List.map_map]
      rfl
    · have hnot : P.keyword.toList <+: c :: rest → ¬ Opens passed := fun hpre hp => h ⟨hpre, hp⟩
      rw [P.foundFrom_cons_of_not hnot, P.finds_cons_of_not hnot, ih]

theorem prefix_of_mem_finds {passed rest : List Char} {found : List Char × α}
    (h : found ∈ P.finds passed rest) : found.1 <+: passed ++ rest := by
  induction rest generalizing passed with
  | nil => simp [finds] at h
  | cons c rest ih =>
    rw [finds] at h
    rcases List.mem_append.mp h with h | h
    · split at h
      · obtain ⟨_, -, rfl⟩ := List.mem_map.mp h
        exact List.prefix_append _ _
      · simp at h
    · simpa using ih h

/-- A text is passed at once if the keyword starts nowhere in it. -/
theorem finds_pass {front rest : List Char}
    (h : ∀ pre post, front = pre ++ post → post ≠ [] → ¬ P.keyword.toList <+: post ++ rest)
    (passed : List Char) : P.finds passed (front ++ rest) = P.finds (passed ++ front) rest := by
  induction front generalizing passed with
  | nil => simp
  | cons c front ih =>
    have hfirst : ¬ P.keyword.toList <+: c :: (front ++ rest) :=
      h [] (c :: front) rfl (List.cons_ne_nil _ _)
    have hlater (pre post : List Char) (hsplit : front = pre ++ post) (hne : post ≠ []) :
        ¬ P.keyword.toList <+: post ++ rest :=
      h (c :: pre) post (by rw [hsplit, List.cons_append]) hne
    rw [List.cons_append, P.finds_cons_of_not fun hpre => absurd hpre hfirst, ih hlater,
      List.append_assoc, List.singleton_append]

end Pattern

/-! ## The three patterns -/

theorem className?_eq_finds (source : List Char) :
    className? source = (classPattern.finds [] source).head?.map Prod.snd := by
  rw [className?_eq, Pattern.foundFrom_eq_map_finds, List.head?_map, Option.map_map]
  rfl

theorem namespacePath?_eq_finds (source : List Char) :
    namespacePath? source =
      ((namespacePattern.finds [] source).head?.map Prod.snd).bind pathPrefix? := by
  rw [namespacePath?_eq_bind, Pattern.foundFrom_eq_map_finds, List.head?_map, Option.map_map]
  rfl

theorem publicMethods_eq_finds (source : List Char) :
    publicMethods source =
      (methodPattern.finds [] source).map fun found => ((encode found.1).length, found.2) := by
  rw [publicMethods_eq, Pattern.foundFrom_eq_map_finds]

/-- The actions of a source with a class: the line of each is the number of line feeds before it, as
a word of 32 bits. -/
theorem actions_eq_finds {source name : String} (h : className? source.toList = some name) :
    actions source = (methodPattern.finds [] source.toList).map fun found =>
      .ofMethod (qualifiedName (namespacePath? source.toList) name) found.2
        (UInt32.ofNat (found.1.count '\n')) := by
  rw [actions_eq_map h, publicMethods_eq_finds, List.map_map]
  apply List.map_congr_left
  intro found hfound
  obtain ⟨post, hpost⟩ := methodPattern.prefix_of_mem_finds hfound
  rw [List.nil_append] at hpost
  rw [Function.comp_apply, lineAt, ← hpost, lineFeeds_length_encode]

end RouteLens.Controller
