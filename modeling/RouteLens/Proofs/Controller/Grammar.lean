import RouteLens.Controller.Scan
import RouteLens.Proofs.Controller.Keyword

/-!
# Grammar of declarations

What may follow the keywords `public` and `class` in a declaration, said by splitting a text into
parts. The readers of a scan take the longest run of blanks and the longest name; since no blank
and no parenthesis is part of a name, that loses no way of splitting (`readMethod_eq_some`,
`readClassName_isSome`).
-/

namespace RouteLens.Controller

open Source
open Utf8 (encode)

/-- A run of blanks, at least one. -/
def IsBlanks (text : List Char) : Prop :=
  text ≠ [] ∧ ∀ c ∈ text, Text.isBlank c = true

/-- A name: name characters, at least one. -/
def IsName (text : List Char) : Prop :=
  text ≠ [] ∧ ∀ c ∈ text, isWordChar c = true

theorem isName_of_all {text : List Char} (hne : text.isEmpty = false)
    (h : text.all isWordChar = true) : IsName text :=
  ⟨by simpa using hne, List.all_eq_true.mp h⟩

/-- What follows the keyword `public` in the declaration of a method, up to the parenthesis. -/
inductive MethodTail (name : List Char) : List Char → Prop
  | intro (a b d : List Char) : IsBlanks a → IsBlanks b → IsName name →
      (∀ c ∈ d, Text.isBlank c = true) →
      MethodTail name (a ++ ("function".toList ++ (b ++ (name ++ (d ++ ['('])))))

/-- What follows the keyword `class` in a declaration, up to the end of a name. -/
inductive ClassTail : List Char → Prop
  | intro (a name : List Char) : IsBlanks a → IsName name → ClassTail (a ++ name)

/-! ## Readers -/

theorem toNat_of_isBlank {c : Char} (h : Text.isBlank c = true) :
    c.toNat < 0x30 ∨ 0x80 ≤ c.toNat := by
  have hval : c.toNat = c.val.toNat := rfl
  simp only [Text.isBlank, Char.le_def, UInt32.le_iff_toNat_le, Bool.or_eq_true, Bool.and_eq_true,
    decide_eq_true_eq, beq_iff_eq, ← Char.toNat_inj, UInt32.reduceToNat, Char.reduceVal,
    Char.reduceToNat] at h
  omega

theorem not_isBlank_of_isWordChar {c : Char} (h : isWordChar c = true) :
    Text.isBlank c = false := by
  refine Bool.eq_false_iff.mpr fun hc => ?_
  have := toNat_of_isWordChar h
  have := toNat_of_isBlank hc
  omega

theorem not_isWordChar_of_isBlank {c : Char} (h : Text.isBlank c = true) :
    isWordChar c = false := by
  refine Bool.eq_false_iff.mpr fun hc => ?_
  simp [not_isBlank_of_isWordChar hc] at h

theorem skipBlanks_append {blanks rest : List Char} (h : ∀ c ∈ blanks, Text.isBlank c = true) :
    Text.skipBlanks (blanks ++ rest) = Text.skipBlanks rest := by
  simp [Text.skipBlanks, List.dropWhile_append_of_pos h]

theorem skipBlanks_cons {c : Char} {rest : List Char} (h : Text.isBlank c = false) :
    Text.skipBlanks (c :: rest) = c :: rest := by
  simp [Text.skipBlanks, h]

/-- Blanks in front of what is no blank are split off in one way. -/
theorem afterBlanks?_append {blanks rest : List Char} (h : IsBlanks blanks) :
    afterBlanks? (blanks ++ rest) = some (Text.skipBlanks rest) := by
  obtain ⟨hne, hall⟩ := h
  cases blanks with
  | nil => exact absurd rfl hne
  | cons c blanks =>
    simp only [List.forall_mem_cons] at hall
    simp [afterBlanks?, hall.1, skipBlanks_append hall.2]

theorem exists_of_afterBlanks? {text rest : List Char} (h : afterBlanks? text = some rest) :
    ∃ blanks, IsBlanks blanks ∧ text = blanks ++ rest := by
  cases text with
  | nil => simp [afterBlanks?] at h
  | cons c text =>
    simp only [afterBlanks?, Option.ite_none_right_eq_some, Option.some.injEq] at h
    obtain ⟨hc, rfl⟩ := h
    refine ⟨c :: text.takeWhile Text.isBlank, ⟨by simp, ?_⟩, ?_⟩
    · simp only [List.forall_mem_cons]
      exact ⟨hc, List.all_eq_true.mp List.all_takeWhile⟩
    · simp [Text.skipBlanks]

theorem afterWord?_eq_some {word : String} {text rest : List Char} :
    afterWord? word text = some rest ↔ text = word.toList ++ rest := by
  simp only [afterWord?, Option.ite_none_right_eq_some, Option.some.injEq,
    List.isPrefixOf_iff_prefix]
  constructor
  · rintro ⟨⟨post, rfl⟩, rfl⟩
    simp
  · rintro rfl
    simp

theorem splitName?_append {name : List Char} (h : IsName name) (c : Char) (rest : List Char)
    (hc : isWordChar c = false) : splitName? (name ++ c :: rest) = some (name, c :: rest) := by
  obtain ⟨hne, hall⟩ := h
  have htake : (name ++ c :: rest).takeWhile isWordChar = name := by
    simp [List.takeWhile_append_of_pos hall, hc]
  have hdrop : (name ++ c :: rest).dropWhile isWordChar = c :: rest := by
    simp [List.dropWhile_append_of_pos hall, hc]
  rw [splitName?, htake, hdrop]
  cases name with
  | nil => exact absurd rfl hne
  | cons d name => rfl

theorem exists_of_splitName? {text name rest : List Char}
    (h : splitName? text = some (name, rest)) : IsName name ∧ text = name ++ rest := by
  have hsplit := List.takeWhile_append_dropWhile (p := isWordChar) (l := text)
  have hall : ∀ c ∈ text.takeWhile isWordChar, isWordChar c = true :=
    List.all_eq_true.mp List.all_takeWhile
  rw [splitName?] at h
  cases htake : text.takeWhile isWordChar with
  | nil => simp [htake] at h
  | cons d word =>
    rw [htake] at h hsplit hall
    obtain ⟨rfl, rfl⟩ : d :: word = name ∧ text.dropWhile isWordChar = rest := by simpa using h
    exact ⟨⟨by simp, hall⟩, hsplit.symm⟩

theorem splitName?_isSome {name : List Char} (h : IsName name) (rest : List Char) :
    (splitName? (name ++ rest)).isSome = true := by
  obtain ⟨hne, hall⟩ := h
  cases name with
  | nil => exact absurd rfl hne
  | cons c name => simp [splitName?, hall c List.mem_cons_self]

theorem IsName.exists_cons {name : List Char} (h : IsName name) (rest : List Char) :
    ∃ c tail, name ++ rest = c :: tail ∧ Text.isBlank c = false := by
  obtain ⟨hne, hall⟩ := h
  cases name with
  | nil => exact absurd rfl hne
  | cons c name =>
    exact ⟨c, name ++ rest, rfl, not_isBlank_of_isWordChar (hall c List.mem_cons_self)⟩

theorem skipBlanks_name {name : List Char} (h : IsName name) (rest : List Char) :
    Text.skipBlanks (name ++ rest) = name ++ rest := by
  obtain ⟨c, tail, heq, hc⟩ := h.exists_cons rest
  rw [heq, skipBlanks_cons hc]

theorem isName_public : IsName "public".toList :=
  isName_of_all rfl rfl

theorem isName_function : IsName "function".toList :=
  isName_of_all rfl rfl

/-- Behind a name come blanks or a parenthesis, so a name is read to its end. -/
theorem splitName?_blanks {name blanks : List Char} (h : IsName name)
    (hb : ∀ c ∈ blanks, Text.isBlank c = true) (rest : List Char) :
    splitName? (name ++ (blanks ++ '(' :: rest)) = some (name, blanks ++ '(' :: rest) := by
  cases blanks with
  | nil => exact splitName?_append h '(' rest (by decide)
  | cons c blanks =>
    exact splitName?_append h c _ (not_isWordChar_of_isBlank (hb c List.mem_cons_self))

theorem readMethod_append {name tail : List Char} (h : MethodTail name tail) (rest : List Char) :
    readMethod (tail ++ rest) = some (String.ofList name) := by
  obtain ⟨a, b, d, ha, hb, hname, hd⟩ := h
  have hparen : Text.skipBlanks (d ++ '(' :: rest) = '(' :: rest := by
    rw [skipBlanks_append hd, skipBlanks_cons (by decide)]
  simp only [List.append_assoc, List.singleton_append, readMethod, Option.bind_eq_bind,
    afterBlanks?_append ha, skipBlanks_name isName_function, Option.bind_some,
    afterWord?_eq_some.mpr rfl, afterBlanks?_append hb, skipBlanks_name hname,
    splitName?_blanks hname hd, hparen]

theorem exists_of_readMethod {after : List Char} {name : String}
    (h : readMethod after = some name) : ∃ tail, MethodTail name.toList tail ∧ tail <+: after := by
  simp only [readMethod, Option.bind_eq_bind, Option.bind_eq_some_iff] at h
  obtain ⟨t1, h1, t2, h2, t3, h3, ⟨word, t4⟩, h4, h5⟩ := h
  obtain ⟨a, ha, rfl⟩ := exists_of_afterBlanks? h1
  obtain rfl := afterWord?_eq_some.mp h2
  obtain ⟨b, hb, rfl⟩ := exists_of_afterBlanks? h3
  obtain ⟨hname, rfl⟩ := exists_of_splitName? h4
  have hblanks := List.takeWhile_append_dropWhile (p := Text.isBlank) (l := t4)
  simp only at h5
  split at h5
  · next rest hrest =>
    obtain rfl := Option.some.inj h5
    rw [Text.skipBlanks] at hrest
    rw [hrest] at hblanks
    have htail := MethodTail.intro a b (t4.takeWhile Text.isBlank) ha hb hname
      (List.all_eq_true.mp List.all_takeWhile)
    rw [← String.toList_ofList (l := word)] at htail
    exact ⟨_, htail, rest, by simp [hblanks]⟩
  · simp at h5

theorem readMethod_eq_some {after : List Char} {name : String} :
    readMethod after = some name ↔ ∃ tail, MethodTail name.toList tail ∧ tail <+: after := by
  constructor
  · exact exists_of_readMethod
  · rintro ⟨tail, htail, rest, rfl⟩
    rw [readMethod_append htail, String.ofList_toList]

theorem readClassName_isSome {after : List Char} :
    (readClassName after).isSome = true ↔ ∃ tail, ClassTail tail ∧ tail <+: after := by
  constructor
  · intro h
    obtain ⟨name, hname⟩ := Option.isSome_iff_exists.mp h
    simp only [readClassName, Option.map_eq_some_iff, Option.bind_eq_some_iff] at hname
    obtain ⟨⟨word, rest⟩, ⟨text, h1, h2⟩, -⟩ := hname
    obtain ⟨a, ha, rfl⟩ := exists_of_afterBlanks? h1
    obtain ⟨hword, rfl⟩ := exists_of_splitName? h2
    exact ⟨a ++ word, .intro a word ha hword, rest, by simp⟩
  · rintro ⟨tail, ⟨a, name, ha, hname⟩, rest, rfl⟩
    simp only [readClassName, List.append_assoc, afterBlanks?_append ha, skipBlanks_name hname,
      Option.bind_some, Option.isSome_map]
    exact splitName?_isSome hname rest

end RouteLens.Controller
