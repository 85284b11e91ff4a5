import RouteLens.Proofs.Controller.Grammar

/-!
# Public methods of a source

The scan for public methods finds exactly the declarations that the grammar admits, each once and
from left to right. The text of a declaration is fixed by the place where it starts, and the texts
of two declarations never overlap. Places are offsets among the octets of the source.
-/

namespace RouteLens.Controller

open Source
open Utf8 (encode)

/-- The text of the declaration of a public method, from its keyword to its parenthesis. -/
def MethodText (name : String) (text : List Char) : Prop :=
  ∃ tail, text = "public".toList ++ tail ∧ MethodTail name.toList tail

/-- The text of the declaration of a class, from its keyword to the end of a name. -/
def ClassText (text : List Char) : Prop :=
  ∃ tail, text = "class".toList ++ tail ∧ ClassTail tail

/-- At offset `p` the octets read as the declaration of a public method, in the words of `text`. -/
def MethodAt (octets : Bytes) (p : Nat) (name : String) (text : List Char) : Prop :=
  WordAt octets p text ∧ MethodText name text

/-- At offset `p` the octets read as the declaration of a class, in the words of `text`. -/
def ClassAt (octets : Bytes) (p : Nat) (text : List Char) : Prop :=
  WordAt octets p text ∧ ClassText text

theorem mem_publicMethods {source : List Char} {p : Nat} {name : String} :
    (p, name) ∈ publicMethods source ↔ ∃ text, MethodAt (encode source) p name text := by
  simp only [publicMethods, List.mem_filterMap, Option.map_eq_some_iff, Prod.mk.injEq,
    readMethod_eq_some]
  constructor
  · rintro ⟨site, hsite, name', ⟨tail, htail, hafter⟩, hp, rfl⟩
    have hword := (exists_site_iff isKeyword_public).mp ⟨site, hsite, hp, hafter⟩
    exact ⟨_, hword, tail, rfl, htail⟩
  · rintro ⟨text, hword, tail, rfl, htail⟩
    obtain ⟨site, hsite, hp, hafter⟩ := (exists_site_iff isKeyword_public).mpr hword
    exact ⟨site, hsite, name, ⟨tail, htail, hafter⟩, hp, rfl⟩

theorem publicMethods_increasing (source : List Char) :
    (publicMethods source).Pairwise (fun m n => m.1 < n.1) := by
  rw [publicMethods, List.pairwise_filterMap]
  refine (keywordSites_increasing isKeyword_public source).imp fun {s t} hst => ?_
  simp only [Option.map_eq_some_iff]
  rintro _ ⟨name, -, rfl⟩ _ ⟨name', -, rfl⟩
  exact hst

theorem className?_isSome {source : List Char} :
    (className? source).isSome = true ↔ ∃ p text, ClassAt (encode source) p text := by
  simp only [className?, List.findSome?_isSome_iff, readClassName_isSome]
  constructor
  · rintro ⟨site, hsite, tail, htail, hafter⟩
    have hword := (exists_site_iff isKeyword_class).mp ⟨site, hsite, rfl, hafter⟩
    exact ⟨_, _, hword, tail, rfl, htail⟩
  · rintro ⟨p, text, hword, tail, rfl, htail⟩
    obtain ⟨site, hsite, -, hafter⟩ := (exists_site_iff isKeyword_class).mpr hword
    exact ⟨site, hsite, tail, htail, hafter⟩

/-! ## Texts of declarations -/

theorem MethodText.exists_cons {n : String} {t : List Char} (h : MethodText n t) :
    ∃ rest, t = 'p' :: rest := by
  obtain ⟨tail, rfl, -⟩ := h
  exact ⟨_, rfl⟩

/-- The parenthesis at its end is the only one in the text of a declaration. -/
theorem MethodText.exists_concat {name : String} {text : List Char} (h : MethodText name text) :
    ∃ init, text = init ++ ['('] ∧ '(' ∉ init := by
  obtain ⟨_, rfl, a, b, d, ⟨-, ha⟩, ⟨-, hb⟩, ⟨-, hname⟩, hd⟩ := h
  refine ⟨"public".toList ++ (a ++ ("function".toList ++ (b ++ (name.toList ++ d)))), by simp, ?_⟩
  have blank : ∀ {l : List Char}, (∀ c ∈ l, Text.isBlank c = true) → '(' ∉ l :=
    fun hl hmem => absurd (hl _ hmem) (by decide)
  have word : '(' ∉ name.toList := fun hmem => absurd (hname _ hmem) (by decide)
  simp [blank ha, blank hb, blank hd, word]

theorem takeWhile_concat {c : Char} {init : List Char} (h : c ∉ init) (rest : List Char) :
    (init ++ [c] ++ rest).takeWhile (· ≠ c) = init := by
  rw [List.append_assoc, List.takeWhile_append_of_pos]
  · simp
  · intro d hd
    have hne : d ≠ c := fun heq => h (heq ▸ hd)
    simpa using hne

/-- The end of a declaration that reads on like another one is that other one. -/
theorem MethodText.eq_of_suffix {m n : String} {front back u v w : List Char}
    (ht : MethodText m (front ++ back)) (hback : back ≠ []) (hu : MethodText n u)
    (h : back ++ v = u ++ w) : back = u := by
  obtain ⟨init, hinit, hnot⟩ := ht.exists_concat
  obtain ⟨init', rfl, hnot'⟩ := hu.exists_concat
  rcases List.eq_nil_or_concat back with rfl | ⟨back', c, rfl⟩
  · exact absurd rfl hback
  rw [List.concat_eq_append, ← List.append_assoc] at hinit
  obtain ⟨rfl, hc⟩ := List.append_inj' hinit rfl
  obtain rfl := List.singleton_inj.mp hc
  rw [List.concat_eq_append] at h ⊢
  have := congrArg (List.takeWhile (· ≠ '(')) h
  rw [takeWhile_concat (fun hmem => hnot (List.mem_append_right _ hmem)),
    takeWhile_concat hnot'] at this
  rw [this]

theorem MethodText.eq_of_append_eq {m n : String} {t u v w : List Char} (ht : MethodText m t)
    (hu : MethodText n u) (h : t ++ v = u ++ w) : t = u := by
  obtain ⟨t', rfl⟩ := ht.exists_cons
  have hnil : MethodText m ([] ++ 'p' :: t') := ht
  exact hnil.eq_of_suffix (List.cons_ne_nil _ _) hu h

theorem MethodText.name_eq {m n : String} {t : List Char} (hm : MethodText m t)
    (hn : MethodText n t) : m = n := by
  obtain ⟨tail, rfl, htail⟩ := hm
  obtain ⟨tail', heq, htail'⟩ := hn
  obtain rfl := List.append_cancel_left heq
  have := (readMethod_append htail []).symm.trans (readMethod_append htail' [])
  simpa using this

theorem append_cons_eq_append {c : Char} {a b mid rest : List Char} (hc : c ∉ a)
    (h : a ++ b = mid ++ c :: rest) : ∃ mid', mid = a ++ mid' ∧ b = mid' ++ c :: rest := by
  rcases List.append_eq_append_iff.mp h with ⟨l, h1, h2⟩ | ⟨l, h1, h2⟩
  · exact ⟨l, h1, h2⟩
  · cases l with
    | nil => exact ⟨[], by simpa using h1.symm, by simpa using h2.symm⟩
    | cons d l =>
      obtain ⟨rfl, -⟩ := List.cons.inj h2
      simp [h1] at hc

theorem blanks_append_eq {a b : List Char} {c d : Char} {rest rest' : List Char}
    (ha : ∀ c ∈ a, Text.isBlank c = true) (hb : ∀ c ∈ b, Text.isBlank c = true)
    (hc : Text.isBlank c = false) (hd : Text.isBlank d = false)
    (h : a ++ c :: rest = b ++ d :: rest') : c = d := by
  have := congrArg Text.skipBlanks h
  rw [skipBlanks_append ha, skipBlanks_append hb, skipBlanks_cons hc, skipBlanks_cons hd] at this
  exact (List.cons.inj this).1

/-- The name in a declaration is followed by a parenthesis, and `public` by another word. -/
theorem MethodText.ne_name {n : String} {u name d : List Char} (hu : MethodText n u)
    (hname : IsName name) (hd : ∀ c ∈ d, Text.isBlank c = true) : u ≠ name ++ (d ++ ['(']) := by
  rintro rfl
  obtain ⟨_, hsplit, a, b, d', ha, -, -, -⟩ := hu
  have hread := splitName?_blanks hname hd []
  rw [hsplit] at hread
  obtain ⟨e, a', rfl⟩ := List.exists_cons_of_ne_nil ha.1
  rw [List.cons_append, splitName?_append isName_public e _
    (not_isWordChar_of_isBlank (ha.2 e List.mem_cons_self))] at hread
  simp only [Option.some.injEq, Prod.mk.injEq] at hread
  have := blanks_append_eq ha.2 hd (by decide) (by decide) hread.2
  exact absurd this (by decide)

/-- Where the text of one declaration ends in that of another, the other starts inside a word. -/
theorem MethodText.isWordChar_of_inner {m n : String} {mid u : List Char} {c : Char}
    (ht : MethodText m (mid ++ c :: u)) (hu : MethodText n u) : isWordChar c = true := by
  obtain ⟨u', hu'⟩ := hu.exists_cons
  obtain ⟨_, hsplit, a, b, d, ⟨-, ha⟩, ⟨-, hb⟩, hname, hd⟩ := ht
  have noP : ∀ {l : List Char}, (∀ c ∈ l, Text.isBlank c = true) → 'p' ∉ l :=
    fun hl hmem => absurd (hl _ hmem) (by decide)
  cases mid with
  | nil =>
    obtain rfl : c = 'p' := (List.cons.inj hsplit).1
    decide
  | cons e mid =>
    -- before the name only the first letter is a `p`
    have hfront : 'p' ∉ "ublic".toList ++ (a ++ ("function".toList ++ b)) := by
      simp [noP ha, noP hb]
    have htail : ("ublic".toList ++ (a ++ ("function".toList ++ b))) ++ (m.toList ++ (d ++ ['('])) =
        (mid ++ [c]) ++ 'p' :: u' := by
      rw [show "public".toList = 'p' :: "ublic".toList from rfl, hu'] at hsplit
      have := (List.cons.inj hsplit).2
      simpa using this.symm
    obtain ⟨l, hmid, hl⟩ := append_cons_eq_append hfront htail
    rcases List.append_eq_append_iff.mp hl with ⟨l', h1, h2⟩ | ⟨l', h1, h2⟩
    · have hp : 'p' ∈ d ++ ['('] := by simp [h2]
      simp [noP hd] at hp
    · rcases List.eq_nil_or_concat l with rfl | ⟨l'', x, rfl⟩
      · rw [← hu', List.nil_append] at hl
        exact absurd hl.symm (hu.ne_name hname hd)
      · have hx : c = x := by
          rw [List.concat_eq_append, ← List.append_assoc] at hmid
          simpa using (List.append_inj' hmid rfl).2
        exact hname.2 c (by simp [h1, hx])

theorem MethodAt.exists_split {source : List Char} {p : Nat} {n : String} {t : List Char}
    (h : MethodAt (encode source) p n t) :
    ∃ pre post, source = pre ++ (t ++ post) ∧ (encode pre).length = p ∧
      Site.startsWord ⟨pre.getLast?, p, t ++ post⟩ = true := by
  obtain ⟨t', rfl⟩ := h.2.exists_cons
  exact (wordAt_iff_split (by decide)).mp h.1

theorem MethodAt.unique {source : List Char} {p : Nat} {m n : String} {t u : List Char}
    (ht : MethodAt (encode source) p m t) (hu : MethodAt (encode source) p n u) :
    m = n ∧ t = u := by
  obtain ⟨pre, post, hsource, hpre, -⟩ := ht.exists_split
  obtain ⟨pre', post', hsource', hpre', -⟩ := hu.exists_split
  have hsplit := hsource.symm.trans hsource'
  obtain rfl := Utf8.eq_of_append_eq_append hsplit (hpre.trans hpre'.symm)
  obtain rfl := ht.2.eq_of_append_eq hu.2 (List.append_cancel_left hsplit)
  exact ⟨ht.2.name_eq hu.2, rfl⟩

theorem MethodAt.disjoint {source : List Char} {p q : Nat} {m n : String} {t u : List Char}
    (ht : MethodAt (encode source) p m t) (hu : MethodAt (encode source) q n u) (hpq : p < q) :
    p + (encode t).length ≤ q := by
  obtain ⟨pre, post, hsource, rfl, -⟩ := ht.exists_split
  obtain ⟨pre', post', hsource', rfl, hstart⟩ := hu.exists_split
  rcases List.append_eq_append_iff.mp (hsource.symm.trans hsource') with
    ⟨l, rfl, hl⟩ | ⟨l, rfl, -⟩
  · rcases List.append_eq_append_iff.mp hl with ⟨k, rfl, -⟩ | ⟨k, rfl, hk⟩
    · simp
    · by_cases hnil : k = []
      · simp [hnil]
      -- the second declaration would start inside the first, behind a name character
      obtain rfl := ht.2.eq_of_suffix hnil hu.2 hk.symm
      rcases List.eq_nil_or_concat l with rfl | ⟨l', c, rfl⟩
      · simp at hpq
      rw [List.concat_eq_append] at hstart ht
      have hinner : MethodText m (l' ++ c :: k) := by simpa using ht.2
      simp [Site.startsWord, hinner.isWordChar_of_inner hu.2] at hstart
  · rw [Utf8.encode_append, List.length_append] at hpq
    omega

/-! ## Actions -/

theorem map_action_actionsFrom (className : String) (counted : Nat) (line : UInt32)
    (rest : List Char) (methods : List (Nat × String)) :
    (actionsFrom className counted line rest methods).map Action.action =
      methods.map fun m => className ++ "@" ++ m.2 := by
  induction methods generalizing counted line rest with
  | nil => rfl
  | cons m methods ih => simp [actionsFrom, Action.ofMethod, ih]

theorem actions_of_className?_none {source : String} (h : className? source.toList = none) :
    actions source = [] := by
  simp [actions, h]

theorem map_action_actions {source name : String} (h : className? source.toList = some name) :
    (actions source).map Action.action = (publicMethods source.toList).map fun m =>
      qualifiedName (namespacePath? source.toList) name ++ "@" ++ m.2 := by
  simp [actions, h, map_action_actionsFrom]

/-- The scan for public methods is sound, complete and in order: it returns, at strictly increasing
offsets, exactly the declarations of the grammar, of which no two start at one offset and no two
overlap. With a class declaration every one of them gives an action in that order, else none does. -/
theorem publicMethods_exact (source : String) :
    (publicMethods source.toList).Pairwise (fun m n => m.1 < n.1) ∧
    (∀ p name, (p, name) ∈ publicMethods source.toList ↔
      ∃ text, MethodAt (Utf8.encodeString source) p name text) ∧
    (∀ p m n t u, MethodAt (Utf8.encodeString source) p m t →
      MethodAt (Utf8.encodeString source) p n u → m = n ∧ t = u) ∧
    (∀ p q m n t u, MethodAt (Utf8.encodeString source) p m t →
      MethodAt (Utf8.encodeString source) q n u → p < q → p + (encode t).length ≤ q) ∧
    ((∃ p text, ClassAt (Utf8.encodeString source) p text) →
      ∃ name, className? source.toList = some name ∧
        (actions source).map Action.action = (publicMethods source.toList).map fun m =>
          qualifiedName (namespacePath? source.toList) name ++ "@" ++ m.2) ∧
    ((¬ ∃ p text, ClassAt (Utf8.encodeString source) p text) → actions source = []) := by
  refine ⟨publicMethods_increasing _, fun p name => mem_publicMethods,
    fun p m n t u => MethodAt.unique, fun p q m n t u => MethodAt.disjoint, ?_, ?_⟩
  · intro hclass
    obtain ⟨name, hname⟩ := Option.isSome_iff_exists.mp (className?_isSome.mpr hclass)
    exact ⟨name, hname, map_action_actions hname⟩
  · intro hclass
    apply actions_of_className?_none
    rw [← Option.not_isSome_iff_eq_none]
    exact fun hsome => hclass (className?_isSome.mp hsome)

example : publicMethods "public function public(public\u00a0function function ()".toList =
    [(0, "public"), (23, "function")] := by decide

end RouteLens.Controller
