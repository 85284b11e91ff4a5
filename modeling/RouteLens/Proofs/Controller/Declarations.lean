import RouteLens.Proofs.Controller.Methods

/-!
# The class and the namespace of a source

The name in front of every method comes from two declarations, each the leftmost one of its kind.
A class declaration gives the longest name that can be read there. A namespace declaration gives
what stands between the keyword and the next semicolon, without the blanks around it. The search
for a namespace ends at the first keyword that has a blank but no semicolon behind it; that loses
nothing, since no later keyword has a semicolon behind it either.
-/

namespace RouteLens.Source

open Utf8 (encode)

theorem isKeyword_namespace : IsKeyword "namespace" :=
  ⟨'n', ['a', 'm', 'e', 's', 'p', 'a', 'c', 'e'], rfl, by decide, by decide⟩

/-- What the leftmost place declares: `declares p a` says that `a` is declared at offset `p`. -/
inductive Leftmost {α : Type} (declares : Nat → α → Prop) : Option α → Prop
  | found (p : Nat) (a : α) : declares p a → (∀ q < p, ∀ b, ¬ declares q b) →
      Leftmost declares (some a)
  | nowhere : (∀ p a, ¬ declares p a) → Leftmost declares none

/-- There is one answer if no place declares two things. -/
theorem Leftmost.unique {α : Type} {declares : Nat → α → Prop} {x y : Option α}
    (hone : ∀ p a b, declares p a → declares p b → a = b)
    (hx : Leftmost declares x) (hy : Leftmost declares y) : x = y := by
  cases hx with
  | found p a ha hfirst =>
    cases hy with
    | found q b hb hfirst' =>
      have hpq : p = q := by
        have h1 : ¬ q < p := fun hlt => hfirst q hlt b hb
        have h2 : ¬ p < q := fun hlt => hfirst' p hlt a ha
        omega
      subst hpq
      rw [hone p a b ha hb]
    | nowhere hno => exact absurd ha (hno p a)
  | nowhere hno =>
    cases hy with
    | found q b hb _ => exact absurd hb (hno q b)
    | nowhere _ => rfl

theorem after_of_offset_eq {word : String} (hw : IsKeyword word) {whole : List Char} {s t : Site}
    (hs : s ∈ keywordSites word whole) (ht : t ∈ keywordSites word whole)
    (h : s.offset = t.offset) : s.after = t.after := by
  obtain ⟨pre, post, hwhole, rfl, -⟩ := (mem_keywordSites hw).mp hs
  obtain ⟨pre', post', hwhole', rfl, -⟩ := (mem_keywordSites hw).mp ht
  have hsplit : pre ++ (word.toList ++ post) = pre' ++ (word.toList ++ post') := by
    rw [← List.append_assoc, ← List.append_assoc, ← hwhole, ← hwhole']
  obtain rfl := Utf8.eq_of_append_eq_append hsplit h
  exact List.append_cancel_left (List.append_cancel_left hsplit)

/-- What a text after a keyword starts with is read in the octets at the place of the keyword. -/
theorem prefix_after_iff {word : String} (hw : IsKeyword word) {whole tail : List Char} {s : Site}
    (hs : s ∈ keywordSites word whole) :
    tail <+: s.after ↔ WordAt (encode whole) s.offset (word.toList ++ tail) := by
  constructor
  · intro h
    exact (exists_site_iff hw).mp ⟨s, hs, rfl, h⟩
  · intro h
    obtain ⟨t, ht, hoffset, htail⟩ := (exists_site_iff hw).mpr h
    rwa [after_of_offset_eq hw hs ht hoffset.symm]

/-- A later place has less text after it. -/
theorem after_suffix {word : String} (hw : IsKeyword word) {whole : List Char} {s t : Site}
    (hs : s ∈ keywordSites word whole) (ht : t ∈ keywordSites word whole)
    (h : s.offset < t.offset) : t.after <:+ s.after := by
  obtain ⟨pre, post, hwhole, rfl, -⟩ := (mem_keywordSites hw).mp hs
  obtain ⟨pre', post', hwhole', rfl, -⟩ := (mem_keywordSites hw).mp ht
  have hpost : post <:+ whole := ⟨pre ++ word.toList, hwhole.symm⟩
  have hpost' : post' <:+ whole := ⟨pre' ++ word.toList, hwhole'.symm⟩
  rcases List.suffix_or_suffix_of_suffix hpost' hpost with hle | ⟨more, rfl⟩
  · exact hle
  · -- the earlier place would have no more text after it than the later one
    have hlen := congrArg (fun text => (encode text).length) (hwhole.symm.trans hwhole')
    simp only [Utf8.encode_append, List.length_append] at hlen h
    omega

/-- The first place of a keyword whose text can be read is the leftmost place that declares. -/
theorem leftmost_findSome? {α : Type} {word : String} (hw : IsKeyword word) {whole : List Char}
    {declares : Nat → α → Prop} (read : List Char → Option α)
    (hread : ∀ s ∈ keywordSites word whole, ∀ a, read s.after = some a ↔ declares s.offset a)
    (hplace : ∀ p a, declares p a → ∃ s ∈ keywordSites word whole, s.offset = p) :
    Leftmost declares ((keywordSites word whole).findSome? fun s => read s.after) := by
  have hordered := keywordSites_increasing hw whole
  cases hfind : (keywordSites word whole).findSome? fun s => read s.after with
  | none =>
    refine .nowhere fun p a ha => ?_
    obtain ⟨s, hs, rfl⟩ := hplace p a ha
    have hnone := List.findSome?_eq_none_iff.mp hfind s hs
    rw [(hread s hs a).mpr ha] at hnone
    exact absurd hnone (Option.some_ne_none a)
  | some a =>
    obtain ⟨earlier, s, later, hsites, ha, hearlier⟩ := List.findSome?_eq_some_iff.mp hfind
    have hs : s ∈ keywordSites word whole := by simp [hsites]
    refine .found s.offset a ((hread s hs a).mp ha) fun q hq b hb => ?_
    obtain ⟨t, ht, rfl⟩ := hplace q b hb
    have hsome := (hread t ht b).mpr hb
    rw [hsites] at ht hordered
    rcases List.mem_append.mp ht with ht | ht
    · rw [hearlier t ht] at hsome
      exact absurd hsome.symm (Option.some_ne_none b)
    · have hle : ∀ u ∈ s :: later, s.offset ≤ u.offset := by
        obtain ⟨hlater, -⟩ := List.pairwise_cons.mp (List.pairwise_append.mp hordered).2.1
        intro u hu
        rcases List.mem_cons.mp hu with rfl | hu
        · exact Nat.le_refl _
        · exact Nat.le_of_lt (hlater u hu)
      have := hle t ht
      omega

end RouteLens.Source

namespace RouteLens.Controller

open Source
open Utf8 (encode)

theorem isName_class : IsName "class".toList :=
  isName_of_all rfl rfl

theorem isName_namespace : IsName "namespace".toList :=
  isName_of_all rfl rfl

/-! ## The class -/

/-- At offset `p` stands the keyword `class`, blanks, and name characters. -/
def ReadsClassName (octets : Bytes) (p : Nat) (name : List Char) : Prop :=
  ∃ blanks, IsBlanks blanks ∧ IsName name ∧
    WordAt octets p ("class".toList ++ (blanks ++ name))

/-- At offset `p` a class is declared: no longer name can be read there. -/
def ClassNameAt (octets : Bytes) (p : Nat) (name : List Char) : Prop :=
  ReadsClassName octets p name ∧ ∀ other, ReadsClassName octets p other → other <+: name

theorem ClassNameAt.unique {octets : Bytes} {p : Nat} {m n : List Char}
    (hm : ClassNameAt octets p m) (hn : ClassNameAt octets p n) : m = n := by
  have hmn := hn.2 m hm.1
  have hnm := hm.2 n hn.1
  exact hmn.eq_of_length (Nat.le_antisymm hmn.length_le hnm.length_le)

/-- Blanks and name characters at the start of a text are read, and the name to its end. -/
theorem exists_readClassName {blanks name after : List Char} (hb : IsBlanks blanks)
    (hname : IsName name) (h : blanks ++ name <+: after) :
    ∃ more, readClassName after = some (String.ofList (name ++ more)) ∧ IsName (name ++ more) ∧
      blanks ++ (name ++ more) <+: after := by
  obtain ⟨rest, rfl⟩ := h
  obtain ⟨⟨word, back⟩, hsplit⟩ := Option.isSome_iff_exists.mp (splitName?_isSome hname rest)
  obtain ⟨hword, hback⟩ := exists_of_splitName? hsplit
  have htake : word = (name ++ rest).takeWhile isWordChar := by
    rw [splitName?] at hsplit
    split at hsplit
    · simp at hsplit
    · exact (Prod.mk.inj (Option.some.inj hsplit)).1.symm
  rw [List.takeWhile_append_of_pos hname.2] at htake
  refine ⟨rest.takeWhile isWordChar, ?_, htake ▸ hword, ?_⟩
  · rw [readClassName, List.append_assoc, afterBlanks?_append hb, skipBlanks_name hname,
      Option.bind_some, hsplit, Option.map_some, htake]
  · rw [← htake, List.append_assoc, hback]
    exact ⟨back, by simp⟩

theorem exists_of_readClassName {after : List Char} {name : String}
    (h : readClassName after = some name) :
    ∃ blanks, IsBlanks blanks ∧ IsName name.toList ∧ blanks ++ name.toList <+: after := by
  simp only [readClassName, Option.map_eq_some_iff, Option.bind_eq_some_iff] at h
  obtain ⟨⟨word, rest⟩, ⟨text, h1, h2⟩, rfl⟩ := h
  obtain ⟨blanks, hb, rfl⟩ := exists_of_afterBlanks? h1
  obtain ⟨hword, rfl⟩ := exists_of_splitName? h2
  rw [String.toList_ofList]
  exact ⟨blanks, hb, hword, rest, by simp⟩

theorem readClassName_eq_some {whole : List Char} {s : Site} (hs : s ∈ keywordSites "class" whole)
    (name : List Char) :
    (readClassName s.after).map String.toList = some name ↔
      ClassNameAt (encode whole) s.offset name := by
  have hreads (other : List Char) : ReadsClassName (encode whole) s.offset other ↔
      ∃ blanks, IsBlanks blanks ∧ IsName other ∧ blanks ++ other <+: s.after := by
    simp only [ReadsClassName, prefix_after_iff isKeyword_class hs]
  have hlongest {other : List Char} (h : ReadsClassName (encode whole) s.offset other) :
      ∃ more, readClassName s.after = some (String.ofList (other ++ more)) ∧
        ReadsClassName (encode whole) s.offset (other ++ more) := by
    obtain ⟨blanks, hb, hother, hstart⟩ := (hreads other).mp h
    obtain ⟨more, hread, hmore, hstart'⟩ := exists_readClassName hb hother hstart
    exact ⟨more, hread, (hreads _).mpr ⟨blanks, hb, hmore, hstart'⟩⟩
  constructor
  · intro h
    obtain ⟨word, hread, rfl⟩ := Option.map_eq_some_iff.mp h
    refine ⟨(hreads _).mpr (exists_of_readClassName hread), fun other hother => ?_⟩
    obtain ⟨more, hread', -⟩ := hlongest hother
    rw [hread] at hread'
    rw [Option.some.inj hread', String.toList_ofList]
    exact List.prefix_append other more
  · rintro ⟨hname, hmax⟩
    obtain ⟨more, hread, hmore⟩ := hlongest hname
    have hnil : name ++ more = name :=
      (hmax _ hmore).eq_of_length (Nat.le_antisymm (hmax _ hmore).length_le (by simp))
    rw [hread, hnil, Option.map_some, String.toList_ofList]

/-- The scan names the class that is declared leftmost. -/
theorem leftmost_className? (source : List Char) :
    Leftmost (ClassNameAt (encode source)) ((className? source).map String.toList) := by
  have hplace : ∀ p name, ClassNameAt (encode source) p name →
      ∃ s ∈ keywordSites "class" source, s.offset = p := by
    rintro p name ⟨⟨blanks, -, -, hword⟩, -⟩
    obtain ⟨s, hs, hp, -⟩ := (exists_site_iff isKeyword_class).mpr hword
    exact ⟨s, hs, hp⟩
  rw [className?, List.map_findSome?]
  exact leftmost_findSome? isKeyword_class (fun after => (readClassName after).map String.toList)
    (fun s hs name => readClassName_eq_some hs name) hplace

/-! ## The namespace -/

/-- At offset `p` stands the keyword `namespace`, blanks, a path without semicolon, and a
semicolon. The path may itself begin or end with blanks. -/
structure NamespaceAt (octets : Bytes) (p : Nat) (blanks path : List Char) : Prop where
  reads : WordAt octets p ("namespace".toList ++ (blanks ++ (path ++ [';'])))
  isBlanks : IsBlanks blanks
  ne_nil : path ≠ []
  noSemicolon : ';' ∉ path

/-- At offset `p` a namespace is declared, and this is its path without the blanks around it. -/
def PathAt (octets : Bytes) (p : Nat) (path : List Char) : Prop :=
  ∃ blanks between, NamespaceAt octets p blanks between ∧ path = Text.trim between

/-- The path in front of the first semicolon, without the blanks around it. At least a blank and
one more character must stand there. -/
def pathBefore? : List Char → Option (List Char)
  | [] => none
  | c :: rest =>
    if Text.isBlank c = true ∧ ';' ∈ rest ∧ rest.takeWhile (· ≠ ';') ≠ [] then
      some (Text.trim (c :: rest.takeWhile (· ≠ ';')))
    else none

theorem trim_append {blanks : List Char} (h : ∀ c ∈ blanks, Text.isBlank c = true)
    (text : List Char) : Text.trim (blanks ++ text) = Text.trim text := by
  rw [Text.trim, skipBlanks_append h, Text.trim]

theorem not_mem_blanks {blanks : List Char} (h : IsBlanks blanks) : ';' ∉ blanks := by
  intro hmem
  exact absurd (h.2 _ hmem) (by decide)

/-- However blanks and path are split, the path without blanks is the same. -/
theorem pathBefore?_append {blanks path : List Char} (hb : IsBlanks blanks) (hne : path ≠ [])
    (hpath : ';' ∉ path) (rest : List Char) :
    pathBefore? (blanks ++ (path ++ ';' :: rest)) = some (Text.trim path) := by
  have hsemi := not_mem_blanks hb
  obtain ⟨hnil, hall⟩ := id hb
  cases blanks with
  | nil => exact absurd rfl hnil
  | cons c blanks =>
    have htake : (blanks ++ (path ++ ';' :: rest)).takeWhile (· ≠ ';') = blanks ++ path := by
      have hnot : ';' ∉ blanks ++ path := by
        simp only [List.mem_cons, not_or] at hsemi
        simp [hsemi.2, hpath]
      simpa using takeWhile_concat hnot rest
    have hcond : Text.isBlank c = true ∧ ';' ∈ blanks ++ (path ++ ';' :: rest) ∧
        (blanks ++ (path ++ ';' :: rest)).takeWhile (· ≠ ';') ≠ [] := by
      refine ⟨hall c List.mem_cons_self, by simp, ?_⟩
      rw [htake]
      simp [hne]
    rw [List.cons_append, pathBefore?, if_pos hcond, htake, ← List.cons_append, trim_append hall]

theorem exists_of_pathBefore? {after path : List Char} (h : pathBefore? after = some path) :
    ∃ blanks between, IsBlanks blanks ∧ between ≠ [] ∧ ';' ∉ between ∧
      blanks ++ (between ++ [';']) <+: after ∧ path = Text.trim between := by
  cases after with
  | nil => simp [pathBefore?] at h
  | cons c rest =>
    simp only [pathBefore?, Option.ite_none_right_eq_some, Option.some.injEq] at h
    obtain ⟨⟨hc, hmem, hne⟩, rfl⟩ := h
    have hblank : ∀ d ∈ [c], Text.isBlank d = true := by simpa using hc
    obtain ⟨between, back, rfl, hnot⟩ := List.eq_append_cons_of_mem hmem
    have htake : (between ++ ';' :: back).takeWhile (· ≠ ';') = between := by
      simpa using takeWhile_concat hnot back
    rw [htake] at hne ⊢
    refine ⟨[c], between, ⟨List.cons_ne_nil c [], hblank⟩, hne, hnot, ⟨back, by simp⟩, ?_⟩
    exact trim_append hblank between

theorem pathBefore?_eq_some {whole : List Char} {s : Site}
    (hs : s ∈ keywordSites "namespace" whole) (path : List Char) :
    pathBefore? s.after = some path ↔ PathAt (encode whole) s.offset path := by
  constructor
  · intro h
    obtain ⟨blanks, between, hb, hne, hnot, hstart, rfl⟩ := exists_of_pathBefore? h
    exact ⟨blanks, between, ⟨(prefix_after_iff isKeyword_namespace hs).mp hstart, hb, hne, hnot⟩,
      rfl⟩
  · rintro ⟨blanks, between, ⟨hword, hb, hne, hnot⟩, rfl⟩
    obtain ⟨rest, hrest⟩ := (prefix_after_iff isKeyword_namespace hs).mpr hword
    rw [← hrest]
    simpa using pathBefore?_append hb hne hnot rest

theorem PathAt.exists_site {whole : List Char} {p : Nat} {path : List Char}
    (h : PathAt (encode whole) p path) : ∃ s ∈ keywordSites "namespace" whole, s.offset = p := by
  obtain ⟨blanks, between, ⟨hword, -⟩, -⟩ := h
  obtain ⟨s, hs, hp, -⟩ := (exists_site_iff isKeyword_namespace).mpr hword
  exact ⟨s, hs, hp⟩

theorem PathAt.unique {whole : List Char} {p : Nat} {x y : List Char}
    (hx : PathAt (encode whole) p x) (hy : PathAt (encode whole) p y) : x = y := by
  obtain ⟨s, hs, rfl⟩ := hx.exists_site
  have hx' := (pathBefore?_eq_some hs x).mpr hx
  have hy' := (pathBefore?_eq_some hs y).mpr hy
  exact Option.some.inj (hx'.symm.trans hy')

/-- The path that goes in front of a class name: none if only blanks were declared. -/
def pathPrefix? (path : List Char) : Option String :=
  if path = [] then none else some (String.ofList path)

theorem pathBefore?_of_not_mem {after : List Char} (h : ';' ∉ after) :
    pathBefore? after = none := by
  cases after with
  | nil => rfl
  | cons c rest =>
    simp only [List.mem_cons, not_or] at h
    simp [pathBefore?, h.2]

/-- What the scan reads at one place: a declaration, which ends the search; nothing at all and no
semicolon either, which ends it too; or nothing. -/
theorem readNamespace_cases (after : List Char) :
    (∃ path, pathBefore? after = some path ∧ readNamespace after = .stop (pathPrefix? path)) ∨
    (';' ∉ after ∧ readNamespace after = .stop none) ∨
    (pathBefore? after = none ∧ readNamespace after = .pass) := by
  cases after with
  | nil => exact .inr (.inr ⟨rfl, rfl⟩)
  | cons c rest =>
    by_cases hc : Text.isBlank c = true
    · by_cases hmem : ';' ∈ rest
      · cases htake : rest.takeWhile (· ≠ ';') with
        | nil =>
          refine .inr (.inr ⟨?_, ?_⟩)
          · rw [pathBefore?, if_neg]
            rintro ⟨-, -, hne⟩
            exact hne htake
          · simp only [readNamespace, hc, hmem, if_true, List.contains_eq_mem, decide_true, htake]
        | cons d path =>
          refine .inl ⟨Text.trim (c :: d :: path), ?_, ?_⟩
          · rw [pathBefore?, htake, if_pos ⟨hc, hmem, List.cons_ne_nil _ _⟩]
          · simp only [readNamespace, hc, hmem, if_true, List.contains_eq_mem, decide_true, htake,
              pathPrefix?]
            split
            · next hnil => simp [hnil]
            · next hnil => rw [if_neg (fun heq => hnil heq)]
      · have hne : ';' ≠ c := by
          rintro rfl
          exact absurd hc (by decide)
        exact .inr (.inl (by simp [readNamespace, hc, hmem, hne]))
    · exact .inr (.inr (by simp [pathBefore?, readNamespace, hc]))

/-- Ending the search where no semicolon follows loses no declaration: places further on have no
semicolon behind them either. -/
theorem firstNamespace_eq {sites : List Site}
    (h : sites.Pairwise (fun s t => t.after <:+ s.after)) :
    firstNamespace sites = (sites.findSome? fun s => pathBefore? s.after).bind pathPrefix? := by
  induction sites with
  | nil => rfl
  | cons s rest ih =>
    obtain ⟨hlater, hrest⟩ := List.pairwise_cons.mp h
    rw [firstNamespace, List.findSome?_cons]
    rcases readNamespace_cases s.after with ⟨path, hpath, hread⟩ | ⟨hsemi, hread⟩ | ⟨hpath, hread⟩
    · simp [hpath, hread]
    · have hnone : rest.findSome? (fun t => pathBefore? t.after) = none := by
        rw [List.findSome?_eq_none_iff]
        intro t ht
        exact pathBefore?_of_not_mem fun hmem => hsemi ((hlater t ht).subset hmem)
      simp [pathBefore?_of_not_mem hsemi, hread, hnone]
    · simp [hpath, hread, ih hrest]

theorem namespacePath?_eq (source : List Char) :
    namespacePath? source =
      ((keywordSites "namespace" source).findSome? fun s => pathBefore? s.after).bind
        pathPrefix? := by
  have hsuffix : (keywordSites "namespace" source).Pairwise (fun s t => t.after <:+ s.after) :=
    (keywordSites_increasing isKeyword_namespace source).imp_of_mem
      fun hs ht hlt => after_suffix isKeyword_namespace hs ht hlt
  exact firstNamespace_eq hsuffix

/-- The scan takes its path from the namespace that is declared leftmost. -/
theorem leftmost_namespacePath? (source : List Char) :
    ∃ path, Leftmost (PathAt (encode source)) path ∧
      namespacePath? source = path.bind pathPrefix? := by
  have hplace : ∀ p path, PathAt (encode source) p path →
      ∃ s ∈ keywordSites "namespace" source, s.offset = p :=
    fun p path h => h.exists_site
  have hleftmost := leftmost_findSome? isKeyword_namespace pathBefore?
    (fun s hs path => pathBefore?_eq_some hs path) hplace
  exact ⟨_, hleftmost, namespacePath?_eq source⟩

theorem pathBefore?_eq_none {after : List Char} :
    pathBefore? after = none ↔
      (∀ c, Text.isBlank c = true → ¬ [c] <+: after) ∨
      (∃ c, Text.isBlank c = true ∧ [c, ';'] <+: after) ∨
      ∀ between, ¬ between ++ [';'] <+: after := by
  have hmem (text : List Char) : (∀ between, ¬ between ++ [';'] <+: text) ↔ ';' ∉ text := by
    constructor
    · intro h hsemi
      obtain ⟨between, back, rfl⟩ := List.append_of_mem hsemi
      exact h between ⟨back, by simp⟩
    · rintro h between ⟨back, rfl⟩
      simp at h
  rw [hmem]
  cases after with
  | nil => simp [pathBefore?]
  | cons c rest =>
    by_cases hc : Text.isBlank c = true
    · have hne : ';' ≠ c := by
        rintro rfl
        exact absurd hc (by decide)
      have hblank : ¬ ∀ d, Text.isBlank d = true → ¬ [d] <+: c :: rest := by
        intro hno
        exact hno c hc ⟨rest, rfl⟩
      cases rest with
      | nil => simp [pathBefore?, hne]
      | cons d rest =>
        by_cases hd : d = ';'
        · subst hd
          have hclose : ∃ e, Text.isBlank e = true ∧ [e, ';'] <+: c :: ';' :: rest :=
            ⟨c, hc, rest, rfl⟩
          have hnone : pathBefore? (c :: ';' :: rest) = none := by simp [pathBefore?]
          exact iff_of_true hnone (.inr (.inl hclose))
        · have hopen : ¬ ∃ e, Text.isBlank e = true ∧ [e, ';'] <+: c :: d :: rest := by
            rintro ⟨e, -, hstart⟩
            simp [List.cons_prefix_cons, Ne.symm hd] at hstart
          rw [or_iff_right hblank, or_iff_right hopen]
          simp [pathBefore?, hc, hd, hne, Ne.symm hd]
    · have hno : ∀ d, Text.isBlank d = true → ¬ [d] <+: c :: rest := by
        intro d hd hstart
        rw [List.cons_prefix_cons] at hstart
        exact hc (hstart.1 ▸ hd)
      have hnone : pathBefore? (c :: rest) = none := by simp [pathBefore?, hc]
      exact iff_of_true hnone (.inl hno)

/-- A keyword declares no namespace if no blank follows, or one blank and at once a semicolon, or
no semicolon at all. -/
theorem not_pathAt_iff {whole : List Char} {p : Nat}
    (hword : WordAt (encode whole) p "namespace".toList) :
    (∀ path, ¬ PathAt (encode whole) p path) ↔
      (∀ c, Text.isBlank c = true → ¬ WordAt (encode whole) p ("namespace".toList ++ [c])) ∨
      (∃ c, Text.isBlank c = true ∧ WordAt (encode whole) p ("namespace".toList ++ [c, ';'])) ∨
      ∀ between, ¬ WordAt (encode whole) p ("namespace".toList ++ (between ++ [';'])) := by
  rw [← List.append_nil "namespace".toList] at hword
  obtain ⟨s, hs, rfl, -⟩ := (exists_site_iff isKeyword_namespace).mpr hword
  have hnone : (∀ path, ¬ PathAt (encode whole) s.offset path) ↔ pathBefore? s.after = none := by
    rw [Option.eq_none_iff_forall_ne_some]
    simp only [ne_eq, pathBefore?_eq_some hs]
  rw [hnone, pathBefore?_eq_none]
  simp only [prefix_after_iff isKeyword_namespace hs]

/-! ## Names of actions -/

/-- The name in front of every method comes from the class that is declared leftmost, and the path
in front of that from the namespace that is declared leftmost. Without a class there are no actions;
a namespace of blanks only puts no path in front, and no later one counts. Which keywords declare no
namespace is said last. -/
theorem actions_leftmost (source : String) :
    ∃ name path, Leftmost (ClassNameAt (Utf8.encodeString source)) name ∧
      Leftmost (PathAt (Utf8.encodeString source)) path ∧
      (∀ name', Leftmost (ClassNameAt (Utf8.encodeString source)) name' → name' = name) ∧
      (∀ path', Leftmost (PathAt (Utf8.encodeString source)) path' → path' = path) ∧
      (name = none → actions source = []) ∧
      (∀ c, name = some c → path = none ∨ path = some [] →
        (actions source).map Action.action = (publicMethods source.toList).map fun m =>
          String.ofList c ++ "@" ++ m.2) ∧
      (∀ c t, name = some c → path = some t → t ≠ [] →
        (actions source).map Action.action = (publicMethods source.toList).map fun m =>
          String.ofList t ++ "\\" ++ String.ofList c ++ "@" ++ m.2) ∧
      ∀ p, WordAt (Utf8.encodeString source) p "namespace".toList →
        ((∀ t, ¬ PathAt (Utf8.encodeString source) p t) ↔
          (∀ c, Text.isBlank c = true →
            ¬ WordAt (Utf8.encodeString source) p ("namespace".toList ++ [c])) ∨
          (∃ c, Text.isBlank c = true ∧
            WordAt (Utf8.encodeString source) p ("namespace".toList ++ [c, ';'])) ∨
          ∀ between,
            ¬ WordAt (Utf8.encodeString source) p ("namespace".toList ++ (between ++ [';']))) := by
  have hclass := leftmost_className? source.toList
  obtain ⟨path, hpath, heq⟩ := leftmost_namespacePath? source.toList
  have hactions {c : List Char} (h : (className? source.toList).map String.toList = some c) :
      (actions source).map Action.action = (publicMethods source.toList).map fun m =>
        qualifiedName (path.bind pathPrefix?) (String.ofList c) ++ "@" ++ m.2 := by
    obtain ⟨name, hname, rfl⟩ := Option.map_eq_some_iff.mp h
    rw [String.ofList_toList, ← heq]
    exact map_action_actions hname
  have hone : ∀ p a b, PathAt (Utf8.encodeString source) p a →
      PathAt (Utf8.encodeString source) p b → a = b :=
    fun p a b ha hb => PathAt.unique ha hb
  refine ⟨_, path, hclass, hpath, fun name' h => ?_, fun path' h => ?_, fun h => ?_, ?_, ?_,
    fun p hword => not_pathAt_iff hword⟩
  · exact h.unique (fun _ _ _ ha hb => ha.unique hb) hclass
  · exact h.unique hone hpath
  · exact actions_of_className?_none (Option.map_eq_none_iff.mp h)
  · intro c hc hnone
    have hno : path.bind pathPrefix? = none := by
      rcases hnone with rfl | rfl <;> rfl
    rw [hactions hc, hno, qualifiedName]
  · rintro c t hc rfl ht
    have hsome : (some t).bind pathPrefix? = some (String.ofList t) := by simp [pathPrefix?, ht]
    rw [hactions hc, hsome, qualifiedName]

example : (actions "namespace;namespace \u00a0App\\Http ; class\u00a0 class public function f(").map
    Action.action = ["App\\Http\\class@f"] := by decide

end RouteLens.Controller
