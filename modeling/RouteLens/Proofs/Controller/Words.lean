import RouteLens.Proofs.Controller.Declarations

/-!
# A source word by word

A text can be read as words with something between them. A pattern of the scan starts at a keyword
and goes on with a blank, so it is found only at a word that is the keyword itself, never inside a
longer one (`Pattern.foundFrom_phrase`). What the scan finds in a text is thereby found one word at
a time.
-/

namespace RouteLens.Controller

open Source
open Utf8 (encode)

/-- What stands between two words: no name character, and no dollar sign, behind which no word
starts. -/
def IsGap (text : List Char) : Prop :=
  text ≠ [] ∧ ∀ c ∈ text, isWordChar c = false ∧ c ≠ '$'

theorem isGap_of_all {text : List Char} (hne : text.isEmpty = false)
    (h : text.all (fun c => !isWordChar c && c != '$') = true) : IsGap text := by
  refine ⟨by simpa using hne, fun c hc => ?_⟩
  simpa using List.all_eq_true.mp h c hc

/-- A word may start behind this text. -/
def Opens (passed : List Char) : Prop :=
  ∀ c ∈ passed.getLast?, isWordChar c = false ∧ c ≠ '$'

/-- A word, and the gap between it and the next one. -/
structure Phrase where
  word : List Char
  gap : List Char
  isName : IsName word
  isGap : IsGap gap

/-- The text of a phrase. -/
def Phrase.text (p : Phrase) : List Char :=
  p.word ++ p.gap

/-- What the scan looks for: a keyword, and a reader of what follows it, which starts with a
blank. -/
structure Pattern (α : Type) where
  keyword : String
  read : List Char → Option α
  isKeyword : IsKeyword keyword
  isName : IsName keyword.toList
  blank_first : ∀ c rest, Text.isBlank c = false → read (c :: rest) = none

theorem startsWord_iff {passed after : List Char} {offset : Nat} :
    Site.startsWord ⟨passed.getLast?, offset, after⟩ = true ↔ Opens passed := by
  rw [Opens]
  cases passed.getLast? <;> simp [Site.startsWord]

theorem Opens.append_gap {gap : List Char} (h : IsGap gap) (passed : List Char) :
    Opens (passed ++ gap) := by
  intro c hc
  rw [List.getLast?_append, List.getLast?_eq_some_getLast h.1, Option.some_or] at hc
  obtain rfl := Option.some.inj hc
  exact h.2 _ (List.getLast_mem h.1)

theorem Opens.append_text (p : Phrase) (passed : List Char) : Opens (passed ++ p.text) := by
  rw [Phrase.text, ← List.append_assoc]
  exact Opens.append_gap p.isGap _

theorem not_opens_concat {c : Char} (h : isWordChar c = true) (passed : List Char) :
    ¬ Opens (passed ++ [c]) := by
  intro hopens
  have := (hopens c (by simp)).1
  rw [h] at this
  exact absurd this (by decide)

/-- A word at the start of a text is the first word of that text or the start of it. -/
theorem exists_of_prefix_word {word name rest : List Char} {c : Char} (hword : IsName word)
    (hc : isWordChar c = false) (h : word <+: name ++ c :: rest) : ∃ more, name = word ++ more := by
  obtain ⟨after, hafter⟩ := h
  rcases List.append_eq_append_iff.mp hafter with ⟨more, hname, -⟩ | ⟨more, rfl, hmore⟩
  · exact ⟨more, hname⟩
  · cases more with
    | nil => exact ⟨[], by simp⟩
    | cons d more =>
      obtain ⟨rfl, -⟩ := List.cons.inj hmore
      have := hword.2 c (by simp)
      rw [hc] at this
      exact absurd this (by decide)

namespace Pattern

variable {α : Type} (P : Pattern α)

/-- What is found in `rest`, with the offsets; the text `passed` lies before it. -/
def foundFrom (passed rest : List Char) : List (Nat × α) :=
  ((everySite P.keyword.toList passed.getLast? (encode passed).length rest).filter
    Site.startsWord).filterMap fun s => (P.read s.after).map (s.offset, ·)

theorem filterMap_keywordSites (source : List Char) :
    (keywordSites P.keyword source).filterMap (fun s => (P.read s.after).map (s.offset, ·)) =
      P.foundFrom [] source := by
  rw [keywordSites_eq P.isKeyword]
  rfl

theorem findSome?_keywordSites (source : List Char) :
    (keywordSites P.keyword source).findSome? (fun s => P.read s.after) =
      (P.foundFrom [] source).head?.map Prod.snd := by
  rw [← filterMap_keywordSites, List.head?_filterMap, List.map_findSome?]
  congr 1
  funext s
  cases h : P.read s.after <;> simp [h]

theorem foundFrom_cons_of_prefix {passed rest after : List Char} {c : Char} (hp : Opens passed)
    (h : c :: rest = P.keyword.toList ++ after) :
    P.foundFrom passed (c :: rest) =
      (P.read after).toList.map ((encode passed).length, ·) ++
        P.foundFrom (passed ++ [c]) rest := by
  have hpre : P.keyword.toList.isPrefixOf (c :: rest) = true := by
    rw [List.isPrefixOf_iff_prefix]
    exact ⟨after, h.symm⟩
  have hafter : (c :: rest).drop P.keyword.toList.length = after := by simp [h]
  have hstart : Site.startsWord ⟨passed.getLast?, (encode passed).length, after⟩ = true :=
    startsWord_iff.mpr hp
  rw [foundFrom, everySite, if_pos hpre, hafter, List.filter_cons_of_pos hstart,
    List.filterMap_cons]
  cases P.read after <;> simp [foundFrom]

/-- A character is passed where the keyword does not start, or where no word may start. -/
theorem foundFrom_cons_of_not {passed rest : List Char} {c : Char}
    (h : P.keyword.toList <+: c :: rest → ¬ Opens passed) :
    P.foundFrom passed (c :: rest) = P.foundFrom (passed ++ [c]) rest := by
  rw [foundFrom, everySite]
  split
  · next hpre =>
    have hnot := h (List.isPrefixOf_iff_prefix.mp hpre)
    rw [List.filter_cons_of_neg (by rwa [startsWord_iff])]
    simp [foundFrom]
  · simp [foundFrom]

theorem not_prefix_of_not_word {c : Char} (hc : isWordChar c = false) (rest : List Char) :
    ¬ P.keyword.toList <+: c :: rest := by
  intro hpre
  obtain ⟨more, hmore⟩ : ∃ more, [] = P.keyword.toList ++ more :=
    exists_of_prefix_word P.isName hc hpre
  exact P.isName.1 (List.append_eq_nil_iff.mp hmore.symm).1

theorem foundFrom_not_word {gap : List Char} (h : ∀ c ∈ gap, isWordChar c = false)
    (passed rest : List Char) :
    P.foundFrom passed (gap ++ rest) = P.foundFrom (passed ++ gap) rest := by
  induction gap generalizing passed with
  | nil => simp
  | cons c gap ih =>
    obtain ⟨hc, hgap⟩ := List.forall_mem_cons.mp h
    have hnot : ¬ P.keyword.toList <+: c :: (gap ++ rest) := P.not_prefix_of_not_word hc _
    rw [List.cons_append, P.foundFrom_cons_of_not fun hpre => absurd hpre hnot, ih hgap,
      List.append_assoc, List.singleton_append]

/-- Between words nothing is found. -/
theorem foundFrom_gap {gap : List Char} (h : IsGap gap) (passed rest : List Char) :
    P.foundFrom passed (gap ++ rest) = P.foundFrom (passed ++ gap) rest :=
  P.foundFrom_not_word (fun c hc => (h.2 c hc).1) passed rest

/-- Inside a word nothing is found. -/
theorem foundFrom_inner {tail : List Char} (h : ∀ c ∈ tail, isWordChar c = true)
    {passed : List Char} (hp : ¬ Opens passed) (rest : List Char) :
    P.foundFrom passed (tail ++ rest) = P.foundFrom (passed ++ tail) rest := by
  induction tail generalizing passed with
  | nil => simp
  | cons c tail ih =>
    obtain ⟨hc, htail⟩ := List.forall_mem_cons.mp h
    rw [List.cons_append, P.foundFrom_cons_of_not fun _ => hp,
      ih htail (not_opens_concat hc passed), List.append_assoc, List.singleton_append]

/-- A phrase is found if its word is the keyword and the pattern reads on; no other place in it
counts. -/
theorem foundFrom_phrase (p : Phrase) {passed : List Char} (hp : Opens passed) (rest : List Char) :
    P.foundFrom passed (p.text ++ rest) =
      (if p.word = P.keyword.toList then
        (P.read (p.gap ++ rest)).toList.map ((encode passed).length, ·)
      else []) ++ P.foundFrom (passed ++ p.text) rest := by
  obtain ⟨word, gap, ⟨hne, hword⟩, hgap⟩ := p
  obtain ⟨c, tail, rfl⟩ := List.exists_cons_of_ne_nil hne
  obtain ⟨g, gap, rfl⟩ := List.exists_cons_of_ne_nil hgap.1
  obtain ⟨hc, htail⟩ := List.forall_mem_cons.mp hword
  have hrest : P.foundFrom (passed ++ [c]) (tail ++ (g :: gap ++ rest)) =
      P.foundFrom (passed ++ (c :: tail ++ g :: gap)) rest := by
    rw [P.foundFrom_inner htail (not_opens_concat hc passed), P.foundFrom_gap hgap]
    simp
  have htext : c :: tail ++ g :: gap ++ rest = c :: (tail ++ (g :: gap ++ rest)) := by simp
  simp only [Phrase.text]
  by_cases hpre : P.keyword.toList <+: c :: tail ++ g :: (gap ++ rest)
  · obtain ⟨more, hmore⟩ := exists_of_prefix_word P.isName (hgap.2 g List.mem_cons_self).1 hpre
    have hsplit : c :: (tail ++ (g :: gap ++ rest)) =
        P.keyword.toList ++ (more ++ (g :: gap ++ rest)) := by
      rw [← htext, List.append_assoc, hmore, List.append_assoc]
    rw [htext, P.foundFrom_cons_of_prefix hp hsplit, hrest]
    cases more with
    | nil =>
      rw [if_pos (by simpa using hmore)]
      rfl
    | cons d more =>
      -- the word goes on behind the keyword, so no blank follows the keyword
      have hd : Text.isBlank d = false := by
        apply not_isBlank_of_isWordChar
        rw [hmore] at hword
        exact hword d (by simp)
      have hlong : c :: tail ≠ P.keyword.toList := by
        intro heq
        rw [← heq] at hmore
        simp at hmore
      rw [if_neg hlong, List.cons_append, P.blank_first d _ hd]
      rfl
  · have hlong : c :: tail ≠ P.keyword.toList := by
      intro heq
      exact hpre ⟨g :: (gap ++ rest), by rw [← heq]⟩
    rw [if_neg hlong, htext, P.foundFrom_cons_of_not, hrest, List.nil_append]
    intro hpre'
    exact absurd (by simpa using hpre') hpre

theorem foundFrom_of_read {p : Phrase} {passed rest : List Char} {a : α} (hp : Opens passed)
    (hword : p.word = P.keyword.toList) (hread : P.read (p.gap ++ rest) = some a) :
    P.foundFrom passed (p.text ++ rest) =
      ((encode passed).length, a) :: P.foundFrom (passed ++ p.text) rest := by
  rw [P.foundFrom_phrase p hp, if_pos hword, hread]
  rfl

/-- The pattern is not found at a phrase, whatever follows it. -/
def Quiet (p : Phrase) : Prop :=
  p.word = P.keyword.toList → ∀ rest, P.read (p.gap ++ rest) = none

theorem quiet_of_ne {p : Phrase} (h : p.word ≠ P.keyword.toList) : P.Quiet p :=
  fun heq => absurd heq h

theorem quiet_of_not_blank {p : Phrase} {c : Char} {gap : List Char} (hgap : p.gap = c :: gap)
    (hc : Text.isBlank c = false) : P.Quiet p := by
  intro _ rest
  rw [hgap]
  exact P.blank_first c _ hc

theorem foundFrom_quiet {phrases : List Phrase} (h : ∀ p ∈ phrases, P.Quiet p)
    {passed : List Char} (hp : Opens passed) (rest : List Char) :
    P.foundFrom passed (phrases.flatMap Phrase.text ++ rest) =
      P.foundFrom (passed ++ phrases.flatMap Phrase.text) rest := by
  induction phrases generalizing passed with
  | nil => simp
  | cons p phrases ih =>
    obtain ⟨hquiet, hlater⟩ := List.forall_mem_cons.mp h
    have hnone : (if p.word = P.keyword.toList then
        (P.read (p.gap ++ (phrases.flatMap Phrase.text ++ rest))).toList.map
          ((encode passed).length, ·) else []) = [] := by
      split
      · next hword => simp [hquiet hword]
      · rfl
    rw [List.flatMap_cons, List.append_assoc, P.foundFrom_phrase p hp, hnone, List.nil_append,
      ih hlater (Opens.append_text p passed), List.append_assoc]

end Pattern

theorem Opens.append_phrases {passed : List Char} (hp : Opens passed) (phrases : List Phrase) :
    Opens (passed ++ phrases.flatMap Phrase.text) := by
  induction phrases generalizing passed with
  | nil => simpa using hp
  | cons p phrases ih =>
    rw [List.flatMap_cons, ← List.append_assoc]
    exact ih (Opens.append_text p passed)

/-! ## The three patterns -/

theorem afterBlanks?_cons_of_not {c : Char} (h : Text.isBlank c = false) (rest : List Char) :
    afterBlanks? (c :: rest) = none := by
  simp [afterBlanks?, h]

/-- The pattern `class Name`. -/
def classPattern : Pattern String where
  keyword := "class"
  read := readClassName
  isKeyword := isKeyword_class
  isName := isName_class
  blank_first c rest h := by simp [readClassName, afterBlanks?_cons_of_not h]

/-- The pattern `namespace path;`. -/
def namespacePattern : Pattern (List Char) where
  keyword := "namespace"
  read := pathBefore?
  isKeyword := isKeyword_namespace
  isName := isName_namespace
  blank_first c rest h := by simp [pathBefore?, h]

/-- The pattern `public function name(`. -/
def methodPattern : Pattern String where
  keyword := "public"
  read := readMethod
  isKeyword := isKeyword_public
  isName := isName_public
  blank_first c rest h := by simp [readMethod, afterBlanks?_cons_of_not h]

theorem className?_eq (source : List Char) :
    className? source = (classPattern.foundFrom [] source).head?.map Prod.snd :=
  classPattern.findSome?_keywordSites source

theorem namespacePath?_eq_bind (source : List Char) :
    namespacePath? source =
      ((namespacePattern.foundFrom [] source).head?.map Prod.snd).bind pathPrefix? := by
  rw [namespacePath?_eq, ← namespacePattern.findSome?_keywordSites source]
  rfl

theorem publicMethods_eq (source : List Char) :
    publicMethods source = methodPattern.foundFrom [] source :=
  methodPattern.filterMap_keywordSites source

end RouteLens.Controller
