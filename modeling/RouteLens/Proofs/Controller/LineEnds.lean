import RouteLens.Proofs.Controller.Finds

/-!
# Line ends

A line may end in a line feed, or in a carriage return and a line feed. Both are blanks, and a scan
takes a run of blanks for what a single one is, so it reads the same class and the same methods on
the same lines (`actions_crlf`). A namespace alone can show the difference: its path keeps the line
ends inside it, and a line end between the keyword and a semicolon declares a path of blanks only
where it is more than one blank.
-/

namespace RouteLens.Controller

open Source

/-- A text with `mark` for every line feed. -/
def endLines (mark text : List Char) : List Char :=
  text.flatMap fun c => if c = '\n' then mark else [c]

@[simp] theorem endLines_nil (mark : List Char) : endLines mark [] = [] := rfl

@[simp] theorem endLines_append (mark a b : List Char) :
    endLines mark (a ++ b) = endLines mark a ++ endLines mark b := by
  simp [endLines]

@[simp] theorem endLines_lineFeed (mark text : List Char) :
    endLines mark ('\n' :: text) = mark ++ endLines mark text := rfl

theorem endLines_cons {c : Char} (h : c ≠ '\n') (mark text : List Char) :
    endLines mark (c :: text) = c :: endLines mark text := by
  simp [endLines, h]

theorem endLines_of_not_mem {text : List Char} (h : '\n' ∉ text) (mark : List Char) :
    endLines mark text = text := by
  induction text with
  | nil => rfl
  | cons c text ih =>
    simp only [List.mem_cons, not_or] at h
    rw [endLines_cons (Ne.symm h.1), ih h.2]

theorem reverse_endLines (mark text : List Char) :
    (endLines mark text).reverse = endLines mark.reverse text.reverse := by
  induction text with
  | nil => rfl
  | cons c text ih =>
    by_cases hc : c = '\n'
    · subst hc
      simp [ih]
    · simp [endLines_cons hc, ih]

theorem mem_endLines {mark : List Char} {c : Char} (hmark : c ∉ mark) (hc : c ≠ '\n')
    (text : List Char) : c ∈ endLines mark text ↔ c ∈ text := by
  induction text with
  | nil => rfl
  | cons d text ih =>
    by_cases hd : d = '\n'
    · subst hd
      simp [ih, hmark, hc]
    · simp [endLines_cons hd, ih]

theorem IsBlanks.not_mem {mark : List Char} (h : IsBlanks mark) {c : Char}
    (hc : Text.isBlank c = false) : c ∉ mark := by
  intro hmem
  rw [h.2 c hmem] at hc
  cases hc

theorem IsBlanks.reverse {mark : List Char} (h : IsBlanks mark) : IsBlanks mark.reverse :=
  ⟨by simpa using h.1, fun c hc => h.2 c (List.mem_reverse.mp hc)⟩

theorem IsBlanks.isGap {mark : List Char} (h : IsBlanks mark) : IsGap mark := by
  refine ⟨h.1, fun c hc => ⟨not_isWordChar_of_isBlank (h.2 c hc), ?_⟩⟩
  rintro rfl
  exact h.not_mem (by decide) hc

theorem isGap_lineFeed : IsGap ['\n'] :=
  isGap_of_all rfl rfl

theorem IsName.endLines {word : List Char} (h : IsName word) (mark : List Char) :
    endLines mark word = word :=
  endLines_of_not_mem (fun hmem => absurd (h.2 _ hmem) (by decide)) mark

section Mark

variable {mark : List Char}

theorem count_endLines (hcount : mark.count '\n' = 1) (text : List Char) :
    (endLines mark text).count '\n' = text.count '\n' := by
  induction text with
  | nil => rfl
  | cons c text ih =>
    by_cases hc : c = '\n'
    · subst hc
      rw [endLines_lineFeed, List.count_append, hcount, ih, List.count_cons_self, Nat.add_comm]
    · rw [endLines_cons hc, List.count_cons_of_ne hc, List.count_cons_of_ne hc, ih]

/-! ## Runs -/

variable {p : Char → Bool} (hne : mark ≠ []) (hp : ∀ c ∈ mark, p c = p '\n')

include hne hp

theorem takeWhile_endLines (text : List Char) :
    (endLines mark text).takeWhile p = endLines mark (text.takeWhile p) := by
  induction text with
  | nil => rfl
  | cons c text ih =>
    by_cases hc : c = '\n'
    · subst hc
      cases hfeed : p '\n' with
      | true =>
        rw [hfeed] at hp
        rw [endLines_lineFeed, List.takeWhile_append_of_pos hp, ih,
          List.takeWhile_cons_of_pos hfeed, endLines_lineFeed]
      | false =>
        obtain ⟨d, mark, rfl⟩ := List.exists_cons_of_ne_nil hne
        have hd : p d = false := (hp d List.mem_cons_self).trans hfeed
        simp [hd, hfeed]
    · rw [endLines_cons hc, List.takeWhile_cons, List.takeWhile_cons, ih]
      split
      · rw [endLines_cons hc]
      · rfl

theorem dropWhile_endLines (text : List Char) :
    (endLines mark text).dropWhile p = endLines mark (text.dropWhile p) := by
  have hsplit := congrArg (endLines mark) (List.takeWhile_append_dropWhile (p := p) (l := text))
  have hsplit' := List.takeWhile_append_dropWhile (p := p) (l := endLines mark text)
  rw [endLines_append, ← takeWhile_endLines hne hp] at hsplit
  exact List.append_cancel_left (hsplit'.trans hsplit.symm)

end Mark

/-! ## Readers -/

/-- What stands before the first semicolon is a path if it starts with a blank and goes on. -/
theorem pathBefore?_cons {c : Char} {path : List Char} (h : ';' ∉ c :: path) (back : List Char) :
    pathBefore? (c :: path ++ ';' :: back) =
      if Text.isBlank c = true ∧ path ≠ [] then some (Text.trim (c :: path)) else none := by
  obtain ⟨-, hpath⟩ := not_or.mp (mt List.mem_cons.mpr h)
  have htake : (path ++ ';' :: back).takeWhile (· ≠ ';') = path := by
    simpa using takeWhile_concat hpath back
  rw [List.cons_append, pathBefore?, htake]
  simp

section Blanks

variable {mark : List Char} (hm : IsBlanks mark)

include hm

theorem takeWhile_isWordChar_endLines (text : List Char) :
    (endLines mark text).takeWhile isWordChar = text.takeWhile isWordChar := by
  have hword : ∀ c ∈ mark, isWordChar c = isWordChar '\n' := fun c hc =>
    not_isWordChar_of_isBlank (hm.2 c hc)
  rw [takeWhile_endLines hm.1 hword]
  apply endLines_of_not_mem
  intro hmem
  exact absurd (List.all_eq_true.mp List.all_takeWhile _ hmem) (by decide)

theorem skipBlanks_endLines (text : List Char) :
    Text.skipBlanks (endLines mark text) = endLines mark (Text.skipBlanks text) :=
  dropWhile_endLines hm.1 hm.2 text

theorem trim_endLines (text : List Char) :
    Text.trim (endLines mark text) = endLines mark (Text.trim text) := by
  rw [Text.trim, Text.trim, skipBlanks_endLines hm, reverse_endLines,
    skipBlanks_endLines hm.reverse, reverse_endLines, List.reverse_reverse]

theorem endLines_eq_nil_iff {text : List Char} : endLines mark text = [] ↔ text = [] := by
  cases text with
  | nil => simp
  | cons c text =>
    by_cases hc : c = '\n'
    · subst hc
      simp [hm.1]
    · simp [endLines_cons hc]

theorem prefix_endLines_iff {word : List Char} (hword : IsName word) (text : List Char) :
    word <+: endLines mark text ↔ word <+: text := by
  have hrun (l : List Char) : word <+: l ↔ word <+: l.takeWhile isWordChar := by
    constructor
    · rintro ⟨rest, rfl⟩
      rw [List.takeWhile_append_of_pos hword.2]
      exact List.prefix_append _ _
    · exact fun h => h.trans (List.takeWhile_prefix _)
  rw [hrun (endLines mark text), takeWhile_isWordChar_endLines hm, ← hrun]

theorem afterBlanks?_endLines (text : List Char) :
    afterBlanks? (endLines mark text) = (afterBlanks? text).map (endLines mark) := by
  cases text with
  | nil => rfl
  | cons c text =>
    by_cases hc : c = '\n'
    · subst hc
      rw [endLines_lineFeed, afterBlanks?_append hm, skipBlanks_endLines hm]
      rfl
    · rw [endLines_cons hc, afterBlanks?, afterBlanks?, skipBlanks_endLines hm]
      split <;> rfl

theorem afterWord?_endLines {word : String} (hword : IsName word.toList) (text : List Char) :
    afterWord? word (endLines mark text) = (afterWord? word text).map (endLines mark) := by
  by_cases hpre : word.toList <+: text
  · obtain ⟨rest, rfl⟩ := hpre
    rw [afterWord?_eq_some.mpr rfl, endLines_append, hword.endLines, afterWord?_eq_some.mpr rfl]
    rfl
  · have hpre' : ¬ word.toList <+: endLines mark text := by rwa [prefix_endLines_iff hm hword]
    simp [afterWord?, hpre, hpre']

theorem splitName?_endLines (text : List Char) :
    splitName? (endLines mark text) = (splitName? text).map (Prod.map id (endLines mark)) := by
  have hword : ∀ c ∈ mark, isWordChar c = isWordChar '\n' := fun c hc =>
    not_isWordChar_of_isBlank (hm.2 c hc)
  rw [splitName?, splitName?, takeWhile_isWordChar_endLines hm, dropWhile_endLines hm.1 hword]
  split <;> rfl

theorem readClassName_endLines (after : List Char) :
    readClassName (endLines mark after) = readClassName after := by
  rw [readClassName, readClassName, afterBlanks?_endLines hm]
  cases afterBlanks? after with
  | none => rfl
  | some text =>
    rw [Option.map_some, Option.bind_some, Option.bind_some, splitName?_endLines hm,
      Option.map_map]
    rfl

theorem parenthesis_endLines (text : List Char) (name : String) :
    (match endLines mark text with
      | '(' :: _ => some name
      | _ => none) =
      match text with
      | '(' :: _ => some name
      | _ => none := by
  cases text with
  | nil => rfl
  | cons c text =>
    by_cases hc : c = '\n'
    · subst hc
      obtain ⟨d, mark, rfl⟩ := List.exists_cons_of_ne_nil hm.1
      have hd : d ≠ '(' := by
        rintro rfl
        exact hm.not_mem (by decide) List.mem_cons_self
      simp [hd]
    · rw [endLines_cons hc]
      split <;> simp_all

theorem readMethod_endLines (after : List Char) :
    readMethod (endLines mark after) = readMethod after := by
  simp only [readMethod, Option.bind_eq_bind, afterBlanks?_endLines hm,
    afterWord?_endLines hm isName_function, splitName?_endLines hm, skipBlanks_endLines hm,
    Option.bind_map, Function.comp_def, Prod.map, id]
  refine Option.bind_congr fun text _ => Option.bind_congr fun text _ =>
    Option.bind_congr fun text _ => Option.bind_congr fun split _ => ?_
  exact parenthesis_endLines hm _ _

/-- The path of a namespace keeps the line ends inside it. A line end right before the semicolon is
left out: as a single blank it declares nothing, and as several blanks it declares blanks. -/
theorem pathBefore?_endLines {after : List Char} (h : ¬ ['\n', ';'] <+: after) :
    pathBefore? (endLines mark after) = (pathBefore? after).map (endLines mark) := by
  have hsemi : ';' ∉ mark := hm.not_mem (by decide)
  by_cases hmem : ';' ∈ after
  · obtain ⟨between, back, rfl, hnot⟩ := List.eq_append_cons_of_mem hmem
    have hnot' : ';' ∉ endLines mark between := by rwa [mem_endLines hsemi (by decide)]
    have htrim := trim_endLines hm between
    rw [endLines_append, endLines_cons (by decide)]
    cases between with
    | nil => rfl
    | cons c path =>
      by_cases hc : c = '\n'
      · subst hc
        have hpath : path ≠ [] := by
          rintro rfl
          exact h ⟨back, rfl⟩
        obtain ⟨d, more, rfl⟩ := List.exists_cons_of_ne_nil hm.1
        have hlong : more ++ endLines (d :: more) path ≠ [] := by
          simp [endLines_eq_nil_iff hm, hpath]
        rw [endLines_lineFeed] at hnot' htrim ⊢
        rw [List.cons_append] at hnot' htrim ⊢
        rw [pathBefore?_cons hnot', pathBefore?_cons hnot,
          if_pos ⟨hm.2 d List.mem_cons_self, hlong⟩, if_pos ⟨rfl, hpath⟩, htrim]
        rfl
      · rw [endLines_cons hc] at hnot' htrim ⊢
        rw [pathBefore?_cons hnot', pathBefore?_cons hnot, htrim]
        simp only [ne_eq, endLines_eq_nil_iff hm]
        split <;> rfl
  · have hmem' : ';' ∉ endLines mark after := by rwa [mem_endLines hsemi (by decide)]
    rw [pathBefore?_of_not_mem hmem, pathBefore?_of_not_mem hmem']
    rfl

end Blanks

/-! ## What is found -/

theorem opens_endLines {mark : List Char} (hm : IsBlanks mark) (passed : List Char) :
    Opens (endLines mark passed) ↔ Opens passed := by
  rcases List.eq_nil_or_concat passed with rfl | ⟨init, c, rfl⟩
  · rfl
  rw [List.concat_eq_append, endLines_append]
  by_cases hc : c = '\n'
  · subst hc
    rw [endLines_lineFeed, endLines_nil, List.append_nil]
    exact iff_of_true (Opens.append_gap hm.isGap _) (Opens.append_gap isGap_lineFeed _)
  · rw [endLines_cons hc, endLines_nil]
    simp [Opens]

namespace Pattern

variable {α : Type} (P : Pattern α)

theorem not_prefix_of_gap {gap : List Char} (h : IsGap gap) (rest : List Char) :
    ∀ pre post, gap = pre ++ post → post ≠ [] → ¬ P.keyword.toList <+: post ++ rest := by
  intro pre post hsplit hne
  obtain ⟨c, post, rfl⟩ := List.exists_cons_of_ne_nil hne
  have hc : isWordChar c = false := (h.2 c (by simp [hsplit])).1
  exact P.not_prefix_of_not_word hc (post ++ rest)

/-- Other line ends move what is found and change what is read as `f` says, if that is so behind
every keyword. -/
theorem finds_endLines_passed {mark : List Char} (hm : IsBlanks mark) (f : α → α)
    (passed rest : List Char)
    (hread : ∀ before after, passed ++ rest = before ++ (P.keyword.toList ++ after) →
      P.read (endLines mark after) = (P.read after).map f) :
    P.finds (endLines mark passed) (endLines mark rest) =
      (P.finds passed rest).map (Prod.map (endLines mark) f) := by
  induction rest generalizing passed with
  | nil => rfl
  | cons c rest ih =>
    have hrest := ih (passed ++ [c]) (by simpa using hread)
    -- no keyword starts in a line end, so a line end of either kind is passed at once
    by_cases hc : c = '\n'
    · subst hc
      have hpass := P.finds_pass (P.not_prefix_of_gap isGap_lineFeed rest) passed
      rw [List.singleton_append] at hpass
      rw [hpass, ← hrest, endLines_lineFeed, P.finds_pass (P.not_prefix_of_gap hm.isGap _),
        endLines_append, endLines_lineFeed, endLines_nil, List.append_nil]
    have hshift : endLines mark (passed ++ [c]) = endLines mark passed ++ [c] := by
      rw [endLines_append, endLines_cons hc, endLines_nil]
    rw [hshift] at hrest
    have hopens := opens_endLines hm passed
    rw [endLines_cons hc]
    by_cases h : P.keyword.toList <+: c :: rest ∧ Opens passed
    · obtain ⟨⟨after, hafter⟩, hp⟩ := h
      have hafter' : c :: endLines mark rest = P.keyword.toList ++ endLines mark after := by
        rw [← endLines_cons hc, ← hafter, endLines_append, P.isName.endLines]
      rw [P.finds_cons_of_prefix (hopens.mpr hp) hafter', P.finds_cons_of_prefix hp hafter.symm,
        hread passed after (by rw [hafter]), hrest, List.map_append, List.map_map]
      cases P.read after <;> rfl
    · have hnot : P.keyword.toList <+: c :: rest → ¬ Opens passed := fun hpre hp => h ⟨hpre, hp⟩
      have hnot' : P.keyword.toList <+: c :: endLines mark rest →
          ¬ Opens (endLines mark passed) := by
        rw [← endLines_cons hc, prefix_endLines_iff hm P.isName, hopens]
        exact hnot
      rw [P.finds_cons_of_not hnot', P.finds_cons_of_not hnot, hrest]

/-- The same of a whole source. -/
theorem finds_endLines {mark : List Char} (hm : IsBlanks mark) (f : α → α) (source : List Char)
    (hread : ∀ before after, source = before ++ (P.keyword.toList ++ after) →
      P.read (endLines mark after) = (P.read after).map f) :
    P.finds [] (endLines mark source) =
      (P.finds [] source).map (Prod.map (endLines mark) f) :=
  P.finds_endLines_passed hm f [] source hread

end Pattern

theorem pathPrefix?_endLines {mark : List Char} (hm : IsBlanks mark) (path : List Char) :
    pathPrefix? (endLines mark path) =
      (pathPrefix? path).map fun path => String.ofList (endLines mark path.toList) := by
  by_cases hpath : path = []
  · subst hpath
    rfl
  · rw [pathPrefix?, pathPrefix?, if_neg hpath, if_neg (mt (endLines_eq_nil_iff hm).mp hpath),
      Option.map_some, String.toList_ofList]

section Scan

variable {mark : List Char} (hm : IsBlanks mark) (source : List Char)

include hm

theorem className?_endLines : className? (endLines mark source) = className? source := by
  have hfinds := classPattern.finds_endLines hm id source fun _ after _ =>
    (readClassName_endLines hm after).trans Option.map_id'.symm
  rw [className?_eq_finds, className?_eq_finds, hfinds, List.head?_map, Option.map_map]
  rfl

theorem finds_method_endLines :
    methodPattern.finds [] (endLines mark source) =
      (methodPattern.finds [] source).map (Prod.map (endLines mark) id) :=
  methodPattern.finds_endLines hm id source fun _ after _ =>
    (readMethod_endLines hm after).trans Option.map_id'.symm

theorem map_snd_publicMethods_endLines :
    (publicMethods (endLines mark source)).map Prod.snd = (publicMethods source).map Prod.snd := by
  rw [publicMethods_eq_finds, publicMethods_eq_finds, finds_method_endLines hm, List.map_map,
    List.map_map, List.map_map]
  rfl

/-- The path keeps the line ends inside it, unless a line end right before a semicolon decides
whether there is one. -/
theorem namespacePath?_endLines (h : ¬ "namespace\n;".toList <:+: source) :
    namespacePath? (endLines mark source) =
      (namespacePath? source).map fun path => String.ofList (endLines mark path.toList) := by
  have hread (before after : List Char)
      (hsplit : source = before ++ ("namespace".toList ++ after)) :
      pathBefore? (endLines mark after) = (pathBefore? after).map (endLines mark) := by
    refine pathBefore?_endLines hm fun hpre => h ?_
    obtain ⟨back, rfl⟩ := hpre
    exact ⟨before, back, by simp [hsplit]⟩
  have hfinds := namespacePattern.finds_endLines hm (endLines mark) source hread
  rw [namespacePath?_eq_finds, namespacePath?_eq_finds, hfinds, List.head?_map, Option.map_map]
  cases (namespacePattern.finds [] source).head? with
  | none => rfl
  | some found => exact pathPrefix?_endLines hm found.2

end Scan

/-! ## Carriage returns -/

/-- A text with a carriage return and a line feed for every line feed. -/
def crlf (source : String) : String :=
  String.ofList (endLines ['\r', '\n'] source.toList)

theorem isBlanks_crlf : IsBlanks ['\r', '\n'] :=
  ⟨List.cons_ne_nil _ _, List.all_eq_true.mp rfl⟩

/-- The actions of a source with carriage returns, by what is found in the source without them. -/
theorem actions_crlf_eq_finds {source name : String} (h : className? source.toList = some name) :
    actions (crlf source) = (methodPattern.finds [] source.toList).map fun found =>
      .ofMethod (qualifiedName (namespacePath? (crlf source).toList) name) found.2
        (UInt32.ofNat (found.1.count '\n')) := by
  have hclass : className? (crlf source).toList = some name := by
    rw [crlf, String.toList_ofList, className?_endLines isBlanks_crlf, h]
  have hfinds := finds_method_endLines isBlanks_crlf source.toList
  have hcount : ['\r', '\n'].count '\n' = 1 := rfl
  rw [actions_eq_finds hclass]
  simp only [crlf, String.toList_ofList, hfinds, List.map_map]
  apply List.map_congr_left
  intro found _
  simp only [Function.comp_apply, Prod.map, id, count_endLines hcount]

theorem namespacePath?_crlf {source : String}
    (hpath : ∀ path, namespacePath? source.toList = some path → '\n' ∉ path.toList)
    (hkeyword : ¬ "namespace\n;".toList <:+: source.toList) :
    namespacePath? (crlf source).toList = namespacePath? source.toList := by
  rw [crlf, String.toList_ofList, namespacePath?_endLines isBlanks_crlf _ hkeyword]
  cases hread : namespacePath? source.toList with
  | none => rfl
  | some path =>
    rw [Option.map_some, endLines_of_not_mem (hpath path hread), String.ofList_toList]

/-- A scan takes no notice of how lines end. Where every line feed gets a carriage return in front,
it finds the same class and the same methods in the same order on the same lines, and names each
action after them and the path that it reads there. That path is the same too, and with it every
action, if it goes over no line end and no `namespace` has a line end and a semicolon behind it. -/
theorem actions_crlf (source : String) :
    className? (crlf source).toList = className? source.toList ∧
    (publicMethods (crlf source).toList).map Prod.snd =
      (publicMethods source.toList).map Prod.snd ∧
    (actions (crlf source)).map Action.line = (actions source).map Action.line ∧
    (∀ name, className? source.toList = some name →
      (actions (crlf source)).map Action.action = (publicMethods source.toList).map fun m =>
        qualifiedName (namespacePath? (crlf source).toList) name ++ "@" ++ m.2) ∧
    ((∀ path, namespacePath? source.toList = some path → '\n' ∉ path.toList) →
      ¬ "namespace\n;".toList <:+: source.toList → actions (crlf source) = actions source) := by
  have hclass : className? (crlf source).toList = className? source.toList := by
    rw [crlf, String.toList_ofList, className?_endLines isBlanks_crlf]
  have hmethods : (publicMethods (crlf source).toList).map Prod.snd =
      (publicMethods source.toList).map Prod.snd := by
    rw [crlf, String.toList_ofList, map_snd_publicMethods_endLines isBlanks_crlf]
  refine ⟨hclass, hmethods, ?_, fun name hname => ?_, fun hpath hkeyword => ?_⟩
  · cases hname : className? source.toList with
    | none =>
      rw [actions_of_className?_none (hclass.trans hname), actions_of_className?_none hname]
    | some name =>
      rw [actions_crlf_eq_finds hname, actions_eq_finds hname, List.map_map, List.map_map]
      simp only [Function.comp_def, Action.ofMethod]
  · rw [map_action_actions (hclass.trans hname)]
    have hnamed := congrArg (List.map fun method =>
      qualifiedName (namespacePath? (crlf source).toList) name ++ "@" ++ method) hmethods
    rwa [List.map_map, List.map_map] at hnamed
  · cases hname : className? source.toList with
    | none =>
      rw [actions_of_className?_none (hclass.trans hname), actions_of_className?_none hname]
    | some name =>
      rw [actions_crlf_eq_finds hname, actions_eq_finds hname, namespacePath?_crlf hpath hkeyword]

/-- A source in which a line ends behind every word. -/
def wordPerLine : String := "namespace A;\nclass\nC\npublic\nfunction f\n("

theorem actions_crlf_wordPerLine : actions (crlf wordPerLine) = [⟨"A\\C@f", 3⟩] := by
  have hscan : actions wordPerLine = [⟨"A\\C@f", 3⟩] := by decide +kernel
  have hread : namespacePath? wordPerLine.toList = some "A" := by decide +kernel
  have hpath : ∀ path, namespacePath? wordPerLine.toList = some path → '\n' ∉ path.toList := by
    intro path hsome
    obtain rfl := Option.some.inj (hread.symm.trans hsome)
    decide
  have hkeyword : ¬ "namespace\n;".toList <:+: wordPerLine.toList := by decide +kernel
  obtain ⟨-, -, -, -, hsame⟩ := actions_crlf wordPerLine
  rw [hsame hpath hkeyword, hscan]

example : namespacePath? "namespace\n;namespace A;".toList = some "A" ∧
    namespacePath? (crlf "namespace\n;namespace A;").toList = none := by decide +kernel

end RouteLens.Controller
