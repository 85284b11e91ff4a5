import RouteLens.Proofs.Controller.Lines
import RouteLens.Proofs.Controller.Words

/-!
# Controllers in the usual layout

A controller as it is usually written: a namespace, a class, and methods, each on a line of its own.
The scan reads from such a text exactly the public methods that were written, whatever the names in
it are: a name that is itself a keyword is never taken for a declaration.
-/

namespace RouteLens.Controller

open Source
open Utf8 (encode)

/-- A name as it is written: letters, digits and underscores, at least one. -/
structure Identifier where
  text : String
  isName : IsName text.toList

/-- Who may call a method; nothing may be written about it. -/
inductive Visibility
  | pub
  | priv
  | prot
  | bare
  deriving DecidableEq, Repr

namespace Visibility

/-- A visibility as it is written in front of a method, with the space behind it. -/
def text : Visibility → String
  | pub => "public "
  | priv => "private "
  | prot => "protected "
  | bare => ""

end Visibility

/-- A method with nothing in its body. -/
structure Method where
  visibility : Visibility
  name : Identifier

/-- A method as it is written, on three lines. -/
def Method.text (m : Method) : String :=
  "    " ++ m.visibility.text ++ "function " ++ m.name.text ++ "()\n    \x7b\n    \x7d\n"

/-- A controller: the segments of its namespace, the name of its class, and the methods. -/
structure Layout where
  segments : List Identifier
  segments_ne_nil : segments ≠ []
  className : Identifier
  methods : List Method

namespace Layout

/-- The namespace of a controller. -/
def path (l : Layout) : String :=
  "\\".intercalate (l.segments.map Identifier.text)

/-- A controller as it is written. -/
def text (l : Layout) : String :=
  String.join ["<?php\n\nnamespace ", l.path, ";\n\nclass ", l.className.text, "\n\x7b\n",
    String.join (l.methods.map Method.text), "\x7d\n"]

end Layout

/-! ## Phrases of a controller -/

theorem isGap_space : IsGap [' '] :=
  isGap_of_all rfl rfl

theorem isBlanks_space : IsBlanks [' '] :=
  ⟨List.cons_ne_nil _ _, List.all_eq_true.mp rfl⟩

theorem isName_private : IsName "private".toList :=
  isName_of_all rfl rfl

theorem isName_protected : IsName "protected".toList :=
  isName_of_all rfl rfl

/-- A word with a space behind it. -/
def spaced (word : String) (h : IsName word.toList) : Phrase :=
  ⟨word.toList, [' '], h, isGap_space⟩

/-- A name that is written in a controller, with the gap behind it. -/
def Identifier.phrase (name : Identifier) (gap : List Char) (h : IsGap gap) : Phrase :=
  ⟨name.text.toList, gap, name.isName, h⟩

/-- The first word of a source. -/
def phpPhrase : Phrase :=
  ⟨"php".toList, ['\n', '\n'], isName_of_all rfl rfl, isGap_of_all rfl rfl⟩

/-- The segments of a namespace, and what stands between it and the class. -/
def segmentPhrases : List Identifier → List Phrase
  | [] => []
  | [s] => [s.phrase [';', '\n', '\n'] (isGap_of_all rfl rfl)]
  | s :: t :: rest => s.phrase ['\\'] (isGap_of_all rfl rfl) :: segmentPhrases (t :: rest)

/-- The name of a class, and what stands between it and the methods. -/
def classNamePhrase (name : Identifier) : Phrase :=
  name.phrase ['\n', '\x7b', '\n'] (isGap_of_all rfl rfl)

/-- The word of a visibility, if there is one. -/
def Visibility.phrases : Visibility → List Phrase
  | pub => [spaced "public" isName_public]
  | priv => [spaced "private" isName_private]
  | prot => [spaced "protected" isName_protected]
  | bare => []

/-- What follows the visibility of a method. -/
def Method.tailPhrases (m : Method) : List Phrase :=
  [spaced "function" isName_function,
    m.name.phrase "()\n    \x7b\n    \x7d\n".toList (isGap_of_all rfl rfl)]

/-- What stands in front of the first word of a source. -/
def bracket : List Char :=
  ['<', '?']

/-- What stands in front of a method. -/
def indent : List Char :=
  [' ', ' ', ' ', ' ']

theorem Visibility.toList_text (v : Visibility) :
    v.text.toList = v.phrases.flatMap Phrase.text := by
  cases v <;> rfl

theorem Method.toList_text (m : Method) :
    m.text.toList = indent ++
      (m.visibility.phrases.flatMap Phrase.text ++ m.tailPhrases.flatMap Phrase.text) := by
  have hindent : "    ".toList = indent := rfl
  have hfunction : "function ".toList = (spaced "function" isName_function).text := rfl
  simp only [Method.text, String.toList_append, hindent, hfunction, Visibility.toList_text,
    Method.tailPhrases, List.flatMap_cons, List.flatMap_nil, Identifier.phrase, Phrase.text,
    List.append_assoc, List.append_nil]

theorem flatMap_segmentPhrases {segments : List Identifier} (h : segments ≠ []) :
    (segmentPhrases segments).flatMap Phrase.text =
      ("\\".intercalate (segments.map Identifier.text)).toList ++ [';', '\n', '\n'] := by
  rw [String.toList_intercalate, List.map_map]
  induction segments with
  | nil => exact absurd rfl h
  | cons s rest ih =>
    cases rest with
    | nil => simp [segmentPhrases, Identifier.phrase, Phrase.text]
    | cons t rest =>
      have hrest := ih (List.cons_ne_nil t rest)
      rw [segmentPhrases, List.flatMap_cons, hrest]
      simp [Identifier.phrase, Phrase.text, List.intercalate_cons_cons]

/-- What is written in a class, up to the end of the source. -/
def inside (methods : List Method) : List Char :=
  methods.flatMap (fun m => m.text.toList) ++ ['\x7d', '\n']

theorem inside_cons (m : Method) (methods : List Method) :
    inside (m :: methods) = m.text.toList ++ inside methods := by
  simp [inside]

namespace Layout

/-- The phrases of a controller up to its class. -/
def front (l : Layout) : List Phrase :=
  phpPhrase :: spaced "namespace" isName_namespace :: segmentPhrases l.segments

theorem toList_text (l : Layout) :
    l.text.toList = bracket ++ (l.front.flatMap Phrase.text ++
      ((spaced "class" isName_class).text ++
        ((classNamePhrase l.className).text ++ inside l.methods))) := by
  have hopen : "<?php\n\nnamespace ".toList =
      bracket ++ (phpPhrase.text ++ (spaced "namespace" isName_namespace).text) := rfl
  have hclass : ";\n\nclass ".toList = [';', '\n', '\n'] ++ (spaced "class" isName_class).text :=
    rfl
  have hclose : "\x7d\n".toList = ['\x7d', '\n'] := rfl
  have hname : l.className.text.toList ++ "\n\x7b\n".toList = (classNamePhrase l.className).text :=
    rfl
  have hpath := flatMap_segmentPhrases l.segments_ne_nil
  calc l.text.toList
      = "<?php\n\nnamespace ".toList ++ (l.path.toList ++ (";\n\nclass ".toList ++
          ((l.className.text.toList ++ "\n\x7b\n".toList) ++
            (l.methods.flatMap (fun m => m.text.toList) ++ "\x7d\n".toList)))) := by
        simp only [text, String.toList_join, List.flatMap_cons, List.flatMap_nil,
          List.append_nil, List.flatMap_map, List.append_assoc]
    _ = bracket ++ (phpPhrase.text ++ ((spaced "namespace" isName_namespace).text ++
          ((l.path.toList ++ [';', '\n', '\n']) ++ ((spaced "class" isName_class).text ++
            ((classNamePhrase l.className).text ++ inside l.methods))))) := by
        rw [hopen, hclass, hname, hclose, inside]
        simp only [List.append_assoc]
    _ = _ := by
        rw [path, ← hpath, front, List.flatMap_cons, List.flatMap_cons]
        simp only [List.append_assoc]

end Layout

/-! ## What is found -/

theorem isGap_bracket : IsGap bracket :=
  isGap_of_all rfl rfl

theorem quiet_segmentPhrases {α : Type} (P : Pattern α) (segments : List Identifier) :
    ∀ p ∈ segmentPhrases segments, P.Quiet p := by
  induction segments with
  | nil => simp [segmentPhrases]
  | cons s rest ih =>
    cases rest with
    | nil =>
      rw [segmentPhrases, List.forall_mem_singleton]
      exact P.quiet_of_not_blank rfl (by decide)
    | cons t rest =>
      rw [segmentPhrases, List.forall_mem_cons]
      exact ⟨P.quiet_of_not_blank rfl (by decide), ih⟩

theorem Layout.quiet_front {α : Type} (P : Pattern α) (l : Layout)
    (hphp : P.keyword.toList ≠ "php".toList) (hspace : P.keyword.toList ≠ "namespace".toList) :
    ∀ p ∈ l.front, P.Quiet p := by
  rw [Layout.front, List.forall_mem_cons, List.forall_mem_cons]
  exact ⟨P.quiet_of_ne (Ne.symm hphp), P.quiet_of_ne (Ne.symm hspace), quiet_segmentPhrases P _⟩

theorem opens_bracket (phrases : List Phrase) : Opens (bracket ++ phrases.flatMap Phrase.text) :=
  Opens.append_phrases (Opens.append_gap isGap_bracket []) phrases

/-- Behind the opening bracket the search comes to the first phrase that may be found. -/
theorem foundFrom_bracket {α : Type} (P : Pattern α) {phrases : List Phrase}
    (h : ∀ p ∈ phrases, P.Quiet p) (rest : List Char) :
    P.foundFrom [] (bracket ++ (phrases.flatMap Phrase.text ++ rest)) =
      P.foundFrom (bracket ++ phrases.flatMap Phrase.text) rest := by
  have hopens : Opens bracket := Opens.append_gap isGap_bracket []
  rw [P.foundFrom_gap isGap_bracket, List.nil_append, P.foundFrom_quiet h hopens]

theorem readClassName_classNamePhrase (name : Identifier) (rest : List Char) :
    readClassName ([' '] ++ ((classNamePhrase name).text ++ rest)) = some name.text := by
  have hsplit : (classNamePhrase name).text ++ rest =
      name.text.toList ++ '\n' :: ('\x7b' :: '\n' :: rest) := by
    simp [classNamePhrase, Identifier.phrase, Phrase.text]
  rw [hsplit, readClassName, afterBlanks?_append isBlanks_space, skipBlanks_name name.isName,
    Option.bind_some, splitName?_append name.isName _ _ (by decide), Option.map_some]
  simp only [String.ofList_toList]

/-- No segment of the namespace is taken for the class. -/
theorem Layout.className?_text (l : Layout) : className? l.text.toList = some l.className.text := by
  have hquiet := l.quiet_front classPattern (by decide) (by decide)
  have hread : classPattern.read ((spaced "class" isName_class).gap ++
      ((classNamePhrase l.className).text ++ inside l.methods)) = some l.className.text :=
    readClassName_classNamePhrase l.className (inside l.methods)
  rw [className?_eq, l.toList_text, foundFrom_bracket classPattern hquiet,
    classPattern.foundFrom_of_read (opens_bracket _) rfl hread]
  rfl

theorem skipBlanks_of_not_blank {text : List Char} (h : ∀ c ∈ text, Text.isBlank c = false) :
    Text.skipBlanks text = text := by
  cases text with
  | nil => rfl
  | cons c text => exact skipBlanks_cons (h c List.mem_cons_self)

theorem trim_of_not_blank {text : List Char} (h : ∀ c ∈ text, Text.isBlank c = false) :
    Text.trim text = text := by
  have hreverse : ∀ c ∈ text.reverse, Text.isBlank c = false := by
    intro c hc
    exact h c (List.mem_reverse.mp hc)
  rw [Text.trim, skipBlanks_of_not_blank h, skipBlanks_of_not_blank hreverse, List.reverse_reverse]

namespace Layout

theorem mem_path {l : Layout} {c : Char} (hc : c ∈ l.path.toList) :
    isWordChar c = true ∨ c = '\\' := by
  rw [path, String.toList_intercalate, List.map_map] at hc
  generalize l.segments = segments at hc
  induction segments with
  | nil => simp at hc
  | cons s rest ih =>
    cases rest with
    | nil =>
      rw [List.map_singleton, List.intercalate_singleton] at hc
      exact .inl (s.isName.2 c hc)
    | cons t rest =>
      rw [List.map_cons, List.map_cons, List.intercalate_cons_cons, List.mem_append,
        List.mem_append] at hc
      rcases hc with (hc | hc) | hc
      · exact .inl (s.isName.2 c hc)
      · exact .inr (by simpa using hc)
      · exact ih hc

theorem not_mem_path (l : Layout) {c : Char} (hc : isWordChar c = false) (hne : c ≠ '\\') :
    c ∉ l.path.toList := by
  intro hmem
  rcases mem_path hmem with hword | heq
  · rw [hword] at hc
    exact absurd hc (by decide)
  · exact hne heq

theorem path_ne_nil (l : Layout) : l.path.toList ≠ [] := by
  rw [path, String.toList_intercalate, List.map_map]
  obtain ⟨s, rest, hsegments⟩ := List.exists_cons_of_ne_nil l.segments_ne_nil
  rw [hsegments]
  cases rest with
  | nil => simpa using s.isName.1
  | cons t rest => simp [List.intercalate_cons_cons]

theorem pathBefore?_path (l : Layout) (rest : List Char) :
    pathBefore? ([' '] ++ (l.path.toList ++ ';' :: rest)) = some l.path.toList := by
  have hblank : ∀ c ∈ l.path.toList, Text.isBlank c = false := by
    intro c hc
    rcases mem_path hc with hword | rfl
    · exact not_isBlank_of_isWordChar hword
    · decide
  have hsemi : ';' ∉ l.path.toList := l.not_mem_path (by decide) (by decide)
  rw [pathBefore?_append isBlanks_space l.path_ne_nil hsemi, trim_of_not_blank hblank]

/-- No segment of the namespace is taken for its keyword: the first keyword already declares it. -/
theorem namespacePath?_text (l : Layout) : namespacePath? l.text.toList = some l.path := by
  have hquiet : ∀ p ∈ [phpPhrase], namespacePattern.Quiet p := by
    rw [List.forall_mem_singleton]
    exact namespacePattern.quiet_of_ne (by decide)
  let rest := (spaced "class" isName_class).text ++
    ((classNamePhrase l.className).text ++ inside l.methods)
  have htext : l.text.toList = bracket ++ ([phpPhrase].flatMap Phrase.text ++
      ((spaced "namespace" isName_namespace).text ++
        (l.path.toList ++ ';' :: ('\n' :: '\n' :: rest)))) := by
    rw [l.toList_text, front, List.flatMap_cons, List.flatMap_cons,
      flatMap_segmentPhrases l.segments_ne_nil, ← path]
    simp [rest]
  have hread : namespacePattern.read ((spaced "namespace" isName_namespace).gap ++
      (l.path.toList ++ ';' :: ('\n' :: '\n' :: rest))) = some l.path.toList :=
    l.pathBefore?_path _
  have hprefix : pathPrefix? l.path.toList = some l.path := by
    rw [pathPrefix?, if_neg l.path_ne_nil, String.ofList_toList]
  rw [namespacePath?_eq_bind, htext, foundFrom_bracket namespacePattern hquiet,
    namespacePattern.foundFrom_of_read (opens_bracket _) rfl hread]
  exact hprefix

end Layout

/-! ## Methods -/

theorem readMethod_tailPhrases (m : Method) (rest : List Char) :
    readMethod ([' '] ++ (m.tailPhrases.flatMap Phrase.text ++ rest)) = some m.name.text := by
  have htail : MethodTail m.name.text.toList
      ([' '] ++ ("function".toList ++ ([' '] ++ (m.name.text.toList ++ ([] ++ ['(']))))) :=
    .intro _ _ _ isBlanks_space isBlanks_space m.name.isName (by simp)
  have hbody : "()\n    \x7b\n    \x7d\n".toList = '(' :: ")\n    \x7b\n    \x7d\n".toList := rfl
  have hread := readMethod_append htail (")\n    \x7b\n    \x7d\n".toList ++ rest)
  rw [String.ofList_toList] at hread
  rw [← hread]
  simp [Method.tailPhrases, spaced, Identifier.phrase, Phrase.text, hbody]

theorem quiet_tailPhrases (m : Method) : ∀ p ∈ m.tailPhrases, methodPattern.Quiet p := by
  rw [Method.tailPhrases, List.forall_mem_cons, List.forall_mem_singleton]
  exact ⟨methodPattern.quiet_of_ne (by decide),
    methodPattern.quiet_of_not_blank (c := '(') rfl (by decide)⟩

theorem quiet_visibility {v : Visibility} (h : v ≠ .pub) :
    ∀ p ∈ v.phrases, methodPattern.Quiet p := by
  cases v with
  | pub => exact absurd rfl h
  | priv =>
    rw [Visibility.phrases, List.forall_mem_singleton]
    exact methodPattern.quiet_of_ne (by decide)
  | prot =>
    rw [Visibility.phrases, List.forall_mem_singleton]
    exact methodPattern.quiet_of_ne (by decide)
  | bare => simp [Visibility.phrases]

theorem isGap_indent : IsGap indent :=
  isGap_of_all rfl rfl

/-- Of a method its declaration is found if it is public, and nothing otherwise. -/
theorem foundFrom_method (m : Method) (passed rest : List Char) :
    methodPattern.foundFrom passed (m.text.toList ++ rest) =
      (if m.visibility = .pub then [((encode (passed ++ indent)).length, m.name.text)] else []) ++
        methodPattern.foundFrom (passed ++ m.text.toList) rest := by
  have hopens := Opens.append_gap isGap_indent passed
  rw [m.toList_text, List.append_assoc, methodPattern.foundFrom_gap isGap_indent]
  by_cases hpub : m.visibility = .pub
  · have hread : methodPattern.read ((spaced "public" isName_public).gap ++
        (m.tailPhrases.flatMap Phrase.text ++ rest)) = some m.name.text :=
      readMethod_tailPhrases m rest
    have hphrases : m.visibility.phrases.flatMap Phrase.text =
        (spaced "public" isName_public).text := by
      rw [hpub, Visibility.phrases, List.flatMap_singleton]
    rw [if_pos hpub, hphrases, List.append_assoc,
      methodPattern.foundFrom_of_read hopens rfl hread,
      methodPattern.foundFrom_quiet (quiet_tailPhrases m) (Opens.append_text _ _)]
    simp
  · have hquiet : ∀ p ∈ m.visibility.phrases ++ m.tailPhrases, methodPattern.Quiet p := by
      intro p hp
      rcases List.mem_append.mp hp with hp | hp
      · exact quiet_visibility hpub p hp
      · exact quiet_tailPhrases m p hp
    rw [if_neg hpub, ← List.flatMap_append, methodPattern.foundFrom_quiet hquiet hopens,
      List.append_assoc, List.nil_append]

theorem count_name (name : Identifier) : name.text.toList.count '\n' = 0 := by
  rw [List.count_eq_zero]
  intro hmem
  exact absurd (name.isName.2 _ hmem) (by decide)

theorem count_method (m : Method) : m.text.toList.count '\n' = 3 := by
  have hvisibility : m.visibility.text.toList.count '\n' = 0 := by
    cases m.visibility <;> decide
  have hindent : "    ".toList.count '\n' = 0 := by decide
  have hfunction : "function ".toList.count '\n' = 0 := by decide
  have hbody : "()\n    \x7b\n    \x7d\n".toList.count '\n' = 3 := by decide
  simp only [Method.text, String.toList_append, List.count_append, hvisibility, hindent, hfunction,
    hbody, count_name]

/-- The methods that are found behind a text of `6 + 3 * k` lines, with their lines. -/
theorem map_foundFrom_inside (className : String) (methods : List Method) {passed : List Char}
    {k : Nat} (hlines : passed.count '\n' = 6 + 3 * k) :
    (methodPattern.foundFrom passed (inside methods)).map (fun f =>
        Action.ofMethod className f.2 (lineAt (passed ++ inside methods) f.1)) =
      (methods.zipIdx k).filterMap fun (m, i) =>
        if m.visibility = .pub then
          some (.ofMethod className m.name.text (UInt32.ofNat (6 + 3 * i)))
        else none := by
  induction methods generalizing passed k with
  | nil =>
    have hgap : IsGap (inside []) := isGap_of_all rfl rfl
    rw [← List.append_nil (inside []), methodPattern.foundFrom_gap hgap]
    rfl
  | cons m methods ih =>
    -- behind the method the search stands three lines further on
    have hlines' : (passed ++ m.text.toList).count '\n' = 6 + 3 * (k + 1) := by
      rw [List.count_append, hlines, count_method]
      omega
    have hrest := ih hlines'
    rw [List.append_assoc] at hrest
    rw [inside_cons, foundFrom_method, List.map_append, hrest, List.zipIdx_cons,
      List.filterMap_cons]
    by_cases hpub : m.visibility = .pub
    · have hline : lineAt (passed ++ (m.text.toList ++ inside methods))
          (encode (passed ++ indent)).length = UInt32.ofNat (6 + 3 * k) := by
        rw [m.toList_text, List.append_assoc, ← List.append_assoc passed, lineAt,
          lineFeeds_length_encode, List.count_append, hlines]
        rfl
      simp only [hpub, if_true, List.map_singleton, hline]
      rfl
    · simp only [hpub, if_false, List.map_nil, List.nil_append]

/-! ## A whole controller -/

namespace Layout

/-- The phrases of a controller up to its methods. -/
def header (l : Layout) : List Phrase :=
  l.front ++ [spaced "class" isName_class, classNamePhrase l.className]

theorem toList_text_eq_header (l : Layout) :
    l.text.toList = bracket ++ (l.header.flatMap Phrase.text ++ inside l.methods) := by
  rw [l.toList_text, header]
  simp

theorem quiet_header (l : Layout) : ∀ p ∈ l.header, methodPattern.Quiet p := by
  have hfront := l.quiet_front methodPattern (by decide) (by decide)
  intro p hp
  rcases List.mem_append.mp hp with hp | hp
  · exact hfront p hp
  rcases List.mem_cons.mp hp with rfl | hp
  · exact methodPattern.quiet_of_ne (by decide)
  · -- a class may be called `public`, but then no method follows
    obtain rfl := List.mem_singleton.mp hp
    intro _ rest
    rfl

theorem count_header (l : Layout) :
    (bracket ++ l.header.flatMap Phrase.text).count '\n' = 6 := by
  have hpath : l.path.toList.count '\n' = 0 :=
    List.count_eq_zero.mpr (l.not_mem_path (by decide) (by decide))
  have hsegments : ((segmentPhrases l.segments).flatMap Phrase.text).count '\n' = 2 := by
    rw [flatMap_segmentPhrases l.segments_ne_nil, ← path, List.count_append, hpath]
    rfl
  have hname : (classNamePhrase l.className).text.count '\n' = 2 := by
    have hgap : ['\n', '\x7b', '\n'].count '\n' = 2 := rfl
    simp only [classNamePhrase, Identifier.phrase, Phrase.text, List.count_append, count_name, hgap]
  have hopen : bracket.count '\n' = 0 := rfl
  have hphp : phpPhrase.text.count '\n' = 2 := rfl
  have hspace : (spaced "namespace" isName_namespace).text.count '\n' = 0 := rfl
  have hclass : (spaced "class" isName_class).text.count '\n' = 0 := rfl
  simp only [header, front, List.flatMap_append, List.flatMap_cons, List.flatMap_nil,
    List.append_nil, List.count_append, hopen, hphp, hspace, hsegments, hclass, hname]

end Layout

/-- The scan reads a controller in the usual layout back: its actions are those of the public
methods, in order, each with the namespace and the class in front and on the line, as a word of 32
bits, on which the method was written. -/
theorem actions_layout (l : Layout) :
    actions l.text = l.methods.zipIdx.filterMap fun (m, i) =>
      if m.visibility = .pub then
        some ⟨l.path ++ "\\" ++ l.className.text ++ "@" ++ m.name.text, UInt32.ofNat (6 + 3 * i)⟩
      else none := by
  have hfound := map_foundFrom_inside (l.path ++ "\\" ++ l.className.text) l.methods (k := 0)
    l.count_header
  rw [actions_eq_map l.className?_text, l.namespacePath?_text, qualifiedName, publicMethods_eq,
    l.toList_text_eq_header, foundFrom_bracket methodPattern l.quiet_header,
    ← List.append_assoc bracket, hfound]
  rfl

example :
    actions ("<?php\n\nnamespace class\\namespace;\n\nclass public\n\x7b\n" ++
      "    private function class()\n    \x7b\n    \x7d\n" ++
      "    public function public()\n    \x7b\n    \x7d\n\x7d\n") =
      [⟨"class\\namespace\\public@public", 9⟩] := by
  decide +kernel

end RouteLens.Controller
