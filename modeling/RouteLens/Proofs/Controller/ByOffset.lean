import RouteLens.Proofs.Controller.Counting
import RouteLens.Proofs.Controller.Declarations

/-!
# The scan by offsets

The scan written as steps on offsets among the octets of the source: keywords are found among
octets, blanks are skipped by characters and names by octets, and every slice and every single octet
is taken where it may not exist. None of these steps fails, and the actions are those of the scan
over characters. What carries this is that every offset is the end of a start of the text.
-/

namespace RouteLens.Controller.ByOffset

open Source
open Utf8 (encode)

/-! ## Steps on offsets -/

/-- The offsets at which a word stands among octets, from left to right and without overlap; `skip`
octets still belong to the place found last. -/
def matchesFrom (word : Bytes) (skip offset : Nat) : Bytes → List Nat
  | [] => []
  | b :: rest => match skip with
    | skip + 1 => matchesFrom word skip (offset + 1) rest
    | 0 =>
      if word.isPrefixOf (b :: rest) then
        offset :: matchesFrom word (word.length - 1) (offset + 1) rest
      else matchesFrom word 0 (offset + 1) rest

/-- Whether a keyword can start at an offset, by the octet before it. -/
def canStart (octets : Bytes) (i : Nat) : Except Fault Bool :=
  if i = 0 then pure true
  else do
    let b ← octetAt octets (i - 1)
    pure (!(isWordByte b || b == 0x24))

/-- Keeps the offsets at which a keyword can start. -/
def keepStarts (octets : Bytes) : List Nat → Except Fault (List Nat)
  | [] => pure []
  | i :: rest => do
    let starts ← canStart octets i
    let kept ← keepStarts octets rest
    pure (if starts then i :: kept else kept)

/-- The offsets at which a keyword stands by itself. -/
def keywordOffsets (word : String) (text : List Char) : Except Fault (List Nat) :=
  keepStarts (encode text) (matchesFrom (Utf8.encodeString word) 0 0 (encode text))

/-- The offset of the first character with a property. -/
def octetIndex? (p : Char → Bool) : List Char → Option Nat
  | [] => none
  | c :: rest => if p c then some 0 else (octetIndex? p rest).map (c.utf8Size + ·)

/-- The offset behind the blanks at an offset. -/
def skipBlanksFrom (text : List Char) (pos : Nat) : Except Fault Nat := do
  let rest ← slice text pos (encode text).length
  match octetIndex? (fun c => !Text.isBlank c) rest with
  | some i => pure (pos + i)
  | none => pure (encode text).length

/-- The offset behind the octets of a name at an offset. -/
def skipWordFrom (octets : Bytes) (pos : Nat) : Except Fault Nat :=
  if pos < octets.length then do
    let b ← octetAt octets pos
    if isWordByte b then skipWordFrom octets (pos + 1) else pure pos
  else pure pos
termination_by octets.length - pos

/-- Reads a namespace declaration behind the keyword at an offset. -/
def readNamespaceAt (text : List Char) (start : Nat) : Except Fault NamespaceSite := do
  let after := start + (Utf8.encodeString "namespace").length
  let rest ← slice text after (encode text).length
  match rest with
  | [] => pure .pass
  | c :: _ =>
    if Text.isBlank c then
      match octetIndex? (· == ';') rest with
      | none => pure (.stop none)
      | some i =>
        let semicolon := after + i
        if semicolon ≤ after + c.utf8Size then pure .pass
        else do
          let path ← slice text after semicolon
          match Text.trim path with
          | [] => pure (.stop none)
          | path => pure (.stop (some (String.ofList path)))
    else pure .pass

/-- The path of the first of some places that ends the search. -/
def firstNamespaceAt (text : List Char) : List Nat → Except Fault (Option String)
  | [] => pure none
  | start :: rest => do
    match ← readNamespaceAt text start with
    | .pass => firstNamespaceAt text rest
    | .stop path => pure path

/-- The path that the source declares as its namespace. -/
def findNamespace (text : List Char) : Except Fault (Option String) := do
  let starts ← keywordOffsets "namespace" text
  firstNamespaceAt text starts

/-- Reads a class name behind the keyword at an offset. -/
def readClassNameAt (text : List Char) (start : Nat) : Except Fault (Option String) := do
  let after := start + (Utf8.encodeString "class").length
  let nameStart ← skipBlanksFrom text after
  if nameStart = after then pure none
  else do
    let nameEnd ← skipWordFrom (encode text) nameStart
    if nameStart < nameEnd then do
      let name ← slice text nameStart nameEnd
      pure (some (String.ofList name))
    else pure none

/-- The name of the first class that the source declares. -/
def findClassName (text : List Char) : Except Fault (Option String) := do
  let starts ← keywordOffsets "class" text
  starts.findSomeM? (readClassNameAt text)

/-- Reads the name of a method behind the keyword at an offset. -/
def readMethodAt (text : List Char) (start : Nat) : Except Fault (Option String) := do
  let after := start + (Utf8.encodeString "public").length
  let functionStart ← skipBlanksFrom text after
  if functionStart = after then pure none
  else do
    let rest ← slice text functionStart (encode text).length
    if "function".toList.isPrefixOf rest then do
      let afterFunction := functionStart + (Utf8.encodeString "function").length
      let nameStart ← skipBlanksFrom text afterFunction
      if nameStart = afterFunction then pure none
      else do
        let nameEnd ← skipWordFrom (encode text) nameStart
        if nameEnd = nameStart then pure none
        else do
          let paren ← skipBlanksFrom text nameEnd
          if (encode text)[paren]? = some 0x28 then do
            let name ← slice text nameStart nameEnd
            pure (some (String.ofList name))
          else pure none
    else pure none

/-- Reads the methods behind the keywords at some offsets. -/
def readMethodsAt (text : List Char) : List Nat → Except Fault (List (Nat × String))
  | [] => pure []
  | start :: rest => do
    let name ← readMethodAt text start
    let methods ← readMethodsAt text rest
    match name with
    | some name => pure ((start, name) :: methods)
    | none => pure methods

/-- The public methods of the source: the offset of each declaration, and the name. -/
def findMethods (text : List Char) : Except Fault (List (Nat × String)) := do
  let starts ← keywordOffsets "public" text
  readMethodsAt text starts

/-- The actions of a source text, in order of their declarations. -/
def actions (mode : Overflow) (source : String) : Except Fault (List Action) := do
  let text := source.toList
  match ← findClassName text with
  | none => pure []
  | some name => do
    let path ← findNamespace text
    let methods ← findMethods text
    countActions mode (qualifiedName path name) text 0 0 methods

/-! ## Keywords -/

theorem isPrefixOf_encode (word text : List Char) :
    (encode word).isPrefixOf (encode text) = word.isPrefixOf text := by
  rw [Bool.eq_iff_iff, List.isPrefixOf_iff_prefix, List.isPrefixOf_iff_prefix]
  constructor
  · rintro ⟨rest, hrest⟩
    obtain ⟨post, rfl, -⟩ := Utf8.encode_eq_append hrest.symm
    exact List.prefix_append word post
  · rintro ⟨post, rfl⟩
    exact ⟨encode post, (Utf8.encode_append word post).symm⟩

theorem length_encode_of_ascii {text : List Char} (h : ∀ c ∈ text, c.toNat < 0x80) :
    (encode text).length = text.length := by
  induction text with
  | nil => rfl
  | cons c text ih =>
    rw [List.forall_mem_cons] at h
    simp [Utf8.encodeChar_of_ascii h.1, ih h.2]

/-- No word starts at an octet that continues a character. -/
theorem matchesFrom_tail {first : UInt8} {word : Bytes} (hfirst : startsChar first = true)
    {tail : Bytes} (htail : ∀ t ∈ tail, startsChar t = false) (offset : Nat) (rest : Bytes) :
    matchesFrom (first :: word) 0 offset (tail ++ rest) =
      matchesFrom (first :: word) 0 (offset + tail.length) rest := by
  induction tail generalizing offset with
  | nil => rfl
  | cons t tail ih =>
    rw [List.forall_mem_cons] at htail
    have hne : (first == t) = false := by
      rw [beq_eq_false_iff_ne]
      rintro rfl
      rw [hfirst] at htail
      exact absurd htail.1 (by decide)
    have hno : (first :: word).isPrefixOf (t :: (tail ++ rest)) = false := by
      simp [List.isPrefixOf, hne]
    rw [List.cons_append, matchesFrom, hno, if_neg Bool.false_ne_true, ih htail.2]
    simp only [List.length_cons]
    congr 1
    omega

/-- A word of ASCII is found among octets where it is found among characters. -/
theorem matchesFrom_encode {word : List Char} (hne : word ≠ [])
    (hword : ∀ c ∈ word, c.toNat < 0x80) (text : List Char) (skip : Nat) (before : Option Char)
    (offset : Nat) (hskip : ∀ c ∈ text.take skip, c.toNat < 0x80) :
    matchesFrom (encode word) skip offset (encode text) =
      (sitesFrom word skip before offset text).map Site.offset := by
  induction text generalizing skip before offset with
  | nil => rfl
  | cons c rest ih =>
    have hlength := length_encode_of_ascii hword
    cases skip with
    | succ skip =>
      rw [List.take_succ_cons, List.forall_mem_cons] at hskip
      obtain ⟨hc, hskip⟩ := hskip
      have henc := Utf8.encodeChar_of_ascii hc
      have hsize : c.utf8Size = 1 := by rw [← String.length_utf8EncodeChar, henc]; rfl
      rw [Utf8.encode_cons, henc, List.singleton_append, matchesFrom, sitesFrom, hsize]
      exact ih skip _ _ hskip
    | zero =>
      by_cases hp : word.isPrefixOf (c :: rest) = true
      · obtain ⟨post, hpost⟩ := List.isPrefixOf_iff_prefix.mp hp
        obtain ⟨d, word', rfl⟩ := List.exists_cons_of_ne_nil hne
        rw [List.cons_append] at hpost
        obtain ⟨rfl, rfl⟩ := List.cons.inj hpost
        have henc := Utf8.encodeChar_of_ascii (hword d List.mem_cons_self)
        have hsize : d.utf8Size = 1 := by rw [← String.length_utf8EncodeChar, henc]; rfl
        have hskip' : ∀ c ∈ (word' ++ post).take ((d :: word').length - 1), c.toNat < 0x80 := by
          intro c hc
          rw [List.length_cons, Nat.add_sub_cancel, List.take_left] at hc
          exact hword c (List.mem_cons_of_mem d hc)
        have hoctets : (encode (d :: word')).isPrefixOf
            (UInt8.ofNat d.toNat :: encode (word' ++ post)) = true := by
          have h := isPrefixOf_encode (d :: word') (d :: (word' ++ post))
          rwa [hp, Utf8.encode_cons d (word' ++ post), henc, List.singleton_append] at h
        rw [Utf8.encode_cons d (word' ++ post), henc, List.singleton_append, matchesFrom,
          if_pos hoctets, hlength,
          sitesFrom, if_pos hp, List.map_cons, hsize]
        exact congrArg _ (ih _ _ _ hskip')
      · obtain ⟨d, word', rfl⟩ := List.exists_cons_of_ne_nil hne
        obtain ⟨first, octets, hd, hfirst, -⟩ := exists_encodeChar d
        obtain ⟨b, tail, hc, -, htail, -⟩ := exists_encodeChar c
        have hoctets := isPrefixOf_encode (d :: word') (c :: rest)
        rw [Bool.eq_false_iff.mpr hp] at hoctets
        rw [sitesFrom, if_neg hp, ← ih 0 (some c) (offset + c.utf8Size) (by simp),
          ← String.length_utf8EncodeChar]
        rw [Utf8.encode_cons d, Utf8.encode_cons c, hd, hc, List.cons_append,
          List.cons_append] at hoctets ⊢
        rw [matchesFrom, hoctets, if_neg Bool.false_ne_true, matchesFrom_tail hfirst htail,
          List.length_cons]
        congr 1
        omega

/-- Looking at the octet before a place tells whether a keyword can start there. -/
theorem canStart_encode (pre post : List Char) :
    canStart (encode (pre ++ post)) (encode pre).length =
      .ok (Site.startsWord ⟨pre.getLast?, (encode pre).length, post⟩) := by
  rcases List.eq_nil_or_concat pre with rfl | ⟨init, c, rfl⟩
  · rfl
  · rw [List.concat_eq_append]
    obtain ⟨b, hlast, hb⟩ := exists_octet_before init c post
    have hpos := length_encode_concat_ne_zero init c
    have hdollar : (b == 0x24) = (c == '$') := by
      rw [Bool.eq_iff_iff, beq_iff_eq, beq_iff_eq, hb.eq_dollar_iff]
    rw [canStart, if_neg hpos, octetAt, hlast]
    simp [ok_bind, pure_eq_ok, Site.startsWord, hb.isWordByte, hdollar]

theorem keepStarts_map (octets : Bytes) {sites : List Site}
    (h : ∀ s ∈ sites, canStart octets s.offset = .ok s.startsWord) :
    keepStarts octets (sites.map Site.offset) =
      .ok ((sites.filter Site.startsWord).map Site.offset) := by
  induction sites with
  | nil => rfl
  | cons s sites ih =>
    rw [List.forall_mem_cons] at h
    rw [List.map_cons, keepStarts, h.1, ih h.2, ok_bind, ok_bind, pure_eq_ok, List.filter_cons]
    split <;> rfl

theorem keywordOffsets_eq {word : String} (hw : IsKeyword word) (hname : IsName word.toList)
    (text : List Char) :
    keywordOffsets word text = .ok ((keywordSites word text).map Site.offset) := by
  have hword : ∀ c ∈ word.toList, c.toNat < 0x80 :=
    fun c hc => (toNat_of_isWordChar (hname.2 c hc)).2
  have hmatches : matchesFrom (Utf8.encodeString word) 0 0 (encode text) =
      (sitesFrom word.toList 0 none 0 text).map Site.offset :=
    matchesFrom_encode hw.ne_nil hword text 0 none 0 (by simp)
  rw [keywordOffsets, hmatches, keywordSites]
  apply keepStarts_map
  intro s hs
  obtain ⟨c, rest, heq, hc, -⟩ := id hw
  rw [heq, sitesFrom_eq_everySite hc _ _ _ _ (by simp), ← heq, mem_everySite hw.ne_nil] at hs
  obtain ⟨pre, post, rfl, rfl⟩ := hs
  rw [List.append_assoc, Option.or_none, Nat.zero_add, canStart_encode]
  rfl

/-! ## Skipping -/

theorem octetIndex?_append {p : Char → Bool} {pre : List Char} (hpre : ∀ c ∈ pre, p c = false)
    {c : Char} (hc : p c = true) (rest : List Char) :
    octetIndex? p (pre ++ c :: rest) = some (encode pre).length := by
  induction pre with
  | nil => simp [octetIndex?, hc]
  | cons d pre ih =>
    rw [List.forall_mem_cons] at hpre
    simp [octetIndex?, hpre.1, ih hpre.2]

theorem octetIndex?_eq_none {p : Char → Bool} {text : List Char} (h : ∀ c ∈ text, p c = false) :
    octetIndex? p text = none := by
  induction text with
  | nil => rfl
  | cons c text ih =>
    rw [List.forall_mem_cons] at h
    simp [octetIndex?, h.1, ih h.2]

/-- The first place of a character, if it comes at all. -/
theorem octetIndex?_char (d : Char) (text : List Char) :
    (d ∉ text ∧ octetIndex? (· == d) text = none) ∨
    ∃ front back, text = front ++ d :: back ∧ d ∉ front ∧
      octetIndex? (· == d) text = some (encode front).length := by
  have hother {front : List Char} (h : d ∉ front) : ∀ c ∈ front, (c == d) = false := by
    intro c hc
    rw [beq_eq_false_iff_ne]
    rintro rfl
    exact h hc
  by_cases hmem : d ∈ text
  · obtain ⟨front, back, rfl, hnot⟩ := List.eq_append_cons_of_mem hmem
    exact .inr ⟨front, back, rfl, hnot, octetIndex?_append (hother hnot) (beq_self_eq_true d) back⟩
  · exact .inl ⟨hmem, octetIndex?_eq_none (hother hmem)⟩

/-- Blanks at the end of a start of the text are skipped, and that gives a longer start. -/
theorem skipBlanksFrom_append (pre post : List Char) :
    skipBlanksFrom (pre ++ post) (encode pre).length =
      .ok (encode (pre ++ post.takeWhile Text.isBlank)).length := by
  have hsplit := List.takeWhile_append_dropWhile (p := Text.isBlank) (l := post)
  have hall : ∀ c ∈ post.takeWhile Text.isBlank, (!Text.isBlank c) = false := by
    intro c hc
    simpa using List.all_eq_true.mp List.all_takeWhile c hc
  rw [skipBlanksFrom, slice_append_end, ok_bind]
  cases hrest : post.dropWhile Text.isBlank with
  | nil =>
    rw [hrest, List.append_nil] at hsplit
    rw [hsplit] at hall ⊢
    rw [octetIndex?_eq_none hall, pure_eq_ok]
  | cons c rest =>
    have hc : (!Text.isBlank c) = true := by
      have := List.head_dropWhile_not Text.isBlank (l := post) (by simp [hrest])
      simpa [hrest] using this
    rw [hrest] at hsplit
    have hindex := octetIndex?_append hall hc rest
    rw [hsplit] at hindex
    simp only [hindex, Utf8.encode_append, List.length_append, pure_eq_ok]

/-- The octets of a name at the end of a start of the text are those of name characters. -/
theorem skipWordFrom_append (pre post : List Char) :
    skipWordFrom (encode (pre ++ post)) (encode pre).length =
      .ok (encode (pre ++ post.takeWhile isWordChar)).length := by
  induction post generalizing pre with
  | nil =>
    rw [skipWordFrom]
    simp [pure_eq_ok]
  | cons c post ih =>
    obtain ⟨b, tail, hc, -, -, hb, htail⟩ := exists_encodeChar c
    have hin : (encode pre).length < (encode (pre ++ c :: post)).length := by simp [hc]
    have hget : octetAt (encode (pre ++ c :: post)) (encode pre).length = .ok b := by
      have := getElem?_encode_append pre (c :: post) 0
      rw [Nat.add_zero, Utf8.encode_cons, hc, List.cons_append, List.getElem?_cons_zero] at this
      rw [octetAt, this]
    rw [skipWordFrom, if_pos hin, hget, ok_bind, hb.isWordByte]
    by_cases hword : isWordChar c = true
    · have hlen : (encode (pre ++ [c])).length = (encode pre).length + 1 := by
        simp only [Utf8.encode_append, Utf8.encode_cons, Utf8.encode_nil, List.append_nil, hc,
          htail (toNat_of_isWordChar hword).2, List.length_append, List.length_singleton]
      have hnext := ih (pre ++ [c])
      rw [List.append_assoc, List.append_assoc, List.singleton_append, List.singleton_append,
        hlen] at hnext
      rw [if_pos hword, hnext, List.takeWhile_cons, if_pos hword]
    · rw [if_neg hword, List.takeWhile_cons, if_neg hword, List.append_nil, pure_eq_ok]

theorem getElem?_encode_eq_some {pre post : List Char} {c : Char} (hc : c.toNat < 0x80) :
    (encode (pre ++ post))[(encode pre).length]? = some (UInt8.ofNat c.toNat) ↔
      ∃ rest, post = c :: rest := by
  have hget := getElem?_encode_append pre post 0
  rw [Nat.add_zero] at hget
  rw [hget]
  cases post with
  | nil => simp
  | cons d post =>
    obtain ⟨b, tail, hd, -, -, hb, -⟩ := exists_encodeChar d
    have hbyte : (UInt8.ofNat c.toNat).toNat = c.toNat := by
      rw [UInt8.toNat_ofNat']
      omega
    rw [Utf8.encode_cons, hd, List.cons_append, List.getElem?_cons_zero, Option.some.injEq,
      ← UInt8.toNat_inj, hbyte]
    have hdc : d = c ↔ d.toNat = c.toNat := Char.toNat_inj.symm
    simp only [List.cons.injEq, exists_and_left, exists_eq', and_true, hdc]
    unfold LastOctet at hb
    omega

theorem length_encode_append_eq {pre mid : List Char} :
    (encode (pre ++ mid)).length = (encode pre).length ↔ mid = [] := by
  constructor
  · intro h
    rw [Utf8.encode_append, List.length_append] at h
    exact Utf8.eq_nil_of_length_encode (by omega)
  · rintro rfl
    rw [List.append_nil]

theorem length_encode_lt_append {pre mid : List Char} :
    (encode pre).length < (encode (pre ++ mid)).length ↔ mid ≠ [] := by
  rw [ne_eq, ← @length_encode_append_eq pre mid, Utf8.encode_append, List.length_append]
  omega

theorem length_encode_keyword (pre : List Char) (word : String) :
    (encode pre).length + (Utf8.encodeString word).length =
      (encode (pre ++ word.toList)).length := by
  rw [Utf8.encode_append, List.length_append]
  rfl

/-- Skipping blanks by offsets goes where skipping them by characters goes. -/
theorem exists_blanks (front after : List Char) :
    ∃ blanks rest, after = blanks ++ rest ∧ Text.skipBlanks after = rest ∧
      afterBlanks? after = (if blanks = [] then none else some rest) ∧
      skipBlanksFrom (front ++ after) (encode front).length =
        .ok (encode (front ++ blanks)).length := by
  refine ⟨after.takeWhile Text.isBlank, after.dropWhile Text.isBlank,
    List.takeWhile_append_dropWhile.symm, rfl, ?_, skipBlanksFrom_append front after⟩
  cases after with
  | nil => rfl
  | cons c rest =>
    by_cases hc : Text.isBlank c = true
    · simp [afterBlanks?, hc, Text.skipBlanks]
    · simp [afterBlanks?, hc]

/-- Skipping a name by octets goes where skipping it by characters goes. -/
theorem exists_name (front after : List Char) :
    ∃ name rest, after = name ++ rest ∧
      splitName? after = (if name = [] then none else some (name, rest)) ∧
      skipWordFrom (encode (front ++ after)) (encode front).length =
        .ok (encode (front ++ name)).length ∧
      slice (front ++ after) (encode front).length (encode (front ++ name)).length = .ok name := by
  have hsplit := List.takeWhile_append_dropWhile (p := isWordChar) (l := after)
  refine ⟨after.takeWhile isWordChar, after.dropWhile isWordChar, hsplit.symm, ?_,
    skipWordFrom_append front after, ?_⟩
  · rw [splitName?]
    cases after.takeWhile isWordChar with
    | nil => rfl
    | cons c name => rfl
  · have hslice := slice_append front (after.takeWhile isWordChar) (after.dropWhile isWordChar)
    rwa [hsplit] at hslice

/-! ## Declarations -/

theorem readNamespaceAt_append (pre after : List Char) :
    readNamespaceAt (pre ++ ("namespace".toList ++ after)) (encode pre).length =
      .ok (readNamespace after) := by
  rw [readNamespaceAt, length_encode_keyword, ← List.append_assoc]
  generalize pre ++ "namespace".toList = front
  simp only [slice_append_end, ok_bind]
  cases after with
  | nil => rfl
  | cons c rest =>
    by_cases hc : Text.isBlank c = true
    · have hne : (c == ';') = false := by
        rw [beq_eq_false_iff_ne]
        rintro rfl
        exact absurd hc (by decide)
      rcases octetIndex?_char ';' rest with ⟨hmem, hindex⟩ | ⟨path, back, rfl, hnot, hindex⟩
      · have hnone : octetIndex? (· == ';') (c :: rest) = none := by
          simp [octetIndex?, hne, hindex]
        simp [readNamespace, hc, hnone, hmem, pure_eq_ok]
      · have hmem : ';' ∈ path ++ ';' :: back := by simp
        have htake : (path ++ ';' :: back).takeWhile (· ≠ ';') = path := by
          simpa using takeWhile_concat hnot back
        have hlen : (encode (c :: path)).length = c.utf8Size + (encode path).length := by simp
        have hsome : octetIndex? (· == ';') (c :: (path ++ ';' :: back)) =
            some (encode (c :: path)).length := by
          simp [octetIndex?, hne, hindex]
        have hsemicolon : (encode front).length + (encode (c :: path)).length ≤
            (encode front).length + c.utf8Size ↔ path = [] := by
          have hnil : (encode path).length = 0 ↔ path = [] :=
            ⟨Utf8.eq_nil_of_length_encode, fun h => by rw [h]; rfl⟩
          rw [hlen, ← hnil]
          omega
        have hslice : slice (front ++ c :: (path ++ ';' :: back)) (encode front).length
            ((encode front).length + (encode (c :: path)).length) = .ok (c :: path) := by
          have := slice_append front (c :: path) (';' :: back)
          rwa [Utf8.encode_append, List.length_append, List.cons_append] at this
        simp only [readNamespace, hc, if_true, hsome, hsemicolon, hslice, ok_bind, htake,
          List.contains_eq_mem, hmem, decide_true]
        cases path with
        | nil => rfl
        | cons d path =>
          simp only [if_false, List.cons_ne_nil]
          generalize Text.trim (c :: d :: path) = trimmed
          cases trimmed with
          | nil => rfl
          | cons e trimmed => rfl
    · simp [readNamespace, hc, pure_eq_ok]

/-- Where blanks must stand, reading on by offsets gives what reading on by characters gives. -/
theorem skipBlanksFrom_bind {α : Type} (front after : List Char)
    {next : Nat → Except Fault (Option α)} {read : List Char → Option α}
    (h : ∀ blanks rest, after = blanks ++ rest →
      next (encode (front ++ blanks)).length = .ok (read rest)) :
    (do
      let i ← skipBlanksFrom (front ++ after) (encode front).length
      if i = (encode front).length then pure none else next i) =
      .ok ((afterBlanks? after).bind read) := by
  obtain ⟨blanks, rest, hsplit, -, hafter, hblanks⟩ := exists_blanks front after
  rw [hblanks, ok_bind, hafter]
  by_cases hnil : blanks = []
  · rw [if_pos (length_encode_append_eq.mpr hnil), if_pos hnil]
    rfl
  · rw [if_neg (mt length_encode_append_eq.mp hnil), if_neg hnil, Option.bind_some]
    exact h blanks rest hsplit

theorem readClassNameAt_append (pre after : List Char) :
    readClassNameAt (pre ++ ("class".toList ++ after)) (encode pre).length =
      .ok (readClassName after) := by
  rw [readClassNameAt, length_encode_keyword, ← List.append_assoc, readClassName, Option.map_bind]
  generalize pre ++ "class".toList = front
  apply skipBlanksFrom_bind
  rintro blanks rest rfl
  obtain ⟨name, back, rfl, hsplit, hname, hslice⟩ := exists_name (front ++ blanks) rest
  rw [← List.append_assoc, hname, ok_bind, hslice, Function.comp_apply, hsplit]
  by_cases hempty : name = []
  · rw [if_neg (fun hlt => length_encode_lt_append.mp hlt hempty), if_pos hempty]
    rfl
  · rw [if_pos (length_encode_lt_append.mpr hempty), if_neg hempty]
    rfl

theorem readMethodAt_append (pre after : List Char) :
    readMethodAt (pre ++ ("public".toList ++ after)) (encode pre).length =
      .ok (readMethod after) := by
  rw [readMethodAt, length_encode_keyword, ← List.append_assoc]
  generalize pre ++ "public".toList = front
  apply skipBlanksFrom_bind
  rintro blanks rest rfl
  rw [← List.append_assoc, slice_append_end, ok_bind]
  generalize front ++ blanks = front
  simp only [Option.bind_eq_bind, afterWord?]
  by_cases hfunction : "function".toList.isPrefixOf rest = true
  · rw [if_pos hfunction, if_pos hfunction, length_encode_keyword]
    obtain ⟨tail, rfl⟩ := List.isPrefixOf_iff_prefix.mp hfunction
    rw [List.drop_left, Option.bind_some, ← List.append_assoc]
    generalize front ++ "function".toList = front
    apply skipBlanksFrom_bind
    rintro blanks rest rfl
    obtain ⟨name, rest, rfl, hsplit, hname, hslice⟩ := exists_name (front ++ blanks) rest
    rw [← List.append_assoc, hname, ok_bind, hslice, hsplit]
    generalize front ++ blanks = front
    by_cases hempty : name = []
    · rw [if_pos (length_encode_append_eq.mpr hempty), if_pos hempty]
      rfl
    rw [if_neg (mt length_encode_append_eq.mp hempty), if_neg hempty, ← List.append_assoc]
    obtain ⟨blanks, rest, rfl, hskip, -, hblanks⟩ := exists_blanks (front ++ name) rest
    have hparen : (encode (front ++ name ++ (blanks ++ rest)))[
        (encode (front ++ name ++ blanks)).length]? = some 0x28 ↔ ∃ more, rest = '(' :: more := by
      rw [← List.append_assoc (front ++ name)]
      exact getElem?_encode_eq_some (c := '(') (by decide)
    rw [hblanks, ok_bind]
    simp only [Option.bind_some, hskip]
    by_cases hmore : ∃ more, rest = '(' :: more
    · rw [if_pos (hparen.mpr hmore)]
      obtain ⟨more, rfl⟩ := hmore
      rfl
    · rw [if_neg (mt hparen.mp hmore)]
      split
      · exact absurd ⟨_, rfl⟩ hmore
      · rfl
  · rw [if_neg hfunction, if_neg hfunction]
    rfl

/-! ## The scan -/

/-- Behind each keyword by itself stands the text that a reader by offsets starts from. -/
theorem readAt_of_mem {α : Type} {word : String} (hw : IsKeyword word)
    {readAt : List Char → Nat → Except Fault α} {read : List Char → α}
    (h : ∀ pre after, readAt (pre ++ (word.toList ++ after)) (encode pre).length =
      .ok (read after)) {text : List Char} {s : Site} (hs : s ∈ keywordSites word text) :
    readAt text s.offset = .ok (read s.after) := by
  obtain ⟨pre, post, rfl, rfl, -⟩ := (mem_keywordSites hw).mp hs
  rw [List.append_assoc]
  exact h pre post

theorem findNamespace_eq (text : List Char) :
    findNamespace text = .ok (namespacePath? text) := by
  have hoffsets := keywordOffsets_eq isKeyword_namespace isName_namespace text
  have hread : ∀ s ∈ keywordSites "namespace" text,
      readNamespaceAt text s.offset = .ok (readNamespace s.after) :=
    fun s hs => readAt_of_mem isKeyword_namespace readNamespaceAt_append hs
  rw [findNamespace, hoffsets, ok_bind, namespacePath?]
  generalize keywordSites "namespace" text = sites at hread
  induction sites with
  | nil => rfl
  | cons s sites ih =>
    rw [List.map_cons, firstNamespaceAt, hread s List.mem_cons_self, ok_bind, firstNamespace]
    cases readNamespace s.after with
    | pass => exact ih fun t ht => hread t (List.mem_cons_of_mem s ht)
    | stop path => rfl

theorem findClassName_eq (text : List Char) : findClassName text = .ok (className? text) := by
  have hoffsets := keywordOffsets_eq isKeyword_class isName_class text
  have hread : ∀ s ∈ keywordSites "class" text,
      readClassNameAt text s.offset = .ok (readClassName s.after) :=
    fun s hs => readAt_of_mem isKeyword_class readClassNameAt_append hs
  rw [findClassName, hoffsets, ok_bind, className?]
  generalize keywordSites "class" text = sites at hread
  induction sites with
  | nil => rfl
  | cons s sites ih =>
    rw [List.map_cons, List.findSomeM?_cons, hread s List.mem_cons_self, ok_bind,
      List.findSome?_cons]
    cases readClassName s.after with
    | none => exact ih fun t ht => hread t (List.mem_cons_of_mem s ht)
    | some name => rfl

theorem findMethods_eq (text : List Char) : findMethods text = .ok (publicMethods text) := by
  have hoffsets := keywordOffsets_eq isKeyword_public isName_public text
  have hread : ∀ s ∈ keywordSites "public" text,
      readMethodAt text s.offset = .ok (readMethod s.after) :=
    fun s hs => readAt_of_mem isKeyword_public readMethodAt_append hs
  rw [findMethods, hoffsets, ok_bind, publicMethods]
  generalize keywordSites "public" text = sites at hread
  induction sites with
  | nil => rfl
  | cons s sites ih =>
    have hrest := ih fun t ht => hread t (List.mem_cons_of_mem s ht)
    rw [List.map_cons, readMethodsAt, hread s List.mem_cons_self, ok_bind, hrest, ok_bind,
      List.filterMap_cons]
    cases readMethod s.after with
    | none => rfl
    | some name => rfl

theorem actions_eq (mode : Overflow) {source : String}
    (hfits : mode = .fails → source.toList.count '\n' < UInt32.size) :
    actions mode source = .ok (Controller.actions source) := by
  rw [actions, findClassName_eq, ok_bind]
  cases hname : className? source.toList with
  | none => rw [actions_of_className?_none hname, pure_eq_ok]
  | some name =>
    simp only [findNamespace_eq, findMethods_eq, ok_bind]
    exact countActions_publicMethods mode hname hfits

/-- No slice and no octet that the scan takes is a fault, for any source: each of its parts gives
the same as over characters. The offsets of keywords are those where they stand by themselves; from
any boundary, skipping ends at a boundary again, behind the blanks or the name. A slice is no fault
exactly if it starts and ends, in this order, where the text splits into characters. -/
theorem actions_safe (source : String) :
    (∀ first last mid, slice source.toList first last = .ok mid ↔
      ∃ pre post, source.toList = pre ++ (mid ++ post) ∧ (encode pre).length = first ∧
        (encode (pre ++ mid)).length = last) ∧
    (∀ word ∈ ["namespace", "class", "public"],
      keywordOffsets word source.toList =
        .ok ((keywordSites word source.toList).map Site.offset)) ∧
    (∀ pre post, source.toList = pre ++ post →
      skipBlanksFrom source.toList (encode pre).length =
        .ok (encode (pre ++ post.takeWhile Text.isBlank)).length ∧
      skipWordFrom (Utf8.encodeString source) (encode pre).length =
        .ok (encode (pre ++ post.takeWhile isWordChar)).length) ∧
    findNamespace source.toList = .ok (namespacePath? source.toList) ∧
    findClassName source.toList = .ok (className? source.toList) ∧
    findMethods source.toList = .ok (publicMethods source.toList) ∧
    actions .wraps source = .ok (Controller.actions source) := by
  refine ⟨fun first last mid => slice_eq_ok_iff, ?_, fun pre post hsplit => ?_,
    findNamespace_eq _, findClassName_eq _, findMethods_eq _,
    actions_eq .wraps fun hmode => nomatch hmode⟩
  · intro word hword
    simp only [List.mem_cons, List.not_mem_nil, or_false] at hword
    rcases hword with rfl | rfl | rfl
    · exact keywordOffsets_eq isKeyword_namespace isName_namespace _
    · exact keywordOffsets_eq isKeyword_class isName_class _
    · exact keywordOffsets_eq isKeyword_public isName_public _
  · rw [Utf8.encodeString, hsplit]
    exact ⟨skipBlanksFrom_append pre post, skipWordFrom_append pre post⟩

end RouteLens.Controller.ByOffset
