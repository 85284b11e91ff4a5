import RouteLens.Controller.Keyword
import RouteLens.Proofs.Text.Boundary

/-!
# Places of keywords

The search for a keyword skips the characters it has found. A keyword whose first character does
not come again in it cannot overlap itself, so the search finds every place where the keyword stands
by itself: as a split of the text into characters (`mem_keywordSites`), and as an offset among its
octets (`exists_site_iff`).
-/

namespace RouteLens.Source

open Utf8 (encode)

/-- The places where a word stands in a text, overlapping ones included. -/
def everySite (word : List Char) (before : Option Char) (offset : Nat) : List Char → List Site
  | [] => []
  | c :: rest =>
    if word.isPrefixOf (c :: rest) then
      ⟨before, offset, (c :: rest).drop word.length⟩ ::
        everySite word (some c) (offset + c.utf8Size) rest
    else everySite word (some c) (offset + c.utf8Size) rest

/-- A word whose first character does not come again cannot overlap itself, so the search that
skips what it has found misses no place. -/
theorem sitesFrom_eq_everySite {c : Char} {word : List Char} (hc : c ∉ word) (text : List Char)
    (skip : Nat) (before : Option Char) (offset : Nat) (hskip : c ∉ text.take skip) :
    sitesFrom (c :: word) skip before offset text = everySite (c :: word) before offset text := by
  induction text generalizing skip before offset with
  | nil => rfl
  | cons d rest ih =>
    cases skip with
    | zero =>
      by_cases hp : (c :: word).isPrefixOf (d :: rest) = true
      · have hrest : c ∉ rest.take word.length := by
          obtain ⟨post, hpost⟩ := List.isPrefixOf_iff_prefix.mp hp
          obtain ⟨-, rfl⟩ := List.cons.inj hpost
          simpa using hc
        simp only [sitesFrom, everySite, hp, if_true]
        simp [ih word.length _ _ hrest]
      · simp only [sitesFrom, everySite, hp]
        exact ih 0 _ _ (by simp)
    | succ skip =>
      simp only [List.take_succ_cons, List.mem_cons, not_or] at hskip
      have hp : (c :: word).isPrefixOf (d :: rest) = false := by
        simp [List.isPrefixOf, hskip.1]
      simp only [sitesFrom, everySite, hp]
      exact ih skip _ _ hskip.2

theorem mem_everySite {word : List Char} (hw : word ≠ []) {before : Option Char} {offset : Nat}
    {text : List Char} {site : Site} :
    site ∈ everySite word before offset text ↔
      ∃ pre post, text = pre ++ word ++ post ∧
        site = ⟨pre.getLast?.or before, offset + (encode pre).length, post⟩ := by
  induction text generalizing before offset with
  | nil => simp [everySite, hw]
  | cons c rest ih =>
    have later : site ∈ everySite word (some c) (offset + c.utf8Size) rest ↔
        ∃ pre post, c :: rest = (c :: pre) ++ word ++ post ∧
          site = ⟨(c :: pre).getLast?.or before, offset + (encode (c :: pre)).length, post⟩ := by
      rw [ih]
      simp [List.getLast?_cons, Nat.add_assoc]
    constructor
    · intro h
      rw [everySite] at h
      split at h
      · next hp =>
        rcases List.mem_cons.mp h with rfl | h
        · obtain ⟨post, hpost⟩ := List.isPrefixOf_iff_prefix.mp hp
          exact ⟨[], post, by simp [← hpost]⟩
        · obtain ⟨pre, post, htext, hsite⟩ := later.mp h
          exact ⟨c :: pre, post, htext, hsite⟩
      · obtain ⟨pre, post, htext, hsite⟩ := later.mp h
        exact ⟨c :: pre, post, htext, hsite⟩
    · rintro ⟨pre, post, htext, rfl⟩
      cases pre with
      | nil =>
        simp [everySite, htext]
      | cons d pre =>
        obtain ⟨rfl, -⟩ := List.cons.inj htext
        rw [everySite]
        split
        · exact List.mem_cons_of_mem _ (later.mpr ⟨pre, post, htext, rfl⟩)
        · exact later.mpr ⟨pre, post, htext, rfl⟩

theorem le_offset_of_mem_everySite {word : List Char} (hw : word ≠ []) {before : Option Char}
    {offset : Nat} {text : List Char} {site : Site}
    (h : site ∈ everySite word before offset text) : offset ≤ site.offset := by
  obtain ⟨pre, post, -, rfl⟩ := (mem_everySite hw).mp h
  exact Nat.le_add_right _ _

theorem everySite_increasing {word : List Char} (hw : word ≠ []) (text : List Char)
    (before : Option Char) (offset : Nat) :
    (everySite word before offset text).Pairwise (fun s t => s.offset < t.offset) := by
  induction text generalizing before offset with
  | nil => exact .nil
  | cons c rest ih =>
    rw [everySite]
    split
    · refine List.pairwise_cons.mpr ⟨fun site hsite => ?_, ih _ _⟩
      have := le_offset_of_mem_everySite hw hsite
      have := c.utf8Size_pos
      show offset < site.offset
      omega
    · exact ih _ _

/-! ## Keywords -/

/-- A keyword starts with an ASCII character that does not come again in it. -/
def IsKeyword (word : String) : Prop :=
  ∃ c rest, word.toList = c :: rest ∧ c ∉ rest ∧ c.toNat < 0x80

theorem isKeyword_public : IsKeyword "public" :=
  ⟨'p', ['u', 'b', 'l', 'i', 'c'], rfl, by decide, by decide⟩

theorem isKeyword_class : IsKeyword "class" :=
  ⟨'c', ['l', 'a', 's', 's'], rfl, by decide, by decide⟩

theorem IsKeyword.ne_nil {word : String} (hw : IsKeyword word) : word.toList ≠ [] := by
  obtain ⟨c, rest, hword, -⟩ := hw
  simp [hword]

theorem keywordSites_eq {word : String} (hw : IsKeyword word) (text : List Char) :
    keywordSites word text = (everySite word.toList none 0 text).filter Site.startsWord := by
  obtain ⟨c, rest, hword, hc, -⟩ := hw
  rw [keywordSites, hword, sitesFrom_eq_everySite hc _ _ _ _ (by simp)]

theorem mem_keywordSites {word : String} (hw : IsKeyword word) {text : List Char} {site : Site} :
    site ∈ keywordSites word text ↔
      ∃ pre post, text = pre ++ word.toList ++ post ∧
        site = ⟨pre.getLast?, (encode pre).length, post⟩ ∧ site.startsWord = true := by
  rw [keywordSites_eq hw, List.mem_filter, mem_everySite hw.ne_nil]
  simp only [Option.or_none, Nat.zero_add]
  constructor
  · rintro ⟨⟨pre, post, htext, hsite⟩, hstart⟩
    exact ⟨pre, post, htext, hsite, hstart⟩
  · rintro ⟨pre, post, htext, hsite, hstart⟩
    exact ⟨⟨pre, post, htext, hsite⟩, hstart⟩

theorem keywordSites_increasing {word : String} (hw : IsKeyword word) (text : List Char) :
    (keywordSites word text).Pairwise (fun s t => s.offset < t.offset) := by
  rw [keywordSites_eq hw]
  exact (everySite_increasing hw.ne_nil text none 0).filter _

/-! ## Places in the octets of a text -/

/-- A word may start at offset `p`: the octet before it, if there is one, is neither the octet of a
name nor a dollar sign. -/
def StartsWordAt (octets : Bytes) (p : Nat) : Prop :=
  p = 0 ∨ ∃ b, octets[p - 1]? = some b ∧ isWordByte b = false ∧ b ≠ 0x24

/-- A word may start at offset `p`, and from there on the octets read as `text`. -/
structure WordAt (octets : Bytes) (p : Nat) (text : List Char) : Prop where
  starts : StartsWordAt octets p
  reads : encode text <+: octets.drop p

theorem toNat_of_isWordChar {c : Char} (h : isWordChar c = true) :
    0x30 ≤ c.toNat ∧ c.toNat < 0x80 := by
  have hval : c.toNat = c.val.toNat := rfl
  delta isWordChar Char.isAlphanum Char.isAlpha Char.isUpper Char.isLower Char.isDigit at h
  simp only [UInt32.le_iff_toNat_le, ge_iff_le, UInt32.reduceToNat, Char.reduceVal, Bool.or_eq_true,
    Bool.and_eq_true, decide_eq_true_eq, beq_iff_eq] at h
  rcases h with ((h | h) | h) | rfl
  · omega
  · omega
  · omega
  · decide

theorem isWordChar_of_not_ascii {c : Char} (h : 0x80 ≤ c.toNat) : isWordChar c = false := by
  refine Bool.eq_false_iff.mpr fun hc => ?_
  have := (toNat_of_isWordChar hc).2
  omega

/-- The last octet of a character is the character itself in ASCII, and beyond ASCII otherwise. -/
def LastOctet (c : Char) (b : UInt8) : Prop :=
  b.toNat = c.toNat ∧ c.toNat < 0x80 ∨ 0x80 ≤ b.toNat ∧ 0x80 ≤ c.toNat

theorem exists_lastOctet (c : Char) :
    ∃ octets b, String.utf8EncodeChar c = octets ++ [b] ∧ LastOctet c b := by
  by_cases hc : c.toNat < 0x80
  · refine ⟨[], UInt8.ofNat c.toNat, Utf8.encodeChar_of_ascii hc, Or.inl ⟨?_, hc⟩⟩
    simp
    omega
  · have hne := String.utf8EncodeChar_ne_nil (c := c)
    refine ⟨_, _, (List.dropLast_concat_getLast hne).symm, Or.inr ⟨Nat.not_lt.mp ?_, by omega⟩⟩
    intro hb
    -- an octet of ASCII would be the first one, and so the only one
    have first := Utf8.isFirstByte_of_ascii (UInt8.lt_iff_toNat_lt.mpr hb)
    rw [List.getLast_eq_getElem, UInt8.isUTF8FirstByte_getElem_utf8EncodeChar,
      String.length_utf8EncodeChar] at first
    have hsize : c.utf8Size = 1 := by
      have := c.utf8Size_pos
      omega
    rw [Char.utf8Size_eq_one_iff, UInt32.le_iff_toNat_le] at hsize
    exact hc (Nat.lt_succ_of_le hsize)

theorem LastOctet.isWordByte {c : Char} {b : UInt8} (h : LastOctet c b) :
    isWordByte b = isWordChar c := by
  rcases h with ⟨h, -⟩ | ⟨hb, hc⟩
  · rw [Source.isWordByte, h, Char.ofNat_toNat]
  · have hval : (Char.ofNat b.toNat).toNat = b.toNat := by
      have := b.toNat_lt
      have hv : b.toNat.isValidChar := Or.inl (by omega)
      rw [Char.ofNat, dif_pos hv]
      rfl
    rw [Source.isWordByte, isWordChar_of_not_ascii hc, isWordChar_of_not_ascii (by omega)]

theorem LastOctet.eq_dollar_iff {c : Char} {b : UInt8} (h : LastOctet c b) :
    b = 0x24 ↔ c = '$' := by
  have hb : b = 0x24 ↔ b.toNat = 0x24 := UInt8.toNat_inj.symm
  have hc : c = '$' ↔ c.toNat = 0x24 := Char.toNat_inj.symm
  rw [hb, hc]
  unfold LastOctet at h
  omega

/-- The octet before a place is the last one of the character before it. -/
theorem exists_octet_before (init : List Char) (c : Char) (post : List Char) :
    ∃ b, (encode (init ++ [c] ++ post))[(encode (init ++ [c])).length - 1]? = some b ∧
      LastOctet c b := by
  obtain ⟨octets, b, hc, hb⟩ := exists_lastOctet c
  refine ⟨b, ?_, hb⟩
  simp only [Utf8.encode_append, Utf8.encode_cons, Utf8.encode_nil, hc, List.append_nil]
  rw [← List.append_assoc, List.getElem?_append_left (by simp)]
  simp

theorem length_encode_concat_ne_zero (init : List Char) (c : Char) :
    (encode (init ++ [c])).length ≠ 0 := by
  intro h
  exact List.concat_ne_nil c init (by simpa using Utf8.eq_nil_of_length_encode h)

theorem startsWordAt_encode_iff (pre post : List Char) :
    StartsWordAt (encode (pre ++ post)) (encode pre).length ↔
      Site.startsWord ⟨pre.getLast?, (encode pre).length, post⟩ = true := by
  rcases List.eq_nil_or_concat pre with rfl | ⟨init, c, rfl⟩
  · simp [StartsWordAt, Site.startsWord]
  · obtain ⟨b, hlast, hb⟩ := exists_octet_before init c post
    have hpos := length_encode_concat_ne_zero init c
    have hoctet : StartsWordAt (encode (init ++ [c] ++ post)) (encode (init ++ [c])).length ↔
        isWordByte b = false ∧ b ≠ 0x24 := by
      constructor
      · rintro (h | ⟨b', hb', hword, hdollar⟩)
        · exact absurd h hpos
        · rw [hlast] at hb'
          obtain rfl := Option.some.inj hb'
          exact ⟨hword, hdollar⟩
      · exact fun ⟨hword, hdollar⟩ => Or.inr ⟨b, hlast, hword, hdollar⟩
    rw [List.concat_eq_append, hoctet, hb.isWordByte, ne_eq, hb.eq_dollar_iff]
    simp [Site.startsWord]

/-- A text that starts with ASCII stands among octets only where it stands among characters. -/
theorem wordAt_iff_split {whole text : List Char} {c : Char} {p : Nat} (hc : c.toNat < 0x80) :
    WordAt (encode whole) p (c :: text) ↔
      ∃ pre post, whole = pre ++ (c :: text ++ post) ∧ (encode pre).length = p ∧
        Site.startsWord ⟨pre.getLast?, p, c :: text ++ post⟩ = true := by
  constructor
  · rintro ⟨hstart, rest, hrest⟩
    have hsplit : encode whole = (encode whole).take p ++ (encode (c :: text) ++ rest) := by
      rw [hrest, List.take_append_drop]
    obtain ⟨pre, post, hwhole, hpre, -⟩ := Utf8.encode_eq_append_word hc hsplit
    have hp : (encode pre).length = p := by
      have hlen := congrArg List.length hrest
      simp only [Utf8.encode_cons, Utf8.encodeChar_of_ascii hc, List.length_append,
        List.length_drop, List.length_cons] at hlen
      rw [← hpre, List.length_take]
      omega
    subst hwhole hp
    rw [List.append_assoc, startsWordAt_encode_iff] at hstart
    exact ⟨pre, post, List.append_assoc .., rfl, hstart⟩
  · rintro ⟨pre, post, rfl, rfl, hstart⟩
    exact ⟨(startsWordAt_encode_iff _ _).mpr hstart, encode post, by simp⟩

theorem exists_site_iff {word : String} (hw : IsKeyword word) {whole tail : List Char} {p : Nat} :
    (∃ site ∈ keywordSites word whole, site.offset = p ∧ tail <+: site.after) ↔
      WordAt (encode whole) p (word.toList ++ tail) := by
  obtain ⟨c, rest, hword, -, hc⟩ := id hw
  rw [hword, List.cons_append, wordAt_iff_split hc, ← List.cons_append, ← hword]
  constructor
  · rintro ⟨site, hsite, rfl, post, hpost⟩
    obtain ⟨pre, after, rfl, rfl, hstart⟩ := (mem_keywordSites hw).mp hsite
    obtain rfl : tail ++ post = after := hpost
    exact ⟨pre, post, by simp, rfl, hstart⟩
  · rintro ⟨pre, post, rfl, rfl, hstart⟩
    refine ⟨⟨pre.getLast?, (encode pre).length, tail ++ post⟩, ?_, rfl, post, rfl⟩
    exact (mem_keywordSites hw).mpr ⟨pre, tail ++ post, by simp, rfl, hstart⟩

end RouteLens.Source
