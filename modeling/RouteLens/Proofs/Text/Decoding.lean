import Mathlib.Data.List.Forall2
import Mathlib.Tactic.SplitIfs
import RouteLens.Proofs.Text.Boundary

/-!
# Decoding of UTF-8

The decoder beside the encoder. The table of first octets and ranges describes exactly the octets of
characters, so octets are decoded exactly when they are the encoding of a text (`decode_eq_ok_iff`),
and a fault stands where they stop being one (`decode_eq_error_iff`). Lossy decoding never fails: it
replaces as many octets at once as some character begins with (`lossy_iff`).
-/

namespace RouteLens.Utf8

/-! ## The table of first octets -/

/-- An octet lies in a range. -/
def InRange (range : UInt8 × UInt8) (b : UInt8) : Prop :=
  range.1 ≤ b ∧ b ≤ range.2

instance (range : UInt8 × UInt8) (b : UInt8) : Decidable (InRange range b) :=
  inferInstanceAs (Decidable (_ ∧ _))

/-- The value that later octets add to the bits of a first one. -/
def joined (bits : Nat) (tails : Bytes) : Nat :=
  tails.foldl (fun value b => value * 0x40 + b.toNat % 0x40) bits

theorem inRange_iff {low high b : UInt8} :
    InRange (low, high) b ↔ low.toNat ≤ b.toNat ∧ b.toNat ≤ high.toNat := by
  rw [InRange, UInt8.le_iff_toNat_le, UInt8.le_iff_toNat_le]

theorem inRange_tail_iff {b : UInt8} : InRange tail b ↔ 0x80 ≤ b.toNat ∧ b.toNat ≤ 0xbf :=
  inRange_iff

/-- The table of first octets, by their numbers. -/
theorem lead?_eq (b : UInt8) : lead? b =
    if b.toNat < 0xc2 then none
    else if b.toNat ≤ 0xdf then some ⟨b.toNat % 0x20, [tail]⟩
    else if b.toNat = 0xe0 then some ⟨0, [(0xa0, 0xbf), tail]⟩
    else if b.toNat = 0xed then some ⟨0xd, [(0x80, 0x9f), tail]⟩
    else if b.toNat ≤ 0xef then some ⟨b.toNat % 0x10, [tail, tail]⟩
    else if b.toNat = 0xf0 then some ⟨0, [(0x90, 0xbf), tail, tail]⟩
    else if b.toNat ≤ 0xf3 then some ⟨b.toNat % 0x8, [tail, tail, tail]⟩
    else if b.toNat = 0xf4 then some ⟨4, [(0x80, 0x8f), tail, tail]⟩
    else none := by
  simp only [lead?, UInt8.lt_iff_toNat_lt, UInt8.le_iff_toNat_le, ← UInt8.toNat_inj,
    UInt8.reduceToNat]

theorem lead?_two {b : UInt8} (h : 0xc2 ≤ b.toNat ∧ b.toNat ≤ 0xdf) :
    lead? b = some ⟨b.toNat % 0x20, [tail]⟩ := by
  rw [lead?_eq, if_neg (by omega), if_pos h.2]

theorem lead?_three {b : UInt8} (h : 0xe0 ≤ b.toNat ∧ b.toNat ≤ 0xef) :
    ∃ range, lead? b = some ⟨b.toNat % 0x10, [range, tail]⟩ ∧ ∀ t, InRange range t ↔
      (0x80 ≤ t.toNat ∧ t.toNat ≤ 0xbf) ∧ (b.toNat = 0xe0 → 0xa0 ≤ t.toNat) ∧
        (b.toNat = 0xed → t.toNat ≤ 0x9f) := by
  rw [lead?_eq, if_neg (by omega), if_neg (by omega)]
  by_cases h1 : b.toNat = 0xe0
  · refine ⟨_, by rw [if_pos h1, h1], fun t => inRange_iff.trans ?_⟩
    simp only [UInt8.reduceToNat]
    omega
  by_cases h2 : b.toNat = 0xed
  · refine ⟨_, by rw [if_neg h1, if_pos h2, h2], fun t => inRange_iff.trans ?_⟩
    simp only [UInt8.reduceToNat]
    omega
  · rw [if_neg h1, if_neg h2, if_pos h.2]
    exact ⟨_, rfl, fun t => inRange_tail_iff.trans (by omega)⟩

theorem lead?_four {b : UInt8} (h : 0xf0 ≤ b.toNat ∧ b.toNat ≤ 0xf4) :
    ∃ range, lead? b = some ⟨b.toNat % 0x8, [range, tail, tail]⟩ ∧ ∀ t, InRange range t ↔
      (0x80 ≤ t.toNat ∧ t.toNat ≤ 0xbf) ∧ (b.toNat = 0xf0 → 0x90 ≤ t.toNat) ∧
        (b.toNat = 0xf4 → t.toNat ≤ 0x8f) := by
  rw [lead?_eq, if_neg (by omega), if_neg (by omega), if_neg (by omega), if_neg (by omega),
    if_neg (by omega)]
  split_ifs with h1 h2 h3
  · refine ⟨_, by rw [h1], fun t => inRange_iff.trans ?_⟩
    simp only [UInt8.reduceToNat]
    omega
  · exact ⟨_, rfl, fun t => inRange_tail_iff.trans (by omega)⟩
  · refine ⟨_, by rw [h3], fun t => inRange_iff.trans ?_⟩
    simp only [UInt8.reduceToNat]
    omega
  · omega

theorem lead?_cases {b : UInt8} {lead : Lead} (h : lead? b = some lead) :
    (0xc2 ≤ b.toNat ∧ b.toNat ≤ 0xdf) ∨ (0xe0 ≤ b.toNat ∧ b.toNat ≤ 0xef) ∨
      (0xf0 ≤ b.toNat ∧ b.toNat ≤ 0xf4) := by
  rw [lead?_eq] at h
  split_ifs at h <;> omega

/-! ## The octets of a character -/

theorem encodeChar_two {c : Char} (h : 0x80 ≤ c.toNat ∧ c.toNat ≤ 0x7ff) :
    String.utf8EncodeChar c =
      [UInt8.ofNat (c.toNat / 64 + 0xc0), UInt8.ofNat (c.toNat % 64 + 0x80)] := by
  have hval : c.val.toNat = c.toNat := rfl
  simp only [String.utf8EncodeChar, hval, show ¬ c.toNat ≤ 127 by omega,
    show c.toNat ≤ 2047 by omega, if_true, if_false]
  rw [Nat.mod_eq_of_lt (show c.toNat / 64 < 32 by omega)]

theorem encodeChar_three {c : Char} (h : 0x800 ≤ c.toNat ∧ c.toNat ≤ 0xffff) :
    String.utf8EncodeChar c =
      [UInt8.ofNat (c.toNat / 4096 + 0xe0), UInt8.ofNat (c.toNat / 64 % 64 + 0x80),
        UInt8.ofNat (c.toNat % 64 + 0x80)] := by
  have hval : c.val.toNat = c.toNat := rfl
  simp only [String.utf8EncodeChar, hval, show ¬ c.toNat ≤ 127 by omega,
    show ¬ c.toNat ≤ 2047 by omega, show c.toNat ≤ 65535 by omega, if_true, if_false]
  rw [Nat.mod_eq_of_lt (show c.toNat / 4096 < 16 by omega)]

theorem encodeChar_four {c : Char} (h : 0x10000 ≤ c.toNat) :
    String.utf8EncodeChar c =
      [UInt8.ofNat (c.toNat / 262144 + 0xf0), UInt8.ofNat (c.toNat / 4096 % 64 + 0x80),
        UInt8.ofNat (c.toNat / 64 % 64 + 0x80), UInt8.ofNat (c.toNat % 64 + 0x80)] := by
  have hval : c.val.toNat = c.toNat := rfl
  have hmax : c.toNat < 0x110000 := by
    rcases c.valid with h | h
    · exact Nat.lt_trans h (by decide)
    · exact h.2
  simp only [String.utf8EncodeChar, hval, show ¬ c.toNat ≤ 127 by omega,
    show ¬ c.toNat ≤ 2047 by omega, show ¬ c.toNat ≤ 65535 by omega, if_false]
  rw [Nat.mod_eq_of_lt (show c.toNat / 262144 < 8 by omega)]

theorem toNat_octet {n : Nat} (h : n < 256) : (UInt8.ofNat n).toNat = n :=
  UInt8.toNat_ofNat_of_lt' h

theorem inRange_tail_ofNat (n : Nat) : InRange tail (UInt8.ofNat (n % 64 + 0x80)) := by
  rw [inRange_tail_iff, toNat_octet (by omega)]
  omega

/-- A character that is not ASCII is written as a first octet of the table and octets in its
ranges, which together have its number. -/
theorem exists_lead_of_encodeChar {c : Char} (h : 0x80 ≤ c.toNat) :
    ∃ b tails lead, String.utf8EncodeChar c = b :: tails ∧ lead? b = some lead ∧
      List.Forall₂ InRange lead.tails tails ∧ joined lead.bits tails = c.toNat := by
  have hvalid : c.toNat < 0xd800 ∨ (0xdfff < c.toNat ∧ c.toNat < 0x110000) := c.valid
  by_cases h2 : c.toNat ≤ 0x7ff
  · have hb : (UInt8.ofNat (c.toNat / 64 + 0xc0)).toNat = c.toNat / 64 + 0xc0 :=
      toNat_octet (by omega)
    refine ⟨_, _, _, encodeChar_two ⟨h, h2⟩, lead?_two (by omega),
      .cons (inRange_tail_ofNat _) .nil, ?_⟩
    simp only [joined, List.foldl_cons, List.foldl_nil, UInt8.toNat_ofNat', hb]
    omega
  by_cases h3 : c.toNat ≤ 0xffff
  · have hb : (UInt8.ofNat (c.toNat / 4096 + 0xe0)).toNat = c.toNat / 4096 + 0xe0 :=
      toNat_octet (by omega)
    have ht : (UInt8.ofNat (c.toNat / 64 % 64 + 0x80)).toNat = c.toNat / 64 % 64 + 0x80 :=
      toNat_octet (by omega)
    obtain ⟨range, hlead, hrange⟩ := lead?_three (b := UInt8.ofNat (c.toNat / 4096 + 0xe0))
      (by omega)
    refine ⟨_, _, _, encodeChar_three ⟨by omega, h3⟩, hlead,
      .cons ((hrange _).mpr (by omega)) (.cons (inRange_tail_ofNat _) .nil), ?_⟩
    simp only [joined, List.foldl_cons, List.foldl_nil, UInt8.toNat_ofNat', hb]
    omega
  · have hb : (UInt8.ofNat (c.toNat / 262144 + 0xf0)).toNat = c.toNat / 262144 + 0xf0 :=
      toNat_octet (by omega)
    have ht : (UInt8.ofNat (c.toNat / 4096 % 64 + 0x80)).toNat = c.toNat / 4096 % 64 + 0x80 :=
      toNat_octet (by omega)
    obtain ⟨range, hlead, hrange⟩ := lead?_four (b := UInt8.ofNat (c.toNat / 262144 + 0xf0))
      (by omega)
    refine ⟨_, _, _, encodeChar_four (by omega), hlead, .cons ((hrange _).mpr (by omega))
      (.cons (inRange_tail_ofNat _) (.cons (inRange_tail_ofNat _) .nil)), ?_⟩
    simp only [joined, List.foldl_cons, List.foldl_nil, UInt8.toNat_ofNat', hb]
    omega

theorem toNat_ofNat {n : Nat} (h : n.isValidChar) : (Char.ofNat n).toNat = n := by
  rw [Char.ofNat, dif_pos h]
  rfl

theorem ofNat_eq {n : Nat} {b : UInt8} (h : n = b.toNat) : UInt8.ofNat n = b := by
  rw [h, UInt8.ofNat_toNat]

/-- A first octet of the table and octets in its ranges are a character. -/
theorem encodeChar_joined {b : UInt8} {lead : Lead} {tails : Bytes} (hlead : lead? b = some lead)
    (htails : List.Forall₂ InRange lead.tails tails) :
    String.utf8EncodeChar (Char.ofNat (joined lead.bits tails)) = b :: tails := by
  rcases lead?_cases hlead with hb | hb | hb
  · rw [lead?_two hb] at hlead
    obtain rfl := Option.some.inj hlead
    obtain ⟨t, _, h1, hnil, rfl⟩ := List.forall₂_cons_left_iff.mp htails
    obtain rfl := List.forall₂_nil_left_iff.mp hnil
    rw [inRange_tail_iff] at h1
    have hvalue : joined (b.toNat % 0x20) [t] = (b.toNat - 0xc0) * 64 + (t.toNat - 0x80) := by
      simp only [joined, List.foldl_cons, List.foldl_nil]
      omega
    rw [hvalue]
    have hchar := toNat_ofNat (n := (b.toNat - 0xc0) * 64 + (t.toNat - 0x80)) (.inl (by omega))
    rw [encodeChar_two (by omega), hchar, ofNat_eq (b := b) (by omega),
      ofNat_eq (b := t) (by omega)]
  · obtain ⟨range, hthree, hrange⟩ := lead?_three hb
    rw [hthree] at hlead
    obtain rfl := Option.some.inj hlead
    obtain ⟨t, _, h1, hlater, rfl⟩ := List.forall₂_cons_left_iff.mp htails
    obtain ⟨u, _, h2, hnil, rfl⟩ := List.forall₂_cons_left_iff.mp hlater
    obtain rfl := List.forall₂_nil_left_iff.mp hnil
    rw [hrange] at h1
    rw [inRange_tail_iff] at h2
    have hvalue : joined (b.toNat % 0x10) [t, u] =
        (b.toNat - 0xe0) * 4096 + (t.toNat - 0x80) * 64 + (u.toNat - 0x80) := by
      simp only [joined, List.foldl_cons, List.foldl_nil]
      omega
    rw [hvalue]
    have hchar := toNat_ofNat
      (n := (b.toNat - 0xe0) * 4096 + (t.toNat - 0x80) * 64 + (u.toNat - 0x80)) (by
        rw [Nat.isValidChar]
        omega)
    rw [encodeChar_three (by omega), hchar, ofNat_eq (b := b) (by omega),
      ofNat_eq (b := t) (by omega), ofNat_eq (b := u) (by omega)]
  · obtain ⟨range, hfour, hrange⟩ := lead?_four hb
    rw [hfour] at hlead
    obtain rfl := Option.some.inj hlead
    obtain ⟨t, _, h1, hlater, rfl⟩ := List.forall₂_cons_left_iff.mp htails
    obtain ⟨u, _, h2, hlast, rfl⟩ := List.forall₂_cons_left_iff.mp hlater
    obtain ⟨w, _, h3, hnil, rfl⟩ := List.forall₂_cons_left_iff.mp hlast
    obtain rfl := List.forall₂_nil_left_iff.mp hnil
    rw [hrange] at h1
    rw [inRange_tail_iff] at h2 h3
    have hvalue : joined (b.toNat % 0x8) [t, u, w] = (b.toNat - 0xf0) * 262144 +
        (t.toNat - 0x80) * 4096 + (u.toNat - 0x80) * 64 + (w.toNat - 0x80) := by
      simp only [joined, List.foldl_cons, List.foldl_nil]
      omega
    rw [hvalue]
    have hchar := toNat_ofNat (n := (b.toNat - 0xf0) * 262144 + (t.toNat - 0x80) * 4096 +
      (u.toNat - 0x80) * 64 + (w.toNat - 0x80)) (by
        rw [Nat.isValidChar]
        omega)
    rw [encodeChar_four (by omega), hchar, ofNat_eq (b := b) (by omega),
      ofNat_eq (b := t) (by omega), ofNat_eq (b := u) (by omega), ofNat_eq (b := w) (by omega)]

/-- A character begins with an octet of ASCII, which it is alone, or with one of the table. -/
theorem encodeChar_eq_cons {c : Char} {b : UInt8} {tails : Bytes}
    (h : String.utf8EncodeChar c = b :: tails) :
    (b < 0x80 ∧ tails = [] ∧ Char.ofNat b.toNat = c) ∨
      ∃ lead, ¬ b < 0x80 ∧ lead? b = some lead ∧ List.Forall₂ InRange lead.tails tails ∧
        Char.ofNat (joined lead.bits tails) = c := by
  by_cases hc : c.toNat < 0x80
  · rw [encodeChar_of_ascii hc] at h
    obtain ⟨rfl, rfl⟩ := List.cons.inj h
    have hb : (UInt8.ofNat c.toNat).toNat = c.toNat := by
      rw [UInt8.toNat_ofNat']
      omega
    refine .inl ⟨?_, rfl, ?_⟩
    · rw [UInt8.lt_iff_toNat_lt, hb]
      exact hc
    · rw [hb, Char.ofNat_toNat]
  · obtain ⟨b', tails', lead, henc, hlead, htails, hjoined⟩ :=
      exists_lead_of_encodeChar (Nat.le_of_not_lt hc)
    obtain ⟨rfl, rfl⟩ := List.cons.inj (henc.symm.trans h)
    refine .inr ⟨lead, ?_, hlead, htails, by rw [hjoined, Char.ofNat_toNat]⟩
    rw [UInt8.lt_iff_toNat_lt]
    have := lead?_cases hlead
    simp only [UInt8.reduceToNat]
    omega

theorem lead?_of_encodeChar {c : Char} {b : UInt8} {tails : Bytes} (hb : ¬ b < 0x80)
    (h : String.utf8EncodeChar c = b :: tails) :
    ∃ lead, lead? b = some lead ∧ List.Forall₂ InRange lead.tails tails := by
  obtain ⟨hlt, -⟩ | ⟨lead, -, hlead, htails, -⟩ := encodeChar_eq_cons h
  · exact absurd hlt hb
  · exact ⟨lead, hlead, htails⟩

/-- No range of the table is empty. -/
theorem exists_inRange {b : UInt8} {lead : Lead} (h : lead? b = some lead) :
    ∀ range ∈ lead.tails, ∃ t, InRange range t := by
  have hlisted : ∀ range ∈ lead.tails,
      range ∈ [tail, (0xa0, 0xbf), (0x80, 0x9f), (0x90, 0xbf), (0x80, 0x8f)] := by
    rw [lead?_eq] at h
    split_ifs at h <;> cases h <;> simp
  have hfirst : ∀ range ∈ [tail, (0xa0, 0xbf), (0x80, 0x9f), (0x90, 0xbf), (0x80, 0x8f)],
      InRange range range.1 := by
    simp only [List.forall_mem_cons, List.not_mem_nil, false_imp_iff, implies_true, and_true]
    decide
  intro range hrange
  exact ⟨range.1, hfirst range (hlisted range hrange)⟩

/-! ## Reading one character -/

theorem readTails_of_inRange {range : UInt8 × UInt8} {b : UInt8} (h : InRange range b)
    (value matched : Nat) (ranges : List (UInt8 × UInt8)) (rest : Bytes) :
    readTails value matched (range :: ranges) (b :: rest) =
      readTails (value * 0x40 + b.toNat % 0x40) (matched + 1) ranges rest :=
  if_pos h

theorem readTails_complete {ranges : List (UInt8 × UInt8)} {tails : Bytes}
    (h : List.Forall₂ InRange ranges tails) (value matched : Nat) (rest : Bytes) :
    readTails value matched ranges (tails ++ rest) = .complete (joined value tails) := by
  induction h generalizing value matched with
  | nil => cases rest <;> rfl
  | @cons range b ranges tails hb _ ih =>
    rw [List.cons_append, readTails_of_inRange hb, ih]
    rfl

theorem readTails_broken {front more : List (UInt8 × UInt8)} {range : UInt8 × UInt8} {tails : Bytes}
    (h : List.Forall₂ InRange front tails) {b : UInt8} (hb : ¬ InRange range b)
    (value matched : Nat) (rest : Bytes) :
    readTails value matched (front ++ range :: more) (tails ++ b :: rest) =
      .broken (matched + tails.length) := by
  induction h generalizing value matched with
  | nil =>
    exact if_neg hb
  | @cons first b' front tails hb' _ ih =>
    rw [List.cons_append, List.cons_append, readTails_of_inRange hb', ih, List.length_cons]
    congr 1
    omega

theorem readTails_cut {front more : List (UInt8 × UInt8)} {range : UInt8 × UInt8} {tails : Bytes}
    (h : List.Forall₂ InRange front tails) (value matched : Nat) :
    readTails value matched (front ++ range :: more) tails = .cut := by
  induction h generalizing value matched with
  | nil => rfl
  | @cons first b' front tails hb' _ ih =>
    rw [List.cons_append, readTails_of_inRange hb', ih]

/-- Octets either fill the ranges, or stop agreeing with them at an octet, or end before. -/
theorem ranges_cases (ranges : List (UInt8 × UInt8)) (octets : Bytes) :
    (∃ tails rest, octets = tails ++ rest ∧ List.Forall₂ InRange ranges tails) ∨
    (∃ front range more tails b rest, ranges = front ++ range :: more ∧
      octets = tails ++ b :: rest ∧ List.Forall₂ InRange front tails ∧ ¬ InRange range b) ∨
    (∃ front range more, ranges = front ++ range :: more ∧
      List.Forall₂ InRange front octets) := by
  induction ranges generalizing octets with
  | nil => exact .inl ⟨[], octets, rfl, .nil⟩
  | cons range ranges ih =>
    cases octets with
    | nil => exact .inr (.inr ⟨[], range, ranges, rfl, .nil⟩)
    | cons b octets =>
      by_cases hb : InRange range b
      · obtain ⟨tails, rest, rfl, h⟩ | ⟨front, stop, more, tails, b', rest, rfl, rfl, h, hb'⟩ |
          ⟨front, stop, more, rfl, h⟩ := ih octets
        · exact .inl ⟨b :: tails, rest, rfl, .cons hb h⟩
        · exact .inr (.inl ⟨range :: front, stop, more, b :: tails, b', rest, rfl, rfl,
            .cons hb h, hb'⟩)
        · exact .inr (.inr ⟨range :: front, stop, more, rfl, .cons hb h⟩)
      · exact .inr (.inl ⟨[], range, ranges, [], b, octets, rfl, rfl, .nil, hb⟩)

/-- Some character begins with these octets. -/
def Begins (part : Bytes) : Prop :=
  ∃ c, part <+: String.utf8EncodeChar c

/-- Octets stand where a character should, and are none: `part` is as much of them as a character
begins with, or one octet if none begins with that. -/
structure Broken (part rest : Bytes) : Prop where
  ne_nil : part ≠ []
  no_char : ∀ c, ¬ String.utf8EncodeChar c <+: part ++ rest
  begins : part.length = 1 ∨ Begins part
  longest : ∀ b ∈ rest.head?, ¬ Begins (part ++ [b])

theorem inRange_of_forall₂ {front more : List (UInt8 × UInt8)} {range : UInt8 × UInt8}
    {tails rest : Bytes} {b : UInt8} (h : List.Forall₂ InRange front tails)
    (hall : List.Forall₂ InRange (front ++ range :: more) (tails ++ b :: rest)) :
    InRange range b := by
  induction h with
  | nil =>
    cases hall with
    | cons hb _ => exact hb
  | cons _ _ ih =>
    cases hall with
    | cons _ hall => exact ih hall

/-- A first octet and octets in the first of its ranges can be completed to a character. -/
theorem begins_of_forall₂ {b : UInt8} {lead : Lead} {front more : List (UInt8 × UInt8)}
    {tails : Bytes} (hlead : lead? b = some lead) (hsplit : lead.tails = front ++ more)
    (h : List.Forall₂ InRange front tails) : Begins (b :: tails) := by
  obtain ⟨fill, hfill⟩ : ∃ fill, List.Forall₂ InRange more fill := by
    have hexists : ∀ range ∈ more, ∃ t, InRange range t := by
      intro range hrange
      exact exists_inRange hlead range (hsplit ▸ List.mem_append_right front hrange)
    clear hsplit
    induction more with
    | nil => exact ⟨[], .nil⟩
    | cons range more ih =>
      obtain ⟨t, ht⟩ := hexists range List.mem_cons_self
      obtain ⟨fill, hfill⟩ := ih fun range hrange => hexists range (List.mem_cons_of_mem _ hrange)
      exact ⟨t :: fill, .cons ht hfill⟩
  have hall : List.Forall₂ InRange lead.tails (tails ++ fill) := by
    rw [hsplit]
    exact List.rel_append h hfill
  refine ⟨Char.ofNat (joined lead.bits (tails ++ fill)), fill, ?_⟩
  rw [encodeChar_joined hlead hall, List.cons_append]

/-- Nothing begins with octets of which the last is not in its range. -/
theorem not_begins_of_not_inRange {b next : UInt8} {lead : Lead}
    {front more : List (UInt8 × UInt8)} {range : UInt8 × UInt8} {tails : Bytes}
    (hb : ¬ b < 0x80) (hlead : lead? b = some lead) (hsplit : lead.tails = front ++ range :: more)
    (h : List.Forall₂ InRange front tails) (hnext : ¬ InRange range next) :
    ¬ Begins (b :: tails ++ [next]) := by
  rintro ⟨c, fill, hc⟩
  simp only [List.cons_append, List.append_assoc, List.nil_append] at hc
  obtain ⟨lead', hlead', hall⟩ := lead?_of_encodeChar hb hc.symm
  obtain rfl := Option.some.inj (hlead.symm.trans hlead')
  rw [hsplit] at hall
  exact hnext (inRange_of_forall₂ h hall)

/-- A character that stands where a first octet has too few others behind it goes on behind them. -/
theorem exists_begins_of_prefix {b : UInt8} {lead : Lead} {tails rest : Bytes} {c : Char}
    (hb : ¬ b < 0x80) (hlead : lead? b = some lead) (hshort : tails.length < lead.tails.length)
    (hc : String.utf8EncodeChar c <+: b :: tails ++ rest) :
    ∃ next ∈ rest.head?, Begins (b :: tails ++ [next]) := by
  have hlength : (b :: tails).length + 1 ≤ (String.utf8EncodeChar c).length := by
    cases henc : String.utf8EncodeChar c with
    | nil => exact absurd henc String.utf8EncodeChar_ne_nil
    | cons b' tails' =>
      obtain ⟨more, hmore⟩ := hc
      rw [henc] at hmore
      obtain ⟨rfl, -⟩ := List.cons.inj hmore
      obtain ⟨lead', hlead', htails⟩ := lead?_of_encodeChar hb henc
      obtain rfl := Option.some.inj (hlead.symm.trans hlead')
      simp only [List.length_cons, ← htails.length_eq]
      omega
  cases rest with
  | nil =>
    have := hc.length_le
    simp only [List.append_nil] at this
    omega
  | cons next more =>
    refine ⟨next, rfl, c, ?_⟩
    refine List.prefix_of_prefix_length_le ?_ hc (by simpa using hlength)
    exact ⟨more, by simp⟩

theorem Broken.of_not_begins {b : UInt8} (h : ¬ Begins [b]) (rest : Bytes) : Broken [b] rest := by
  have hstart : ∀ c, ∀ more, ¬ [b] ++ more <+: String.utf8EncodeChar c := by
    intro c more hc
    exact h ⟨c, (List.prefix_append _ _).trans hc⟩
  refine ⟨List.cons_ne_nil b [], ?_, .inl rfl, fun next _ => ?_⟩
  · rintro c ⟨more, hc⟩
    cases henc : String.utf8EncodeChar c with
    | nil => exact String.utf8EncodeChar_ne_nil henc
    | cons b' tails =>
      rw [henc] at hc
      obtain ⟨rfl, -⟩ := List.cons.inj hc
      exact hstart c tails ⟨[], by rw [henc]; simp⟩
  · rintro ⟨c, hc⟩
    exact hstart c [next] hc

/-- What stands at the start of octets: a character, or octets that are none, which go on in the
second case with an octet that does not belong to them and in the last with nothing. -/
theorem head_cases (b : UInt8) (rest : Bytes) :
    (∃ c tails more, rest = tails ++ more ∧ String.utf8EncodeChar c = b :: tails ∧
      head b rest = .char c (tails.length + 1)) ∨
    (∃ tails more, rest = tails ++ more ∧ Broken (b :: tails) more ∧
      ¬ (more = [] ∧ Begins (b :: tails)) ∧ head b rest = .fault (some (tails.length + 1))) ∨
    (Broken (b :: rest) [] ∧ Begins (b :: rest) ∧ head b rest = .fault none) := by
  by_cases hb : b < 0x80
  · have hnat : (Char.ofNat b.toNat).toNat = b.toNat := by
      have hlt : b.toNat < 256 := b.toNat_lt
      exact toNat_ofNat (.inl (by omega))
    have hchar : String.utf8EncodeChar (Char.ofNat b.toNat) = [b] := by
      rw [encodeChar_of_ascii (by rw [hnat]; exact UInt8.lt_iff_toNat_lt.mp hb), hnat,
        UInt8.ofNat_toNat]
    exact .inl ⟨_, [], rest, rfl, hchar, by rw [head, if_pos hb]; rfl⟩
  cases hlead : lead? b with
  | none =>
    have hnot : ¬ Begins [b] := by
      rintro ⟨c, fill, hc⟩
      obtain ⟨lead, hsome, -⟩ := lead?_of_encodeChar hb hc.symm
      rw [hlead] at hsome
      cases hsome
    refine .inr (.inl ⟨[], rest, rfl, .of_not_begins hnot rest, fun h => hnot h.2, ?_⟩)
    rw [head, if_neg hb, hlead]
    rfl
  | some lead =>
    obtain ⟨tails, more, rfl, h⟩ | ⟨front, range, later, tails, next, more, hsplit, rfl, h, hnext⟩ |
      ⟨front, range, later, hsplit, h⟩ := ranges_cases lead.tails rest
    · refine .inl ⟨_, tails, more, rfl, encodeChar_joined hlead h, ?_⟩
      simp only [head, if_neg hb, hlead, readTails_complete h, h.length_eq]
    · have hbegins := begins_of_forall₂ hlead hsplit h
      have hlongest := not_begins_of_not_inRange hb hlead hsplit h hnext
      refine .inr (.inl ⟨tails, next :: more, rfl, ⟨List.cons_ne_nil _ _, ?_, .inr hbegins, ?_⟩,
        fun hnil => absurd hnil.1 (List.cons_ne_nil _ _), ?_⟩)
      · intro c hc
        obtain ⟨b', hb', hbegun⟩ := exists_begins_of_prefix hb hlead (by
          rw [hsplit, ← h.length_eq]
          simp) hc
        obtain rfl := Option.some.inj hb'
        exact hlongest hbegun
      · intro b' hb'
        obtain rfl := Option.some.inj hb'
        exact hlongest
      · simp only [head, if_neg hb, hlead, hsplit, readTails_broken h hnext, Nat.add_comm]
    · have hbegins := begins_of_forall₂ hlead hsplit h
      have hhead : head b rest = .fault none := by
        simp only [head, if_neg hb, hlead, hsplit, readTails_cut h]
      refine .inr (.inr ⟨⟨List.cons_ne_nil _ _, ?_, .inr hbegins, by simp⟩, hbegins, hhead⟩)
      intro c hc
      obtain ⟨b', hb', -⟩ := exists_begins_of_prefix hb hlead (by
        rw [hsplit, ← h.length_eq]
        simp) hc
      cases hb'

/-! ## Decoding -/

/-- A place where octets are not UTF-8: what is in front of it is, and there octets stand that are
no character. The fault has their number, unless the octets end inside a character. -/
def FaultAt (bytes : Bytes) (fault : Fault) : Prop :=
  ∃ text part rest, bytes = encode text ++ (part ++ rest) ∧ Broken part rest ∧
    fault.index = (encode text).length ∧
    (rest = [] ∧ Begins part ∧ fault.width = none ∨
      ¬ (rest = [] ∧ Begins part) ∧ fault.width = some part.length)

/-- What octets decode to, after characters already read. -/
theorem decodeFrom_cases (index : Nat) (done : List Char) (bytes : Bytes) :
    (∃ text, encode text = bytes ∧ decodeFrom index done bytes = .ok (done.reverse ++ text)) ∨
    (∃ fault, FaultAt bytes fault ∧
      decodeFrom index done bytes = .error ⟨index + fault.index, fault.width⟩) := by
  induction hlength : bytes.length using Nat.strongRecOn generalizing index done bytes with
  | _ n ih =>
    cases bytes with
    | nil => exact .inl ⟨[], rfl, by simp [decodeFrom]⟩
    | cons b rest =>
      obtain ⟨c, tails, more, rfl, hc, hhead⟩ | ⟨tails, more, rfl, hbroken, hnot, hhead⟩ |
        ⟨hbroken, hbegins, hhead⟩ := head_cases b rest
      · have hnext : decodeFrom index done (b :: (tails ++ more)) =
            decodeFrom (index + (tails.length + 1)) (c :: done) more := by
          rw [decodeFrom, hhead]
          simp
        subst hlength
        obtain ⟨text, rfl, hok⟩ | ⟨fault, hfault, herror⟩ := ih more.length
          (by simp only [List.length_cons, List.length_append]; omega)
          (index + (tails.length + 1)) (c :: done) more rfl
        · refine .inl ⟨c :: text, ?_, ?_⟩
          · rw [encode_cons, hc, List.cons_append]
          · rw [hnext, hok]
            simp
        · obtain ⟨text, part, later, rfl, hbroken, hindex, hwidth⟩ := hfault
          refine .inr ⟨⟨tails.length + 1 + fault.index, fault.width⟩,
            ⟨c :: text, part, later, ?_, hbroken, ?_, hwidth⟩, ?_⟩
          · rw [encode_cons, hc]
            simp
          · rw [encode_cons, hc, List.length_append, hindex, List.length_cons]
          · rw [hnext, herror, Nat.add_assoc]
      · refine .inr ⟨⟨0, some (tails.length + 1)⟩,
          ⟨[], b :: tails, more, rfl, hbroken, rfl, .inr ⟨hnot, rfl⟩⟩, ?_⟩
        rw [decodeFrom, hhead]
        rfl
      · refine .inr ⟨⟨0, none⟩, ⟨[], b :: rest, [], by simp, hbroken, rfl,
          .inl ⟨rfl, hbegins, rfl⟩⟩, ?_⟩
        rw [decodeFrom, hhead]
        rfl

theorem Broken.length_le {part rest part' rest' : Bytes} (h : Broken part rest)
    (h' : Broken part' rest') (heq : part ++ rest = part' ++ rest') :
    part.length ≤ part'.length := by
  by_contra hlt
  rcases List.append_eq_append_iff.mp heq with ⟨gap, rfl, -⟩ | ⟨gap, rfl, rfl⟩
  · simp at hlt
  cases gap with
  | nil => simp at hlt
  | cons b gap =>
    -- the longer part shows that the shorter one could go on
    refine h'.longest b rfl ?_
    rcases h.begins with hone | ⟨c, fill, hc⟩
    · have := List.length_pos_iff.mpr h'.ne_nil
      simp only [List.length_append, List.length_cons] at hone
      omega
    · exact ⟨c, gap ++ fill, by simpa using hc⟩

theorem Broken.unique {part rest part' rest' : Bytes} (h : Broken part rest)
    (h' : Broken part' rest') (heq : part ++ rest = part' ++ rest') :
    part = part' ∧ rest = rest' :=
  List.append_inj heq (Nat.le_antisymm (h.length_le h' heq) (h'.length_le h heq.symm))

theorem FaultAt.ne_encode {bytes : Bytes} {fault : Fault} (h : FaultAt bytes fault)
    (text : List Char) : encode text ≠ bytes := by
  obtain ⟨before, part, rest, rfl, hbroken, -⟩ := h
  intro heq
  obtain ⟨post, rfl, hpost⟩ := encode_eq_append heq
  cases post with
  | nil => exact hbroken.ne_nil (List.append_eq_nil_iff.mp hpost).1
  | cons c post => exact hbroken.no_char c ⟨encode post, hpost.symm⟩

theorem FaultAt.unique {bytes : Bytes} {fault other : Fault} (h : FaultAt bytes fault)
    (h' : FaultAt bytes other) : fault = other := by
  obtain ⟨text, part, rest, rfl, hbroken, hindex, hwidth⟩ := h
  obtain ⟨text', part', rest', heq, hbroken', hindex', hwidth'⟩ := h'
  have hsame : text = text' ∧ part ++ rest = part' ++ rest' := by
    clear hindex hindex'
    induction text generalizing text' with
    | nil =>
      cases text' with
      | nil => exact ⟨rfl, heq⟩
      | cons c text' =>
        exact absurd ⟨encode text' ++ (part' ++ rest'), by simp_all⟩ (hbroken.no_char c)
    | cons c text ih =>
      cases text' with
      | nil => exact absurd ⟨encode text ++ (part ++ rest), by simp_all⟩ (hbroken'.no_char c)
      | cons c' text' =>
        rw [encode_cons, encode_cons, List.append_assoc, List.append_assoc] at heq
        obtain ⟨rfl, htail⟩ := encodeChar_append_inj heq
        obtain ⟨rfl, hrest⟩ := ih text' htail
        exact ⟨rfl, hrest⟩
  obtain ⟨rfl, hrest⟩ := hsame
  obtain ⟨rfl, rfl⟩ := hbroken.unique hbroken' hrest
  have hsameWidth : fault.width = other.width := by
    rcases hwidth with ⟨hnil, hbegins, hwidth⟩ | ⟨hnot, hwidth⟩ <;>
      rcases hwidth' with ⟨hnil', hbegins', hwidth'⟩ | ⟨hnot', hwidth'⟩
    · rw [hwidth, hwidth']
    · exact absurd ⟨hnil, hbegins⟩ hnot'
    · exact absurd ⟨hnil', hbegins'⟩ hnot
    · rw [hwidth, hwidth']
  obtain ⟨index, width⟩ := fault
  obtain ⟨index', width'⟩ := other
  rw [Fault.mk.injEq]
  exact ⟨hindex.trans hindex'.symm, hsameWidth⟩

theorem encode_injective {a b : List Char} (h : encode a = encode b) : a = b := by
  obtain ⟨post, rfl, hpost⟩ := encode_eq_append (h.trans (List.append_nil (encode b)).symm)
  obtain rfl : post = [] := eq_nil_of_length_encode (by rw [← hpost]; rfl)
  rw [List.append_nil]

/-- Octets are decoded exactly when they are the encoding of a text, and to that text. -/
theorem decode_eq_ok_iff {bytes : Bytes} {s : String} :
    decode bytes = .ok s ↔ encodeString s = bytes := by
  rw [decode]
  obtain ⟨text, rfl, hok⟩ | ⟨fault, hfault, herror⟩ := decodeFrom_cases 0 [] bytes
  · rw [hok]
    constructor
    · intro h
      obtain rfl := Except.ok.inj h
      rw [encodeString, String.toList_ofList]
      rfl
    · intro h
      rw [← encode_injective h]
      exact congrArg Except.ok String.ofList_toList
  · rw [herror]
    constructor
    · intro h
      cases h
    · intro h
      exact absurd h (hfault.ne_encode s.toList)

/-- Decoding fails exactly at the place where octets are not UTF-8. -/
theorem decode_eq_error_iff {bytes : Bytes} {fault : Fault} :
    decode bytes = .error fault ↔ FaultAt bytes fault := by
  rw [decode]
  obtain ⟨text, rfl, hok⟩ | ⟨found, hfound, herror⟩ := decodeFrom_cases 0 [] bytes
  · rw [hok]
    constructor
    · intro h
      cases h
    · intro h
      exact absurd rfl (h.ne_encode text)
  · rw [herror, Nat.zero_add]
    constructor
    · intro h
      obtain rfl := Except.error.inj h
      exact hfound
    · intro h
      rw [h.unique hfound]
      rfl

theorem decode?_eq_some_iff {bytes : Bytes} {s : String} :
    decode? bytes = some s ↔ encodeString s = bytes := by
  rw [← decode_eq_ok_iff, decode?]
  cases decode bytes with
  | ok text => simp [Except.toOption]
  | error fault => simp [Except.toOption]

/-! ## Lossy decoding -/

/-- What octets read as when every sequence of them that is no character, as long as one begins with
it, is replaced by one replacement character. -/
inductive Lossy : Bytes → List Char → Prop
  | nil : Lossy [] []
  | char {c : Char} {rest : Bytes} {text : List Char} :
      Lossy rest text → Lossy (String.utf8EncodeChar c ++ rest) (c :: text)
  | broken {part rest : Bytes} {text : List Char} :
      Broken part rest → Lossy rest text → Lossy (part ++ rest) ('\ufffd' :: text)

theorem exists_lossy_decodeLossyFrom (done : List Char) (bytes : Bytes) :
    ∃ text, Lossy bytes text ∧ decodeLossyFrom done bytes = done.reverse ++ text := by
  induction hlength : bytes.length using Nat.strongRecOn generalizing done bytes with
  | _ n ih =>
    subst hlength
    cases bytes with
    | nil => exact ⟨[], .nil, by simp [decodeLossyFrom]⟩
    | cons b rest =>
      have hnext : ∀ (c : Char) (tails more : Bytes), rest = tails ++ more →
          ∃ text, Lossy more text ∧
            decodeLossyFrom (c :: done) (rest.drop (tails.length + 1 - 1)) =
              done.reverse ++ c :: text := by
        rintro c tails more rfl
        obtain ⟨text, hlossy, htext⟩ := ih more.length
          (by simp only [List.length_cons, List.length_append]; omega) (c :: done) more rfl
        exact ⟨text, hlossy, by simp [htext]⟩
      obtain ⟨c, tails, more, hrest, hc, hhead⟩ | ⟨tails, more, hrest, hbroken, -, hhead⟩ |
        ⟨hbroken, -, hhead⟩ := head_cases b rest
      · obtain ⟨text, hlossy, htext⟩ := hnext c tails more hrest
        refine ⟨c :: text, ?_, ?_⟩
        · rw [hrest, ← List.cons_append, ← hc]
          exact .char hlossy
        · rw [decodeLossyFrom, hhead]
          exact htext
      · obtain ⟨text, hlossy, htext⟩ := hnext '\ufffd' tails more hrest
        refine ⟨'\ufffd' :: text, ?_, ?_⟩
        · rw [hrest, ← List.cons_append]
          exact .broken hbroken hlossy
        · rw [decodeLossyFrom, hhead]
          exact htext
      · refine ⟨['\ufffd'], ?_, ?_⟩
        · rw [← List.append_nil (b :: rest)]
          exact .broken hbroken .nil
        · rw [decodeLossyFrom, hhead]
          simp

theorem Lossy.unique {bytes : Bytes} {a b : List Char} (ha : Lossy bytes a) (hb : Lossy bytes b) :
    a = b := by
  induction ha generalizing b with
  | nil =>
    generalize hnil : ([] : Bytes) = bytes at hb
    cases hb with
    | nil => rfl
    | char _ => exact absurd (List.append_eq_nil_iff.mp hnil.symm).1 String.utf8EncodeChar_ne_nil
    | broken hbroken _ => exact absurd (List.append_eq_nil_iff.mp hnil.symm).1 hbroken.ne_nil
  | @char c rest text _ ih =>
    generalize hbytes : String.utf8EncodeChar c ++ rest = bytes at hb
    cases hb with
    | nil => exact absurd (List.append_eq_nil_iff.mp hbytes).1 String.utf8EncodeChar_ne_nil
    | char hb =>
      obtain ⟨rfl, rfl⟩ := encodeChar_append_inj hbytes
      rw [ih hb]
    | broken hbroken _ => exact absurd ⟨rest, hbytes⟩ (hbroken.no_char c)
  | @broken part rest text hbroken _ ih =>
    generalize hbytes : part ++ rest = bytes at hb
    cases hb with
    | nil => exact absurd (List.append_eq_nil_iff.mp hbytes).1 hbroken.ne_nil
    | @char c more _ _ => exact absurd ⟨more, hbytes.symm⟩ (hbroken.no_char c)
    | broken hbroken' hb =>
      obtain ⟨rfl, rfl⟩ := hbroken.unique hbroken' hbytes
      rw [ih hb]

/-- Lossy decoding replaces as it should, and nothing else reads as the octets do. -/
theorem lossy_iff {bytes : Bytes} {text : List Char} :
    Lossy bytes text ↔ (decodeLossy bytes).toList = text := by
  obtain ⟨found, hfound, heq⟩ := exists_lossy_decodeLossyFrom [] bytes
  have hdecode : (decodeLossy bytes).toList = found := by
    rw [decodeLossy, heq, String.toList_ofList]
    rfl
  rw [hdecode]
  constructor
  · exact fun h => hfound.unique h
  · rintro rfl
    exact hfound

end RouteLens.Utf8
