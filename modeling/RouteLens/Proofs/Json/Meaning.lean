import Mathlib.Data.List.Forall2
import RouteLens.Json.Record
import RouteLens.Proofs.Json.Text

/-!
# What literals denote

The readers of strings, truth values, lists and unsigned integers, described by what a literal
denotes: a string denotes the characters that its inside spells (`Escape.Spells`), a number the
value of its digits when it is written with nothing but digits. Minus zero, a number with a fraction
or an exponent and half a pair of surrogates denote nothing here.
-/

namespace RouteLens

open Literal

/-! ## Strings -/

namespace Escape

/-- The inside of a string spells some characters: each as it is, after a backslash, or by its
UTF-16 units, one or a pair. -/
inductive Spells : List Char → List Char → Prop
  | nil : Spells [] []
  | plain {c : Char} {raw text : List Char} (hc : c ≠ '\\') :
      Spells raw text → Spells (c :: raw) (c :: text)
  | short {e c : Char} {raw text : List Char} (he : shortEscape? e = some c) :
      Spells raw text → Spells ('\\' :: e :: raw) (c :: text)
  | unit {a b c d : Char} {unit : Nat} {raw text : List Char} (hunit : hexUnit? a b c d = some unit)
      (hlow : isLowSurrogate unit = false) (hhigh : isHighSurrogate unit = false) :
      Spells raw text → Spells ('\\' :: 'u' :: a :: b :: c :: d :: raw) (Char.ofNat unit :: text)
  | pair {a b c d e f g h : Char} {high low : Nat} {raw text : List Char}
      (hunit : hexUnit? a b c d = some high) (hhigh : isHighSurrogate high = true)
      (hnext : hexUnit? e f g h = some low) (hlow : isLowSurrogate low = true) :
      Spells raw text →
      Spells ('\\' :: 'u' :: a :: b :: c :: d :: '\\' :: 'u' :: e :: f :: g :: h :: raw)
        (pairedChar high low :: text)

theorem not_isLowSurrogate {unit : Nat} (h : isHighSurrogate unit = true) :
    isLowSurrogate unit = false := by
  simp only [isHighSurrogate, isLowSurrogate, Bool.and_eq_true, decide_eq_true_eq,
    Bool.and_eq_false_iff, decide_eq_false_iff_not] at h ⊢
  omega

theorem Spells.decodeFrom {raw text : List Char} (h : Spells raw text) (done : List Char) :
    Escape.decodeFrom done raw = some (done.reverse ++ text) := by
  induction h generalizing done with
  | nil => simp [Escape.decodeFrom]
  | plain hc _ ih => simp [decodeFrom_plain hc, ih]
  | short he _ ih => simp [decodeFrom_short he, ih]
  | unit hunit hlow hhigh _ ih => simp [Escape.decodeFrom, hunit, hlow, hhigh, ih]
  | pair hunit hhigh hnext hlow _ ih =>
    simp [Escape.decodeFrom, hunit, hhigh, not_isLowSurrogate hhigh, hnext, hlow, ih]

/-- One more character in front of what the rest spells. -/
theorem exists_spells_cons {raw rest done out : List Char} {c : Char}
    (hrest : ∃ text, Spells rest text ∧ out = (c :: done).reverse ++ text)
    (hfirst : ∀ text, Spells rest text → Spells raw (c :: text)) :
    ∃ text, Spells raw text ∧ out = done.reverse ++ text := by
  obtain ⟨text, htext, rfl⟩ := hrest
  exact ⟨c :: text, hfirst text htext, by simp⟩

theorem exists_of_decodeFrom {done raw out : List Char} (h : decodeFrom done raw = some out) :
    ∃ text, Spells raw text ∧ out = done.reverse ++ text := by
  fun_induction decodeFrom done raw with
  | case1 done =>
    obtain rfl := Option.some.inj h
    exact ⟨[], .nil, by simp⟩
  | case5 done a b c d high hunit hlow hhigh e f g k rest low hnext hsecond ih =>
    exact exists_spells_cons (ih h) fun text => .pair hunit hhigh hnext hsecond
  | case8 done a b c d rest unit hunit hlow hhigh ih =>
    have hlow := Bool.eq_false_iff.mpr hlow
    have hhigh := Bool.eq_false_iff.mpr hhigh
    exact exists_spells_cons (ih h) fun text => .unit hunit hlow hhigh
  | case10 done e rest hu c hshort ih =>
    exact exists_spells_cons (ih h) fun text => .short hshort
  | case12 done c rest hu hescape hslash ih =>
    exact exists_spells_cons (ih h) fun text => .plain hslash
  | _ => cases h

/-- The reader gives what the inside of a string spells. -/
theorem decode?_eq_some_iff {raw text : List Char} : decode? raw = some text ↔ Spells raw text := by
  constructor
  · intro h
    obtain ⟨text', htext, rfl⟩ := exists_of_decodeFrom h
    exact htext
  · intro h
    exact h.decodeFrom []

theorem spells_encode (text : List Char) : Spells (encode text) text :=
  decode?_eq_some_iff.mp (decode?_encode text)

end Escape

/-! ## Numbers -/

namespace Number

theorem ofDigits_eq (digits : List Char) : ofDigits digits = Nat.ofDigitChars 10 digits 0 := by
  have hstep : (fun n c => n * 10 + digitValue c) =
      fun n c => 10 * n + (c.toNat - '0'.toNat) := by
    funext n c
    rw [Nat.mul_comm, digitValue]
  rw [ofDigits, hstep, Nat.ofDigitChars]

theorem ofDigits_toDigits (n : Nat) : ofDigits (Nat.toDigits 10 n) = n := by
  rw [ofDigits_eq, Nat.ofDigitChars_toDigits (by decide) (by decide)]

theorem digitText_toDigits (n : Nat) : DigitText (Nat.toDigits 10 n) :=
  ⟨Nat.toDigits_ne_nil, fun _ hc => Nat.isDigit_of_mem_toDigits (by decide) (by decide) hc⟩

/-- A natural number is written without needless zeros. -/
theorem toDigits_zero_cons {n : Nat} {rest : List Char} (h : Nat.toDigits 10 n = '0' :: rest) :
    rest = [] := by
  induction n using Nat.strongRecOn generalizing rest with
  | ind n ih =>
    by_cases hn : n < 10
    · rw [Nat.toDigits_of_lt_base hn] at h
      exact (List.cons.inj h).2.symm
    · rw [Nat.toDigits_of_base_le (by decide) (by omega)] at h
      obtain ⟨hne, -⟩ := digitText_toDigits (n / 10)
      obtain ⟨c, more, hcons⟩ := List.exists_cons_of_ne_nil hne
      rw [hcons, List.cons_append] at h
      obtain ⟨rfl, -⟩ := List.cons.inj h
      -- then the leading digits would be those of zero
      have hmore : more = [] := ih (n / 10) (by omega) hcons
      have hzero := ofDigits_toDigits (n / 10)
      rw [hcons, hmore] at hzero
      have : n / 10 = 0 := hzero.symm
      omega

theorem token_ofNat (n : Nat) : (Number.integer n).token = Nat.toDigits 10 n := by
  rw [token, Int.toString_eq_repr]
  exact Nat.toList_repr

theorem numberText_token (n : Nat) : NumberText (Number.integer n).token := by
  rw [token_ofNat]
  refine ⟨[], _, [], [], by simp, .inl rfl, ⟨digitText_toDigits n, ?_⟩, .inl rfl, .inl rfl⟩
  exact fun rest => toDigits_zero_cons

theorem takeWhile_digits {digits rest : List Char} (h : DigitText digits)
    (hrest : ∀ c ∈ rest.head?, c.isDigit = false) :
    (digits ++ rest).takeWhile Char.isDigit = digits ∧
      (digits ++ rest).dropWhile Char.isDigit = rest := by
  have hread := h.readDigits hrest
  rw [readDigits] at hread
  split at hread
  · cases hread
  · exact Prod.mk.inj (Option.some.inj hread)

theorem not_digitText {text : List Char} (c : Char) (hc : c ∈ text) (hdigit : c.isDigit = false) :
    ¬ DigitText text := by
  rintro ⟨-, hall⟩
  rw [hall c hc] at hdigit
  cases hdigit

/-- The parts of a number of the grammar, without the marks of its fraction and its exponent. -/
theorem exists_parts {token : List Char} (h : NumberText token) :
    ∃ sign whole fraction exponent, token = sign ++ (whole ++ (fraction ++ exponent)) ∧
      Parts.ofToken token = ⟨!sign.isEmpty, whole, fraction.drop 1, exponent.drop 1⟩ ∧
      (sign = [] ∨ sign = ['-']) ∧ DigitText whole ∧
      (fraction = [] ∨ ∃ digits, DigitText digits ∧ fraction = '.' :: digits) ∧
      (exponent = [] ∨ ∃ mark more, (mark = 'e' ∨ mark = 'E') ∧ more ≠ [] ∧
        exponent = mark :: more) := by
  obtain ⟨sign, whole, fraction, exponent, rfl, hsign, ⟨hwhole, -⟩, hfraction, hexponent⟩ := h.parts
  have hmark : exponent = [] ∨ ∃ mark more, (mark = 'e' ∨ mark = 'E') ∧ more ≠ [] ∧
      exponent = mark :: more := by
    refine hexponent.imp_right ?_
    rintro ⟨mark, sign, digits, hmark, -, ⟨hne, -⟩, rfl⟩
    exact ⟨mark, sign ++ digits, hmark, by simp [hne], rfl⟩
  refine ⟨sign, whole, fraction, exponent, rfl, ?_, hsign, hwhole, hfraction, hmark⟩
  have hafter : ∀ c ∈ exponent.head?, c.isDigit = false ∧ c ≠ '.' := by
    obtain rfl | ⟨mark, more, hmark, -, rfl⟩ := hmark
    · simp
    · rintro _ ⟨⟩
      obtain rfl | rfl := hmark <;> decide
  have hminus : sign = [] ∨ ∃ c ∈ ['-'], sign = [c] := by simpa using hsign
  have hread := readSign_append hminus (by simp) (hwhole.head_isDigit (fraction ++ exponent))
  obtain rfl | ⟨digits, hdigits, rfl⟩ := hfraction
  · obtain ⟨htake, hdrop⟩ := takeWhile_digits hwhole fun c hc => (hafter c hc).1
    simp only [Parts.ofToken, hread]
    simp only [List.nil_append, htake, hdrop]
    split
    · exact absurd rfl (hafter '.' rfl).2
    · rfl
  · obtain ⟨htake, hdrop⟩ := takeWhile_digits hwhole
      (show ∀ c ∈ ('.' :: digits ++ exponent).head?, c.isDigit = false from by
        rintro _ ⟨⟩
        rfl)
    obtain ⟨htakeDigits, hdropDigits⟩ := takeWhile_digits hdigits fun c hc => (hafter c hc).1
    simp only [Parts.ofToken, hread, htake, hdrop]
    simp only [List.cons_append, htakeDigits, hdropDigits, List.drop_succ_cons, List.drop_zero]

/-- Of the numbers of the grammar those made of digits alone are natural numbers. -/
theorem integerOfToken?_eq_ofNat_iff {token : List Char} (h : NumberText token) {n : Nat} :
    integerOfToken? token = some (.ofNat n) ↔
      DigitText token ∧ ofDigits token = n ∧ n ≤ maxUnsigned := by
  obtain ⟨sign, whole, fraction, exponent, rfl, hparts, hsign, hwhole, hfraction, hexponent⟩ :=
    exists_parts h
  rw [integerOfToken?, hparts]
  obtain ⟨digits, ⟨hne, -⟩, rfl⟩ | hfraction := hfraction.symm
  · refine iff_of_false (by simp [Parts.integer?, hne]) fun hall => ?_
    exact not_digitText '.' (by simp) rfl hall.1
  obtain ⟨mark, more, hmark, hne, rfl⟩ | hexponent := hexponent.symm
  · refine iff_of_false (by simp [Parts.integer?, hne]) fun hall => ?_
    have hdigit : mark.isDigit = false := by obtain rfl | rfl := hmark <;> rfl
    exact not_digitText mark (by simp) hdigit hall.1
  subst hfraction hexponent
  obtain rfl | rfl := hsign
  · simp only [Parts.integer?, List.drop_nil, List.isEmpty_nil, Bool.and_self, if_true,
      List.nil_append, List.append_nil, Bool.not_true, Bool.false_eq_true, if_false]
    constructor
    · intro hvalue
      split at hvalue
      · next hle =>
        obtain rfl : ofDigits whole = n := Int.ofNat.inj (Option.some.inj hvalue)
        exact ⟨hwhole, rfl, hle⟩
      · cases hvalue
    · rintro ⟨-, rfl, hle⟩
      rw [if_pos hle]
      rfl
  · refine iff_of_false ?_ fun hall => not_digitText '-' (by simp) rfl hall.1
    simp only [Parts.integer?, List.drop_nil, List.isEmpty_nil, List.isEmpty_cons, Bool.and_self,
      if_true, Bool.not_false]
    split
    · next hvalue =>
      intro heq
      have hneg : -(ofDigits whole : Int) = (n : Int) := Option.some.inj heq
      omega
    · exact nofun

end Number

/-! ## Values -/

namespace Literal

/-- A literal is a truth value. -/
def DenotesBool (l : Literal) (value : Bool) : Prop :=
  l = .bool value

/-- A literal is a string that spells a text. -/
def DenotesString (l : Literal) (s : String) : Prop :=
  ∃ raw, l = .string raw ∧ Escape.Spells raw s.toList

/-- A literal is a string that spells a text, or null for no text. -/
def DenotesStringOrNull (l : Literal) : Option String → Prop
  | none => l = .null
  | some s => l.DenotesString s

/-- A literal is an array of strings that spell some texts. -/
def DenotesStrings (l : Literal) (texts : List String) : Prop :=
  ∃ items, l = .array items ∧ List.Forall₂ DenotesString items texts

/-- A literal is a number written with nothing but the digits of a value. -/
def DenotesNat (l : Literal) (n : Nat) : Prop :=
  ∃ token, l = .number token ∧ DigitText token ∧ Number.ofDigits token = n

theorem bool?_eq_some_iff {l : Literal} {value : Bool} :
    l.bool? = some value ↔ l.DenotesBool value := by
  cases l <;> simp [bool?, DenotesBool]

theorem string?_eq_some_iff {l : Literal} {s : String} :
    l.string? = some s ↔ l.DenotesString s := by
  cases l with
  | string raw =>
    simp only [string?, DenotesString, Literal.string.injEq, exists_eq_left',
      ← Escape.decode?_eq_some_iff, Option.map_eq_some_iff]
    constructor
    · rintro ⟨text, htext, rfl⟩
      rw [htext, String.toList_ofList]
    · intro htext
      exact ⟨s.toList, htext, String.ofList_toList⟩
  | _ => simp [string?, DenotesString]

theorem stringOrNull?_eq_some_iff {l : Literal} {s : Option String} :
    l.stringOrNull? = some s ↔ l.DenotesStringOrNull s := by
  cases l with
  | null => cases s <;> simp [stringOrNull?, DenotesStringOrNull, DenotesString]
  | string raw =>
    cases s with
    | none => simp [stringOrNull?, DenotesStringOrNull]
    | some s => simp [stringOrNull?, DenotesStringOrNull, string?_eq_some_iff]
  | _ => cases s <;> simp [stringOrNull?, DenotesStringOrNull, DenotesString, string?]

theorem allStrings?_eq_some_iff {items : List Literal} {texts : List String} :
    allStrings? items = some texts ↔ List.Forall₂ DenotesString items texts := by
  induction items generalizing texts with
  | nil => simp [allStrings?, eq_comm]
  | cons item items ih =>
    rw [List.forall₂_cons_left_iff, allStrings?]
    constructor
    · intro h
      split at h
      · cases h
      next s hs =>
      obtain ⟨rest, hrest, rfl⟩ := Option.map_eq_some_iff.mp h
      exact ⟨s, rest, string?_eq_some_iff.mp hs, ih.mp hrest, rfl⟩
    · rintro ⟨s, rest, hs, hrest, rfl⟩
      simp only [string?_eq_some_iff.mpr hs, ih.mpr hrest, Option.map_some]

theorem strings?_eq_some_iff {l : Literal} {texts : List String} :
    l.strings? = some texts ↔ l.DenotesStrings texts := by
  cases l with
  | array items => simp [strings?, DenotesStrings, allStrings?_eq_some_iff]
  | _ => simp [strings?, DenotesStrings]

theorem natBelow?_eq_some_iff {l : Literal} (hl : l.Grammatical) {bound n : Nat}
    (hbound : bound ≤ Number.maxUnsigned + 1) :
    l.natBelow? bound = some n ↔ l.DenotesNat n ∧ n < bound := by
  cases l with
  | number token =>
    rw [Grammatical] at hl
    simp only [natBelow?, DenotesNat, Literal.number.injEq, exists_eq_left']
    constructor
    · intro h
      split at h
      · next value hvalue =>
        split at h
        · next hlt =>
          obtain rfl := Option.some.inj h
          obtain ⟨hdigits, heq, -⟩ := (Number.integerOfToken?_eq_ofNat_iff hl).mp hvalue
          exact ⟨⟨hdigits, heq⟩, hlt⟩
        · cases h
      · cases h
    · rintro ⟨⟨hdigits, heq⟩, hlt⟩
      rw [(Number.integerOfToken?_eq_ofNat_iff hl).mpr ⟨hdigits, heq, by omega⟩]
      exact if_pos hlt
  | _ => simp [natBelow?, DenotesNat]

theorem uint32?_eq_some_iff {l : Literal} (hl : l.Grammatical) {n : UInt32} :
    l.uint32? = some n ↔ l.DenotesNat n.toNat := by
  rw [uint32?, Option.map_eq_some_iff]
  constructor
  · rintro ⟨m, hm, rfl⟩
    obtain ⟨hdenotes, hlt⟩ := (natBelow?_eq_some_iff hl (by decide)).mp hm
    rwa [UInt32.toNat_ofNat_of_lt' hlt]
  · intro h
    refine ⟨n.toNat, (natBelow?_eq_some_iff hl (by decide)).mpr ⟨h, n.toNat_lt⟩, ?_⟩
    exact UInt32.ofNat_toNat

theorem uint64?_eq_some_iff {l : Literal} (hl : l.Grammatical) {n : UInt64} :
    l.uint64? = some n ↔ l.DenotesNat n.toNat := by
  rw [uint64?, Option.map_eq_some_iff]
  constructor
  · rintro ⟨m, hm, rfl⟩
    obtain ⟨hdenotes, hlt⟩ := (natBelow?_eq_some_iff hl (by decide)).mp hm
    rwa [UInt64.toNat_ofNat_of_lt' hlt]
  · intro h
    refine ⟨n.toNat, (natBelow?_eq_some_iff hl (by decide)).mpr ⟨h, n.toNat_lt⟩, ?_⟩
    exact UInt64.ofNat_toNat

end Literal

end RouteLens
