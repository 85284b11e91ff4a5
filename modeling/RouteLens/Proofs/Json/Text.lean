import RouteLens.Json.Basic
import RouteLens.Proofs.Json.Tokens

/-!
# Texts of JSON values

A value is read back from its text (`parse_text`), if each of its numbers is the one that its token
denotes and its containers do not stand too deep. Strings need no condition: whatever characters a
string has, they are written so that reading gives them back.
-/

namespace RouteLens

open Literal

/-! ## Strings -/

namespace Escape

theorem isHex_zero : Text.isHex '0' = true := by
  decide

theorem isHex_hexDigit {n : Nat} (h : n < 16) : Text.isHex (Text.hexDigit n) = true := by
  have hall : ∀ n < 16, Text.isHex (Text.hexDigit n) = true := by
    decide
  exact hall n h

theorem hexUnit?_hexDigit {n : Nat} (h : n < 32) :
    hexUnit? '0' '0' (Text.hexDigit (n / 16)) (Text.hexDigit (n % 16)) = some n := by
  have hall : ∀ n < 32,
      hexUnit? '0' '0' (Text.hexDigit (n / 16)) (Text.hexDigit (n % 16)) = some n := by
    decide
  exact hall n h

theorem toNat_lt_of_lt_space {c : Char} (h : c < ' ') : c.toNat < 32 := h

/-- A character is written in one of three ways: after a backslash, by its number, or as it is. -/
theorem encodeChar_cases (c : Char) :
    (∃ e, isEscape e = true ∧ shortEscape? e = some c ∧ encodeChar c = ['\\', e]) ∨
    (c.toNat < 32 ∧ encodeChar c =
      ['\\', 'u', '0', '0', Text.hexDigit (c.toNat / 16), Text.hexDigit (c.toNat % 16)]) ∨
    ((' ' ≤ c ∧ c ≠ '"' ∧ c ≠ '\\') ∧ encodeChar c = [c]) := by
  rw [encodeChar]
  split_ifs with hquote hslash hb hf hn hr ht hcontrol
  · exact .inl ⟨'"', rfl, by rw [hquote]; rfl, rfl⟩
  · exact .inl ⟨'\\', rfl, by rw [hslash]; rfl, rfl⟩
  · exact .inl ⟨'b', rfl, by rw [hb]; rfl, rfl⟩
  · exact .inl ⟨'f', rfl, by rw [hf]; rfl, rfl⟩
  · exact .inl ⟨'n', rfl, by rw [hn]; rfl, rfl⟩
  · exact .inl ⟨'r', rfl, by rw [hr]; rfl, rfl⟩
  · exact .inl ⟨'t', rfl, by rw [ht]; rfl, rfl⟩
  · exact .inr (.inl ⟨toNat_lt_of_lt_space hcontrol, rfl⟩)
  · exact .inr (.inr ⟨⟨Char.not_lt.mp hcontrol, hquote, hslash⟩, rfl⟩)

theorem stringText_encodeChar (c : Char) {rest : List Char} (h : StringText rest) :
    StringText (encodeChar c ++ rest) := by
  obtain ⟨e, he, -, hc⟩ | ⟨hlt, hc⟩ | ⟨hplain, hc⟩ := encodeChar_cases c
  · rw [hc]
    exact .escape he h
  · rw [hc]
    have hhigh : c.toNat / 16 < 16 := by omega
    have hlow : c.toNat % 16 < 16 := by omega
    exact .unicode (by simp [isHex_zero, isHex_hexDigit, hhigh, hlow]) h
  · rw [hc]
    exact .plain hplain h

/-- What is written inside quotes is the inside of a string. -/
theorem stringText_encode (text : List Char) : StringText (encode text) := by
  induction text with
  | nil => exact .nil
  | cons c text ih => exact stringText_encodeChar c ih

theorem decodeFrom_short {e c : Char} (he : shortEscape? e = some c) (done rest : List Char) :
    decodeFrom done ('\\' :: e :: rest) = decodeFrom (c :: done) rest := by
  have hu : e ≠ 'u' := by
    rintro rfl
    cases he
  simp [decodeFrom, hu, he]

theorem decodeFrom_plain {c : Char} (hc : c ≠ '\\') (done rest : List Char) :
    decodeFrom done (c :: rest) = decodeFrom (c :: done) rest := by
  rw [decodeFrom.eq_def]
  split <;> simp_all

theorem decodeFrom_unit {n : Nat} (hn : n < 32) (done rest : List Char) :
    decodeFrom done
      ('\\' :: 'u' :: '0' :: '0' :: Text.hexDigit (n / 16) :: Text.hexDigit (n % 16) :: rest) =
      decodeFrom (Char.ofNat n :: done) rest := by
  have hlow : isLowSurrogate n = false := by
    simp [isLowSurrogate]
    omega
  have hhigh : isHighSurrogate n = false := by
    simp [isHighSurrogate]
    omega
  simp [decodeFrom, hexUnit?_hexDigit hn, hlow, hhigh]

theorem decodeFrom_encodeChar (c : Char) (done rest : List Char) :
    decodeFrom done (encodeChar c ++ rest) = decodeFrom (c :: done) rest := by
  obtain ⟨e, -, he, hc⟩ | ⟨hlt, hc⟩ | ⟨⟨-, -, hslash⟩, hc⟩ := encodeChar_cases c
  · rw [hc]
    exact decodeFrom_short he done rest
  · rw [hc]
    exact (decodeFrom_unit hlt done rest).trans (by rw [Char.ofNat_toNat])
  · rw [hc]
    exact decodeFrom_plain hslash done rest

theorem decodeFrom_encode (text done : List Char) :
    decodeFrom done (encode text) = some (done.reverse ++ text) := by
  induction text generalizing done with
  | nil => simp [encode, decodeFrom]
  | cons c text ih =>
    rw [encode, List.flatMap_cons, ← encode, decodeFrom_encodeChar, ih]
    simp

/-- What is written inside quotes denotes the text. -/
theorem decode?_encode (text : List Char) : decode? (encode text) = some text :=
  decodeFrom_encode text []

end Escape

/-! ## Values -/

namespace Json

mutual

/-- Each number of a value is the one that its token denotes. -/
def Printable : Json → Prop
  | .number value => NumberText value.token ∧ Number.ofToken? value.token = some value
  | .array items => PrintableItems items
  | .object members => PrintableMembers members
  | _ => True

/-- Each number of some items is the one that its token denotes. -/
def PrintableItems : List Json → Prop
  | [] => True
  | item :: rest => Printable item ∧ PrintableItems rest

/-- Each number of some members is the one that its token denotes. -/
def PrintableMembers : List (String × Json) → Prop
  | [] => True
  | (_, value) :: rest => Printable value ∧ PrintableMembers rest

end

mutual

theorem grammatical_toLiteral : ∀ (v : Json), v.Printable → v.toLiteral.Grammatical
  | .null, _ => trivial
  | .bool _, _ => trivial
  | .number _, h => h.1
  | .string text, _ => Escape.stringText_encode text.toList
  | .array items, h => grammatical_toItems items h
  | .object members, h => grammatical_toMembers members h

theorem grammatical_toItems : ∀ (items : List Json), PrintableItems items →
    GrammaticalItems (toItems items)
  | [], _ => trivial
  | item :: rest, h => ⟨grammatical_toLiteral item h.1, grammatical_toItems rest h.2⟩

theorem grammatical_toMembers : ∀ (members : List (String × Json)), PrintableMembers members →
    GrammaticalMembers (toMembers members)
  | [], _ => trivial
  | (key, value) :: rest, h =>
    ⟨Escape.stringText_encode key.toList, grammatical_toLiteral value h.1,
      grammatical_toMembers rest h.2⟩

end

mutual

theorem ofLiteral?_toLiteral : ∀ (v : Json), v.Printable → ofLiteral? v.toLiteral = some v
  | .null, _ => rfl
  | .bool _, _ => rfl
  | .number value, h => by
    rw [toLiteral, ofLiteral?, h.2]
    rfl
  | .string text, _ => by
    rw [toLiteral, ofLiteral?, Escape.decode?_encode, Option.map_some, ofChars, String.ofList_toList]
  | .array items, h => by
    rw [toLiteral, ofLiteral?, ofItems?_toItems items h]
    rfl
  | .object members, h => by
    rw [toLiteral, ofLiteral?, ofMembers?_toMembers members h]
    rfl

theorem ofItems?_toItems : ∀ (items : List Json), PrintableItems items →
    ofItems? (toItems items) = some items
  | [], _ => rfl
  | item :: rest, h => by
    rw [toItems, ofItems?, ofLiteral?_toLiteral item h.1, ofItems?_toItems rest h.2]
    rfl

theorem ofMembers?_toMembers : ∀ (members : List (String × Json)), PrintableMembers members →
    ofMembers? (toMembers members) = some members
  | [], _ => rfl
  | (key, value) :: rest, h => by
    rw [toMembers, ofMembers?, Escape.decode?_encode, ofLiteral?_toLiteral value h.1,
      ofMembers?_toMembers rest h.2]
    simp only [Option.map_some, String.ofList_toList]

end

/-- A value is what its text denotes. -/
theorem parse_text {v : Json} (h : v.Printable) (hdepth : v.toLiteral.depth ≤ maxDepth) :
    parse v.text = some v := by
  rw [parse, text, String.toList_ofList, parse_render (grammatical_toLiteral v h)]
  simp only [hdepth, if_true]
  exact ofLiteral?_toLiteral v h

end Json

end RouteLens
