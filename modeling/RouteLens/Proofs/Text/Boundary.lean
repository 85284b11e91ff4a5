import RouteLens.Text.Utf8

/-!
# Boundaries of characters in UTF-8

Encoding is a prefix code, and an octet of ASCII starts a character wherever it stands. So a text
that begins with an ASCII character stands in the encoding of another text only where it stands in
that text itself.
-/

namespace RouteLens.Utf8

@[simp] theorem encode_nil : encode [] = [] := rfl

@[simp] theorem encode_cons (c : Char) (text : List Char) :
    encode (c :: text) = String.utf8EncodeChar c ++ encode text := rfl

@[simp] theorem encode_append (a b : List Char) : encode (a ++ b) = encode a ++ encode b := by
  simp [encode]

theorem eq_nil_of_length_encode {text : List Char} (h : (encode text).length = 0) : text = [] := by
  cases text with
  | nil => rfl
  | cons c text =>
    have := c.utf8Size_pos
    simp at h
    omega

theorem eq_of_append_eq_append {a b x y : List Char} (h : a ++ x = b ++ y)
    (hlen : (encode a).length = (encode b).length) : a = b := by
  rcases List.append_eq_append_iff.mp h with ⟨l, rfl, -⟩ | ⟨l, rfl, -⟩
  · obtain rfl : l = [] := eq_nil_of_length_encode (by simpa using hlen)
    simp
  · obtain rfl : l = [] := eq_nil_of_length_encode (by simpa using hlen)
    simp

theorem encodeChar_of_ascii {c : Char} (h : c.toNat < 0x80) :
    String.utf8EncodeChar c = [UInt8.ofNat c.toNat] := by
  have size : c.utf8Size = 1 := by
    rw [Char.utf8Size_eq_one_iff, UInt32.le_iff_toNat_le]
    exact Nat.le_of_lt_succ h
  rw [String.utf8EncodeChar_eq_singleton size]
  rfl

theorem isFirstByte_of_ascii {b : UInt8} (h : b < 0x80) : b.IsUTF8FirstByte := by
  have all : ∀ n : Fin 0x80, UInt8.ofNat n.val &&& 0x80 = 0 := by decide
  exact Or.inl (by simpa using all ⟨b.toNat, h⟩)

theorem encodeChar_append_inj {c d : Char} {x y : Bytes}
    (h : String.utf8EncodeChar c ++ x = String.utf8EncodeChar d ++ y) : c = d ∧ x = y := by
  have same : c = d := by
    have := congrArg (fun octets : Bytes => octets.toByteArray.utf8DecodeChar? 0) h
    simpa [List.toByteArray_append, ByteArray.utf8DecodeChar?_utf8EncodeChar_append] using this
  subst same
  exact ⟨rfl, List.append_cancel_left h⟩

theorem encode_eq_append {text word : List Char} {rest : Bytes}
    (h : encode text = encode word ++ rest) :
    ∃ post, text = word ++ post ∧ rest = encode post := by
  induction word generalizing text with
  | nil => exact ⟨text, rfl, h.symm⟩
  | cons c word ih =>
    cases text with
    | nil => simp [String.utf8EncodeChar_ne_nil] at h
    | cons d text =>
      rw [encode_cons, encode_cons, List.append_assoc] at h
      obtain ⟨rfl, htext⟩ := encodeChar_append_inj h
      obtain ⟨post, rfl, hrest⟩ := ih htext
      exact ⟨post, rfl, hrest⟩

theorem encode_eq_append_ascii {text : List Char} {before rest : Bytes} {b : UInt8}
    (hb : b < 0x80) (h : encode text = before ++ b :: rest) :
    ∃ pre post, text = pre ++ post ∧ before = encode pre ∧ b :: rest = encode post := by
  induction text generalizing before with
  | nil => simp at h
  | cons c text ih =>
    by_cases hn : before = []
    · subst hn
      exact ⟨[], c :: text, rfl, rfl, h.symm⟩
    rw [encode_cons] at h
    rcases List.append_eq_append_iff.mp h with ⟨tail, h1, h2⟩ | ⟨tail, h1, h2⟩
    · obtain ⟨pre, post, rfl, rfl, hrest⟩ := ih h2
      exact ⟨c :: pre, post, rfl, h1, hrest⟩
    cases tail with
    | nil =>
      have h3 : encode text = [] ++ b :: rest := by simpa using h2.symm
      obtain ⟨pre, post, rfl, hpre, hrest⟩ := ih h3
      exact ⟨c :: pre, post, rfl, by simp [← hpre, h1], hrest⟩
    | cons b' tail =>
      -- the octet would stand inside the first character, behind its first octet
      obtain ⟨rfl, -⟩ : b = b' ∧ _ := by simpa using h2
      have hlt : before.length < (String.utf8EncodeChar c).length := by simp [h1]
      have hget : (String.utf8EncodeChar c)[before.length] = b := by simp [h1]
      have zero := UInt8.isUTF8FirstByte_getElem_utf8EncodeChar.mp (hget ▸ isFirstByte_of_ascii hb)
      exact absurd (List.length_eq_zero_iff.mp zero) hn

theorem encode_eq_append_word {text word : List Char} {c : Char} {before rest : Bytes}
    (hc : c.toNat < 0x80) (h : encode text = before ++ (encode (c :: word) ++ rest)) :
    ∃ pre post, text = pre ++ (c :: word) ++ post ∧ before = encode pre ∧ rest = encode post := by
  have hb : UInt8.ofNat c.toNat < 0x80 := by
    simp [UInt8.lt_iff_toNat_lt]
    omega
  have hfirst : encode (c :: word) ++ rest = UInt8.ofNat c.toNat :: (encode word ++ rest) := by
    simp [encodeChar_of_ascii hc]
  rw [hfirst] at h
  obtain ⟨pre, tail, rfl, hpre, htail⟩ := encode_eq_append_ascii hb h
  obtain ⟨post, rfl, hrest⟩ := encode_eq_append (htail.symm.trans hfirst.symm)
  exact ⟨pre, post, by simp, hpre, hrest⟩

end RouteLens.Utf8
