import RouteLens.Proofs.Controller.Lines

/-!
# Slices of a text

A text can be cut by offsets among its octets, but not anywhere: a slice must start before it ends,
lie within the text, and start and end between characters. Cutting elsewhere is a fault, and so are
an octet beyond the end, a difference below zero, and a sum that a word cannot hold.
-/

namespace RouteLens.Source

open Utf8 (encode)

/-- Why a step on offsets or words is not possible. -/
inductive Fault
  /-- The end of a slice lies before its start. -/
  | outOfOrder
  /-- An offset lies beyond the end. -/
  | outOfBounds
  /-- An offset lies inside a character. -/
  | offBoundary
  /-- A difference lies below zero. -/
  | negative
  /-- A sum does not fit a word. -/
  | overflow
  deriving DecidableEq, Repr

/-- Whether an octet starts a character: it is not one of those that continue one. -/
def startsChar (b : UInt8) : Bool :=
  b < 0x80 || 0xc0 ≤ b

/-- Whether an offset lies between characters, or at either end. -/
def isBoundary (octets : Bytes) (i : Nat) : Bool :=
  i == 0 || i == octets.length || octets[i]?.any startsChar

/-- The characters that start within the first `count` octets of a text. -/
def takeOctets (count : Nat) : List Char → List Char
  | [] => []
  | c :: rest => if count = 0 then [] else c :: takeOctets (count - c.utf8Size) rest

/-- The text between two offsets. -/
def slice (text : List Char) (first last : Nat) : Except Fault (List Char) :=
  if last < first then .error .outOfOrder
  else if (encode text).length < last then .error .outOfBounds
  else if isBoundary (encode text) first && isBoundary (encode text) last then
    .ok (takeOctets (last - first) (dropOctets first text))
  else .error .offBoundary

/-- The octet at an offset. -/
def octetAt (octets : Bytes) (i : Nat) : Except Fault UInt8 :=
  match octets[i]? with
  | some b => .ok b
  | none => .error .outOfBounds

/-- The first octets up to an offset. -/
def octetsUpTo (octets : Bytes) (i : Nat) : Except Fault Bytes :=
  if octets.length < i then .error .outOfBounds else .ok (octets.take i)

/-- The difference of two offsets. -/
def difference (a b : Nat) : Except Fault Nat :=
  if a < b then .error .negative else .ok (a - b)

/-- A step that succeeds hands its value on. -/
theorem ok_bind {α β : Type} (a : α) (next : α → Except Fault β) :
    (Except.ok a >>= next) = next a := rfl

theorem pure_eq_ok {α : Type} (a : α) : (pure a : Except Fault α) = .ok a := rfl

/-! ## The octets of a character -/

/-- A character of ASCII is one octet, itself. Any other starts with an octet from `0xc0` on, and
goes on with octets below that. -/
theorem encodeChar_cases (c : Char) :
    (∃ b, String.utf8EncodeChar c = [b] ∧ b.toNat = c.toNat ∧ c.toNat < 0x80) ∨
    (∃ b tail, String.utf8EncodeChar c = b :: tail ∧ 0x80 ≤ c.toNat ∧ 0xc0 ≤ b.toNat ∧
      ∀ t ∈ tail, 0x80 ≤ t.toNat ∧ t.toNat < 0xc0) := by
  by_cases h1 : c.toNat < 0x80
  · refine .inl ⟨UInt8.ofNat c.toNat, Utf8.encodeChar_of_ascii h1, ?_, h1⟩
    simp
    omega
  right
  have hval : c.toNat = c.val.toNat := rfl
  have h1' : ¬ c.val.toNat ≤ 127 := by omega
  by_cases h2 : c.val.toNat ≤ 2047
  · have henc : String.utf8EncodeChar c =
        [UInt8.ofNat (c.val.toNat / 64 % 32 + 192), UInt8.ofNat (c.val.toNat % 64 + 128)] := by
      simp only [String.utf8EncodeChar, h1', h2, if_true, if_false]
    refine ⟨_, _, henc, by omega, ?_, ?_⟩
    · rw [UInt8.toNat_ofNat']
      omega
    · simp only [List.mem_singleton, forall_eq, UInt8.toNat_ofNat']
      omega
  by_cases h3 : c.val.toNat ≤ 65535
  · have henc : String.utf8EncodeChar c =
        [UInt8.ofNat (c.val.toNat / 4096 % 16 + 224), UInt8.ofNat (c.val.toNat / 64 % 64 + 128),
          UInt8.ofNat (c.val.toNat % 64 + 128)] := by
      simp only [String.utf8EncodeChar, h1', h2, h3, if_true, if_false]
    refine ⟨_, _, henc, by omega, ?_, ?_⟩
    · rw [UInt8.toNat_ofNat']
      omega
    · simp only [List.forall_mem_cons, List.mem_singleton, forall_eq, UInt8.toNat_ofNat']
      omega
  · have henc : String.utf8EncodeChar c =
        [UInt8.ofNat (c.val.toNat / 262144 % 8 + 240), UInt8.ofNat (c.val.toNat / 4096 % 64 + 128),
          UInt8.ofNat (c.val.toNat / 64 % 64 + 128), UInt8.ofNat (c.val.toNat % 64 + 128)] := by
      simp only [String.utf8EncodeChar, h1', h2, h3, if_false]
    refine ⟨_, _, henc, by omega, ?_, ?_⟩
    · rw [UInt8.toNat_ofNat']
      omega
    · simp only [List.forall_mem_cons, List.mem_singleton, forall_eq, UInt8.toNat_ofNat']
      omega

/-- The first octet of a character, and that no later one starts a character. -/
theorem exists_encodeChar (c : Char) :
    ∃ b tail, String.utf8EncodeChar c = b :: tail ∧ startsChar b = true ∧
      (∀ t ∈ tail, startsChar t = false) ∧ LastOctet c b ∧ (c.toNat < 0x80 → tail = []) := by
  rcases encodeChar_cases c with ⟨b, hc, hb, hlt⟩ | ⟨b, tail, hc, hge, hb, htail⟩
  · refine ⟨b, [], hc, ?_, by simp, .inl ⟨hb, hlt⟩, fun _ => rfl⟩
    simp only [startsChar, Bool.or_eq_true, decide_eq_true_eq, UInt8.lt_iff_toNat_lt,
      UInt8.reduceToNat]
    omega
  · refine ⟨b, tail, hc, ?_, ?_, .inr ⟨by omega, hge⟩, fun hlt => by omega⟩
    · simp only [startsChar, Bool.or_eq_true, decide_eq_true_eq, UInt8.le_iff_toNat_le,
        UInt8.reduceToNat]
      omega
    · intro t ht
      have := htail t ht
      simp only [startsChar, Bool.or_eq_false_iff, decide_eq_false_iff_not, UInt8.lt_iff_toNat_lt,
        UInt8.le_iff_toNat_le, UInt8.reduceToNat]
      omega

theorem getElem?_encode_append (pre post : List Char) (i : Nat) :
    (encode (pre ++ post))[(encode pre).length + i]? = (encode post)[i]? := by
  rw [Utf8.encode_append, List.getElem?_append_right (Nat.le_add_right _ _),
    Nat.add_sub_cancel_left]

theorem isBoundary_iff {octets : Bytes} {i : Nat} :
    isBoundary octets i = true ↔
      i = 0 ∨ i = octets.length ∨ ∃ b, octets[i]? = some b ∧ startsChar b = true := by
  simp only [isBoundary, Bool.or_eq_true, beq_iff_eq, Option.any_eq_true, or_assoc]

theorem isBoundary_append (pre post : List Char) :
    isBoundary (encode (pre ++ post)) (encode pre).length = true := by
  rw [isBoundary_iff]
  cases post with
  | nil => simp
  | cons c post =>
    obtain ⟨b, tail, hc, hb, -⟩ := exists_encodeChar c
    have hget := getElem?_encode_append pre (c :: post) 0
    rw [Nat.add_zero, Utf8.encode_cons, hc, List.cons_append, List.getElem?_cons_zero] at hget
    exact .inr (.inr ⟨b, hget, hb⟩)

/-- Boundaries are the ends of starts of the text. -/
theorem exists_of_isBoundary {text : List Char} {i : Nat} (hi : i ≤ (encode text).length)
    (h : isBoundary (encode text) i = true) :
    ∃ pre post, text = pre ++ post ∧ (encode pre).length = i := by
  rw [isBoundary_iff] at h
  induction text generalizing i with
  | nil => exact ⟨[], [], rfl, (Nat.le_zero.mp hi).symm⟩
  | cons c text ih =>
    obtain ⟨b, tail, hc, hb, htail, -⟩ := exists_encodeChar c
    by_cases hzero : i = 0
    · exact ⟨[], c :: text, rfl, hzero.symm⟩
    by_cases hlt : i < (String.utf8EncodeChar c).length
    · -- the octet at `i` would continue the first character
      obtain ⟨j, rfl⟩ := Nat.exists_eq_succ_of_ne_zero hzero
      rw [hc, List.length_cons] at hlt
      have hget : (encode (c :: text))[j + 1]? = some tail[j] := by
        rw [Utf8.encode_cons, hc, List.cons_append, List.getElem?_cons_succ,
          List.getElem?_append_left (by omega), List.getElem?_eq_getElem (by omega)]
      rcases h with h | h | ⟨b', hb', hstart⟩
      · exact absurd h hzero
      · rw [Utf8.encode_cons, hc, List.length_append, List.length_cons] at h
        omega
      · rw [hget] at hb'
        rw [← Option.some.inj hb', htail _ (List.getElem_mem _)] at hstart
        exact absurd hstart Bool.false_ne_true
    · obtain ⟨j, rfl⟩ := Nat.exists_eq_add_of_le (Nat.le_of_not_lt hlt)
      have hj : j ≤ (encode text).length := by
        rw [Utf8.encode_cons, List.length_append] at hi
        omega
      have hget := getElem?_encode_append [c] text j
      have hlen : (encode [c]).length = (String.utf8EncodeChar c).length := by simp
      rw [hlen, List.singleton_append] at hget
      have hrest : j = 0 ∨ j = (encode text).length ∨
          ∃ b, (encode text)[j]? = some b ∧ startsChar b = true := by
        rcases h with h | h | h
        · exact absurd h hzero
        · rw [Utf8.encode_cons, List.length_append] at h
          exact .inr (.inl (by omega))
        · rw [hget] at h
          exact .inr (.inr h)
      obtain ⟨pre, post, rfl, rfl⟩ := ih hj hrest
      exact ⟨c :: pre, post, rfl, by simp⟩

/-! ## Slices -/

theorem takeOctets_append (pre post : List Char) :
    takeOctets (encode pre).length (pre ++ post) = pre := by
  induction pre with
  | nil => cases post <;> simp [takeOctets]
  | cons c pre ih =>
    have hpos := c.utf8Size_pos
    have hlen : (encode (c :: pre)).length - c.utf8Size = (encode pre).length := by simp
    have hne : ¬ (encode (c :: pre)).length = 0 := by
      simp
      omega
    rw [List.cons_append, takeOctets, if_neg hne, hlen, ih]

theorem slice_append (pre mid post : List Char) :
    slice (pre ++ (mid ++ post)) (encode pre).length (encode (pre ++ mid)).length = .ok mid := by
  have hfirst := isBoundary_append pre (mid ++ post)
  have hlast := isBoundary_append (pre ++ mid) post
  rw [List.append_assoc] at hlast
  have hle : ¬ (encode (pre ++ mid)).length < (encode pre).length := by simp
  have hin : ¬ (encode (pre ++ (mid ++ post))).length < (encode (pre ++ mid)).length := by simp
  have hgap : (encode (pre ++ mid)).length - (encode pre).length = (encode mid).length := by simp
  rw [slice, if_neg hle, if_neg hin, hfirst, hlast, Bool.and_self, if_pos rfl, dropOctets_append,
    hgap, takeOctets_append]

/-- The text from an offset on. -/
theorem slice_append_end (pre post : List Char) :
    slice (pre ++ post) (encode pre).length (encode (pre ++ post)).length = .ok post := by
  simpa using slice_append pre post []

/-- A slice succeeds where the text splits at both offsets, and only there. -/
theorem slice_eq_ok_iff {text mid : List Char} {first last : Nat} :
    slice text first last = .ok mid ↔
      ∃ pre post, text = pre ++ (mid ++ post) ∧ (encode pre).length = first ∧
        (encode (pre ++ mid)).length = last := by
  constructor
  · intro h
    rw [slice] at h
    by_cases hle : last < first
    · simp [hle] at h
    by_cases hin : (encode text).length < last
    · simp [hle, hin] at h
    simp only [hle, hin, if_false, Bool.and_eq_true] at h
    split at h
    · next hboth =>
      obtain ⟨pre, rest, hpre, rfl⟩ := exists_of_isBoundary (by omega) hboth.1
      obtain ⟨front, post, hfront, rfl⟩ := exists_of_isBoundary (by omega) hboth.2
      obtain ⟨between, rfl⟩ := prefix_of_length_encode_le ⟨rest, hpre.symm⟩ ⟨post, hfront.symm⟩
        (Nat.le_of_not_lt hle)
      rw [hfront, List.append_assoc, dropOctets_append, Utf8.encode_append, List.length_append,
        Nat.add_sub_cancel_left, takeOctets_append] at h
      obtain rfl := Except.ok.inj h
      exact ⟨pre, post, by rw [hfront, List.append_assoc], rfl, rfl⟩
    · simp at h
  · rintro ⟨pre, post, rfl, rfl, rfl⟩
    exact slice_append pre mid post

end RouteLens.Source
