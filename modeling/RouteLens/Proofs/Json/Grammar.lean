import Mathlib.Data.List.Basic
import RouteLens.Json.Literal

/-!
# The grammar of JSON texts

What a literal may hold, as a grammar of its own: the insides of strings and the parts of numbers.
The readers of strings and of numbers are described by what they take when a text of their kind
stands first, whatever follows; a number alone has to be followed by something that cannot belong
to it.
-/

namespace RouteLens.Literal

/-- The inside of a string as the grammar allows it. -/
inductive StringText : List Char → Prop
  | nil : StringText []
  | plain {c : Char} {rest : List Char} (hc : ' ' ≤ c ∧ c ≠ '"' ∧ c ≠ '\\') :
      StringText rest → StringText (c :: rest)
  | escape {e : Char} {rest : List Char} (he : isEscape e = true) :
      StringText rest → StringText ('\\' :: e :: rest)
  | unicode {a b c d : Char} {rest : List Char}
      (hhex : Text.isHex a && Text.isHex b && Text.isHex c && Text.isHex d) :
      StringText rest → StringText ('\\' :: 'u' :: a :: b :: c :: d :: rest)

/-- Digits, at least one. -/
def DigitText (digits : List Char) : Prop :=
  digits ≠ [] ∧ ∀ c ∈ digits, c.isDigit = true

/-- A number as the grammar allows it: a sign, a whole part without needless zeros, a fraction and
an exponent. -/
structure NumberText (token : List Char) : Prop where
  parts : ∃ sign whole fraction exponent, token = sign ++ (whole ++ (fraction ++ exponent)) ∧
    (sign = [] ∨ sign = ['-']) ∧
    (DigitText whole ∧ ∀ rest, whole = '0' :: rest → rest = []) ∧
    (fraction = [] ∨ ∃ digits, DigitText digits ∧ fraction = '.' :: digits) ∧
    (exponent = [] ∨ ∃ mark sign digits, (mark = 'e' ∨ mark = 'E') ∧
      (sign = [] ∨ sign = ['+'] ∨ sign = ['-']) ∧ DigitText digits ∧
      exponent = mark :: (sign ++ digits))

mutual

/-- A literal of the grammar. -/
def Grammatical : Literal → Prop
  | .null => True
  | .bool _ => True
  | .number token => NumberText token
  | .string raw => StringText raw
  | .array items => GrammaticalItems items
  | .object members => GrammaticalMembers members

/-- Items of the grammar. -/
def GrammaticalItems : List Literal → Prop
  | [] => True
  | item :: rest => Grammatical item ∧ GrammaticalItems rest

/-- Members of the grammar. -/
def GrammaticalMembers : List (List Char × Literal) → Prop
  | [] => True
  | (key, value) :: rest => StringText key ∧ Grammatical value ∧ GrammaticalMembers rest

end

/-! ## Strings -/

theorem readString_plain {c : Char} (hc : ' ' ≤ c ∧ c ≠ '"' ∧ c ≠ '\\') (done text : List Char) :
    readString done (c :: text) = readString (c :: done) text := by
  obtain ⟨hspace, hquote, hslash⟩ := hc
  rw [readString.eq_def]
  split <;> simp_all

theorem readString_escape {e : Char} (he : isEscape e = true) (done text : List Char) :
    readString done ('\\' :: e :: text) = readString (e :: '\\' :: done) text := by
  have hu : e ≠ 'u' := by
    rintro rfl
    exact absurd he (by decide)
  simp [readString, hu, he]

/-- The inside of a string is read up to the quote behind it. -/
theorem StringText.readString {raw : List Char} (h : StringText raw) (done rest : List Char) :
    Literal.readString done (raw ++ '"' :: rest) = some (done.reverse ++ raw, rest) := by
  induction h generalizing done with
  | nil => simp [Literal.readString]
  | plain hc _ ih => simp [readString_plain hc, ih]
  | escape he _ ih => simp [readString_escape he, ih]
  | unicode hhex _ ih => simp [Literal.readString, hhex, ih]

/-! ## Numbers -/

/-- Nothing that could belong to a number stands first. -/
def EndsNumber (text : List Char) : Prop :=
  ∀ c ∈ text.head?, c.isDigit = false ∧ c ≠ '.' ∧ c ≠ 'e' ∧ c ≠ 'E'

theorem DigitText.readDigits {digits : List Char} (h : DigitText digits) {rest : List Char}
    (hrest : ∀ c ∈ rest.head?, c.isDigit = false) :
    Literal.readDigits (digits ++ rest) = some (digits, rest) := by
  have htake : rest.takeWhile Char.isDigit = [] := by
    cases rest with
    | nil => rfl
    | cons c rest => simp [hrest c rfl]
  have hdrop : rest.dropWhile Char.isDigit = rest := by
    cases rest with
    | nil => rfl
    | cons c rest => simp [hrest c rfl]
  rw [Literal.readDigits, List.takeWhile_append_of_pos h.2, List.dropWhile_append_of_pos h.2, htake,
    hdrop, List.append_nil]
  split
  · exact absurd rfl h.1
  · rfl

theorem DigitText.head_isDigit {digits : List Char} (h : DigitText digits) (rest : List Char) :
    ∃ c more, digits ++ rest = c :: more ∧ c.isDigit = true := by
  obtain ⟨hne, hall⟩ := h
  cases digits with
  | nil => exact absurd rfl hne
  | cons c digits => exact ⟨c, digits ++ rest, rfl, hall c List.mem_cons_self⟩

theorem readWhole_append {whole : List Char} (h : DigitText whole)
    (hzero : ∀ rest, whole = '0' :: rest → rest = []) {rest : List Char}
    (hrest : ∀ c ∈ rest.head?, c.isDigit = false) :
    readWhole (whole ++ rest) = some (whole, rest) := by
  rw [readWhole, h.readDigits hrest]
  split
  · next hread =>
    obtain ⟨rfl, -⟩ := Prod.mk.inj (Option.some.inj hread)
    cases hzero _ rfl
  · rfl

theorem readFraction_append {fraction : List Char}
    (h : fraction = [] ∨ ∃ digits, DigitText digits ∧ fraction = '.' :: digits) {rest : List Char}
    (hrest : ∀ c ∈ rest.head?, c.isDigit = false ∧ c ≠ '.') :
    readFraction (fraction ++ rest) = some (fraction, rest) := by
  obtain rfl | ⟨digits, hdigits, rfl⟩ := h
  · cases rest with
    | nil => rfl
    | cons c rest => simp [readFraction, (hrest c rfl).2]
  · have hread := hdigits.readDigits fun c hc => (hrest c hc).1
    simp [readFraction, hread]

theorem readSign_of_not_mem {signs : List Char} {text : List Char}
    (h : ∀ c ∈ text.head?, c ∉ signs) : readSign signs text = ([], text) := by
  cases text with
  | nil => rfl
  | cons c rest => simp [readSign, h c rfl]

theorem not_isDigit_sign {c : Char} (hc : c = '+' ∨ c = '-' ∨ c = '.' ∨ c = 'e' ∨ c = 'E') :
    c.isDigit = false := by
  obtain rfl | rfl | rfl | rfl | rfl := hc <;> rfl

theorem readSign_append {signs sign text : List Char} (h : sign = [] ∨ ∃ c ∈ signs, sign = [c])
    (hsigns : ∀ c ∈ signs, c = '+' ∨ c = '-') (hdigit : ∃ c more, text = c :: more ∧ c.isDigit) :
    readSign signs (sign ++ text) = (sign, text) := by
  obtain rfl | ⟨c, hc, rfl⟩ := h
  · obtain ⟨c, more, rfl, hc⟩ := hdigit
    refine readSign_of_not_mem fun c' hc' hmem => ?_
    obtain rfl := Option.some.inj hc'
    have := not_isDigit_sign ((hsigns _ hmem).imp_right .inl)
    simp_all
  · simp [readSign, hc]

theorem readExponent_append {exponent : List Char}
    (h : exponent = [] ∨ ∃ mark sign digits, (mark = 'e' ∨ mark = 'E') ∧
      (sign = [] ∨ sign = ['+'] ∨ sign = ['-']) ∧ DigitText digits ∧
      exponent = mark :: (sign ++ digits)) {rest : List Char} (hrest : EndsNumber rest) :
    readExponent (exponent ++ rest) = some (exponent, rest) := by
  obtain rfl | ⟨mark, sign, digits, hmark, hsign, hdigits, rfl⟩ := h
  · cases rest with
    | nil => rfl
    | cons c rest =>
      obtain ⟨-, -, he, hE⟩ := hrest c rfl
      simp [readExponent, he, hE]
  · have hread := hdigits.readDigits fun c hc => (hrest c hc).1
    have hplus : sign = [] ∨ ∃ c ∈ ['+', '-'], sign = [c] := by simpa using hsign
    have hreadSign := readSign_append hplus (by simp) (hdigits.head_isDigit rest)
    simp [readExponent, hmark, hreadSign, hread]

/-- A number is read up to what cannot belong to it. -/
theorem NumberText.readNumber {token : List Char} (h : NumberText token) {rest : List Char}
    (hrest : EndsNumber rest) : Literal.readNumber (token ++ rest) = some (token, rest) := by
  obtain ⟨sign, whole, fraction, exponent, rfl, hsign, ⟨hwhole, hzero⟩, hfraction, hexponent⟩ :=
    h.parts
  have hafterFraction : ∀ c ∈ (exponent ++ rest).head?, c.isDigit = false ∧ c ≠ '.' := by
    obtain rfl | ⟨mark, sign, digits, hmark, -, -, rfl⟩ := hexponent
    · exact fun c hc => ⟨(hrest c hc).1, (hrest c hc).2.1⟩
    · intro c hc
      obtain rfl : mark = c := Option.some.inj hc
      obtain rfl | rfl := hmark <;> decide
  have hafterWhole : ∀ c ∈ (fraction ++ (exponent ++ rest)).head?, c.isDigit = false := by
    obtain rfl | ⟨digits, -, rfl⟩ := hfraction
    · exact fun c hc => (hafterFraction c hc).1
    · intro c hc
      obtain rfl : '.' = c := Option.some.inj hc
      rfl
  have hminus : sign = [] ∨ ∃ c ∈ ['-'], sign = [c] := by simpa using hsign
  have hreadSign := readSign_append hminus (by simp)
    (hwhole.head_isDigit (fraction ++ (exponent ++ rest)))
  simp only [Literal.readNumber, List.append_assoc, hreadSign,
    readWhole_append hwhole hzero hafterWhole, readFraction_append hfraction hafterFraction,
    readExponent_append hexponent hrest]

/-- A number begins with a digit or a minus sign. -/
theorem NumberText.exists_cons {token : List Char} (h : NumberText token) :
    ∃ c rest, token = c :: rest ∧ (c.isDigit = true ∨ c = '-') := by
  obtain ⟨sign, whole, fraction, exponent, rfl, hsign, ⟨hwhole, -⟩, -⟩ := h.parts
  obtain rfl | rfl := hsign
  · obtain ⟨c, more, heq, hc⟩ := hwhole.head_isDigit (fraction ++ exponent)
    exact ⟨c, more, heq, .inl hc⟩
  · exact ⟨'-', _, rfl, .inr rfl⟩

/-! ## Values -/

theorem endsNumber_cons {c : Char} (hc : c ∈ [',', ']', '}']) (rest : List Char) :
    EndsNumber (c :: rest) := by
  have hall : ∀ c ∈ [',', ']', '}'], c.isDigit = false ∧ c ≠ '.' ∧ c ≠ 'e' ∧ c ≠ 'E' := by
    simp only [List.forall_mem_cons, List.not_mem_nil, false_imp_iff, implies_true, and_true]
    decide
  intro d hd
  obtain rfl : c = d := Option.some.inj hd
  exact hall c hc

theorem skipSpace_cons {c : Char} (hc : isSpace c = false) (rest : List Char) :
    skipSpace (c :: rest) = c :: rest := by
  simp [skipSpace, hc]

theorem readValue_number {c : Char} (hc : c.isDigit = true ∨ c = '-') (fuel : Nat)
    (text : List Char) :
    readValue (fuel + 1) (c :: text) =
      (readNumber (c :: text)).map fun (token, rest) => (.number token, rest) := by
  have hstarts : ∀ d ∈ [' ', '\t', '\n', '\r', 'n', 't', 'f', '"', '[', '{'],
      ¬ (d.isDigit = true ∨ d = '-') := by
    simp only [List.forall_mem_cons, List.not_mem_nil, false_imp_iff, implies_true, and_true]
    decide
  have hne : ∀ d ∈ [' ', '\t', '\n', '\r', 'n', 't', 'f', '"', '[', '{'], c ≠ d := by
    rintro d hd rfl
    exact hstarts c hd hc
  simp only [List.forall_mem_cons] at hne
  have hspace : isSpace c = false := by
    simp [isSpace, hne]
  rw [readValue, skipSpace_cons hspace]
  split <;> simp_all

end RouteLens.Literal
