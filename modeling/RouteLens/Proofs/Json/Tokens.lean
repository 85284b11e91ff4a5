import Mathlib.Data.List.TakeWhile
import RouteLens.Proofs.Json.Grammar

/-!
# Texts of JSON literals

A text is that of a literal when it holds the literal's tokens in their order and nothing else but
blanks before, between and after them (`IsText`). The reader gives a literal for a text exactly when
the text is that of the literal (`parse_eq_some_iff`).
-/

namespace RouteLens.Literal

/-! ## Tokens -/

mutual

/-- The tokens of a literal: its words, numbers, strings and marks. -/
def tokens : Literal → List (List Char)
  | .null => [['n', 'u', 'l', 'l']]
  | .bool true => [['t', 'r', 'u', 'e']]
  | .bool false => [['f', 'a', 'l', 's', 'e']]
  | .number token => [token]
  | .string raw => ['"' :: (raw ++ ['"'])]
  | .array items => ['['] :: itemsTokens items
  | .object members => ['{'] :: membersTokens members

/-- The tokens of items, with the bracket behind them. -/
def itemsTokens : List Literal → List (List Char)
  | [] => [[']']]
  | [item] => tokens item ++ [[']']]
  | item :: rest => tokens item ++ [','] :: itemsTokens rest

/-- The tokens of members, with the brace behind them. -/
def membersTokens : List (List Char × Literal) → List (List Char)
  | [] => [['}']]
  | [(key, value)] => ('"' :: (key ++ ['"'])) :: [':'] :: (tokens value ++ [['}']])
  | (key, value) :: rest =>
    ('"' :: (key ++ ['"'])) :: [':'] :: (tokens value ++ [','] :: membersTokens rest)

end

/-- A text holds some tokens and nothing else but blanks before, between and after them. -/
inductive Spaced : List (List Char) → List Char → Prop
  | nil {blanks : List Char} : (∀ c ∈ blanks, isSpace c = true) → Spaced [] blanks
  | cons {blanks token : List Char} {tokens : List (List Char)} {rest : List Char} :
      (∀ c ∈ blanks, isSpace c = true) → Spaced tokens rest →
      Spaced (token :: tokens) (blanks ++ (token ++ rest))

/-- A text is that of a literal. -/
def IsText (l : Literal) (text : List Char) : Prop :=
  l.Grammatical ∧ Spaced l.tokens text

theorem skipSpace_append {blanks : List Char} (h : ∀ c ∈ blanks, isSpace c = true)
    (text : List Char) : skipSpace (blanks ++ text) = skipSpace text :=
  List.dropWhile_append_of_pos h

theorem exists_skipSpace (text : List Char) :
    ∃ blanks, (∀ c ∈ blanks, isSpace c = true) ∧ text = blanks ++ skipSpace text := by
  refine ⟨text.takeWhile isSpace, fun c hc => ?_, List.takeWhile_append_dropWhile.symm⟩
  exact List.mem_takeWhile_imp hc

theorem skipSpace_skipSpace (text : List Char) : skipSpace (skipSpace text) = skipSpace text := by
  obtain ⟨blanks, hblanks, htext⟩ := exists_skipSpace text
  conv_rhs => rw [htext, skipSpace_append hblanks]

/-- Behind blanks stands the first token. -/
theorem Spaced.skipSpace {c : Char} {token : List Char} {tokens : List (List Char)}
    {text : List Char} (h : Spaced ((c :: token) :: tokens) text) (hc : isSpace c = false) :
    ∃ rest, Literal.skipSpace text = c :: (token ++ rest) ∧ Spaced tokens rest := by
  cases h with
  | @cons blanks _ _ rest hblanks hrest =>
    refine ⟨rest, ?_, hrest⟩
    rw [skipSpace_append hblanks, List.cons_append, skipSpace_cons hc]

theorem Spaced.of_skipSpace {text rest : List Char} {tokens : List (List Char)}
    (token : List Char) (htext : Literal.skipSpace text = token ++ rest) (h : Spaced tokens rest) :
    Spaced (token :: tokens) text := by
  obtain ⟨blanks, hblanks, hsplit⟩ := exists_skipSpace text
  rw [hsplit, htext]
  exact .cons hblanks h

theorem spaced_nil_iff {text : List Char} : Spaced [] text ↔ Literal.skipSpace text = [] := by
  constructor
  · intro h
    cases h with
    | nil hblanks =>
      rw [← List.append_nil text, skipSpace_append hblanks]
      rfl
  · intro h
    obtain ⟨blanks, hblanks, hsplit⟩ := exists_skipSpace text
    rw [hsplit, h, List.append_nil]
    exact .nil hblanks

/-- Tokens in a row are a text of themselves. -/
theorem spaced_flatten (tokens : List (List Char)) : Spaced tokens tokens.flatten := by
  induction tokens with
  | nil => exact .nil (by simp)
  | cons token tokens ih =>
    have hnone : ∀ c ∈ ([] : List Char), isSpace c = true := by simp
    exact .cons hnone ih

/-- Each token takes a character. -/
theorem Spaced.length_le {tokens : List (List Char)} {text : List Char} (h : Spaced tokens text)
    (hne : ∀ token ∈ tokens, token ≠ []) : tokens.length ≤ text.length := by
  induction h with
  | nil _ => exact Nat.zero_le _
  | @cons blanks token tokens rest _ _ ih =>
    have hpos := List.length_pos_iff.mpr (hne token List.mem_cons_self)
    have hrest := ih fun other hother => hne other (List.mem_cons_of_mem _ hother)
    simp only [List.length_cons, List.length_append]
    omega

/-! ## Reading what is spaced -/

/-- The next token closes a value: it is a comma, a bracket or a brace, or there is none. -/
def Closes (tokens : List (List Char)) : Prop :=
  ∀ token ∈ tokens.head?, ∃ c ∈ [',', ']', '}'], token = [c]

theorem Spaced.endsNumber {tokens : List (List Char)} {text : List Char} (h : Spaced tokens text)
    (hcloses : Closes tokens) : EndsNumber text := by
  have hspace : ∀ {c : Char} (rest : List Char), isSpace c = true → EndsNumber (c :: rest) := by
    intro c rest hc d hd
    obtain rfl : c = d := Option.some.inj hd
    simp only [isSpace, Bool.or_eq_true, beq_iff_eq] at hc
    obtain ((rfl | rfl) | rfl) | rfl := hc <;> decide
  cases h with
  | @nil blanks hblanks =>
    cases text with
    | nil => exact fun c hc => absurd hc (by simp)
    | cons c rest => exact hspace rest (hblanks c List.mem_cons_self)
  | @cons blanks token tokens rest hblanks _ =>
    cases blanks with
    | nil =>
      obtain ⟨c, hc, rfl⟩ := hcloses token rfl
      exact endsNumber_cons hc rest
    | cons c blanks => exact hspace _ (hblanks c List.mem_cons_self)

theorem closes_singleton {c : Char} (hc : c ∈ [',', ']', '}']) (tokens : List (List Char)) :
    Closes ([c] :: tokens) := by
  intro token htoken
  obtain rfl := Option.some.inj htoken
  exact ⟨c, hc, rfl⟩

theorem readValue_skipSpace (fuel : Nat) (text : List Char) :
    readValue fuel (skipSpace text) = readValue fuel text := by
  cases fuel with
  | zero => rw [readValue, readValue]
  | succ fuel => rw [readValue, readValue, skipSpace_skipSpace]

/-- A value begins with neither a blank nor a closing bracket. -/
theorem Grammatical.exists_tokens {l : Literal} (h : l.Grammatical) :
    ∃ c token more, l.tokens = (c :: token) :: more ∧ isSpace c = false ∧ c ≠ ']' := by
  cases l with
  | null => exact ⟨'n', _, _, rfl, by decide⟩
  | bool value => cases value <;> exact ⟨_, _, _, rfl, by decide⟩
  | string raw => exact ⟨'"', _, _, rfl, by decide⟩
  | array items => exact ⟨'[', _, _, rfl, by decide⟩
  | object members => exact ⟨'{', _, _, rfl, by decide⟩
  | number token =>
    rw [Grammatical] at h
    obtain ⟨c, rest, rfl, hc⟩ := h.exists_cons
    have hspaces : ∀ d ∈ [' ', '\t', '\n', '\r', ']'], ¬ (d.isDigit = true ∨ d = '-') := by
      simp only [List.forall_mem_cons, List.not_mem_nil, false_imp_iff, implies_true, and_true]
      decide
    have hne : ∀ d ∈ [' ', '\t', '\n', '\r', ']'], c ≠ d := by
      rintro d hd rfl
      exact hspaces c hd hc
    simp only [List.forall_mem_cons] at hne
    exact ⟨c, rest, [], rfl, by simp [isSpace, hne], hne.2.2.2.2.1⟩

theorem itemsTokens_cons {items : List Literal} (item : Literal) (h : items ≠ []) :
    itemsTokens (item :: items) = item.tokens ++ [','] :: itemsTokens items := by
  cases items with
  | nil => exact absurd rfl h
  | cons next rest => rfl

theorem membersTokens_cons {members : List (List Char × Literal)} (key : List Char)
    (value : Literal) (h : members ≠ []) :
    membersTokens ((key, value) :: members) =
      ('"' :: (key ++ ['"'])) :: [':'] :: (value.tokens ++ [','] :: membersTokens members) := by
  cases members with
  | nil => exact absurd rfl h
  | cons next rest => rfl

theorem exists_itemsTokens {item : Literal} (h : item.Grammatical) (items : List Literal) :
    ∃ c token more, itemsTokens (item :: items) = (c :: token) :: more ∧ isSpace c = false ∧
      c ≠ ']' := by
  obtain ⟨c, token, more, htokens, hc⟩ := h.exists_tokens
  cases items with
  | nil => exact ⟨c, token, _, by rw [itemsTokens, htokens, List.cons_append], hc⟩
  | cons next items => exact ⟨c, token, _, by rw [itemsTokens, htokens, List.cons_append]; simp, hc⟩

theorem exists_membersTokens (member : List Char × Literal)
    (members : List (List Char × Literal)) :
    ∃ token more, membersTokens (member :: members) = ('"' :: token) :: more := by
  cases members with
  | nil => exact ⟨_, _, rfl⟩
  | cons next members => exact ⟨_, _, rfl⟩

theorem readValue_array {fuel : Nat} {text : List Char}
    (h : ∀ c ∈ (skipSpace text).head?, c ≠ ']') :
    readValue (fuel + 1) ('[' :: text) =
      (readItems fuel text).map fun (items, rest) => (.array items, rest) := by
  have hopen : isSpace '[' = false := rfl
  simp only [readValue, skipSpace_cons hopen]
  split
  · next heq =>
    rw [heq] at h
    exact absurd rfl (h ']' rfl)
  · rfl

theorem readValue_object {fuel : Nat} {text : List Char}
    (h : ∀ c ∈ (skipSpace text).head?, c ≠ '}') :
    readValue (fuel + 1) ('{' :: text) =
      (readMembers fuel text).map fun (members, rest) => (.object members, rest) := by
  have hopen : isSpace '{' = false := rfl
  simp only [readValue, skipSpace_cons hopen]
  split
  · next heq =>
    rw [heq] at h
    exact absurd rfl (h '}' rfl)
  · rfl

theorem StringText.readKey_of_spaced {key : List Char} (hkey : StringText key)
    {tokens : List (List Char)} {text : List Char}
    (h : Spaced (('"' :: (key ++ ['"'])) :: tokens) text) :
    ∃ rest, readKey text = some (key, rest) ∧ Spaced tokens rest := by
  obtain ⟨rest, hskip, hrest⟩ := h.skipSpace rfl
  refine ⟨rest, ?_, hrest⟩
  rw [readKey, hskip]
  simpa using hkey.readString [] rest

mutual

/-- A value is read from a text that holds its tokens first. Each step of the reader is paid for by
a token. -/
theorem readValue_of_spaced : ∀ (l : Literal), l.Grammatical → ∀ (fuel : Nat),
    2 * l.tokens.length ≤ fuel → ∀ (more : List (List Char)) (text : List Char), Closes more →
    Spaced (l.tokens ++ more) text →
    ∃ rest, readValue fuel text = some (l, rest) ∧ Spaced more rest
  | l, h, 0, hfuel, _, _, _, _ => by
    obtain ⟨c, token, others, htokens, -⟩ := h.exists_tokens
    simp [htokens] at hfuel
  | .null, _, fuel + 1, _, more, text, _, hspaced => by
    obtain ⟨rest, hskip, hrest⟩ := hspaced.skipSpace rfl
    refine ⟨rest, ?_, hrest⟩
    rw [← readValue_skipSpace, hskip]
    rfl
  | .bool true, _, fuel + 1, _, more, text, _, hspaced => by
    obtain ⟨rest, hskip, hrest⟩ := hspaced.skipSpace rfl
    refine ⟨rest, ?_, hrest⟩
    rw [← readValue_skipSpace, hskip]
    rfl
  | .bool false, _, fuel + 1, _, more, text, _, hspaced => by
    obtain ⟨rest, hskip, hrest⟩ := hspaced.skipSpace rfl
    refine ⟨rest, ?_, hrest⟩
    rw [← readValue_skipSpace, hskip]
    rfl
  | .number token, h, fuel + 1, _, more, text, hcloses, hspaced => by
    obtain ⟨c, token', others, htokens, hspace, -⟩ := h.exists_tokens
    obtain ⟨rfl, rfl⟩ := List.cons.inj (htokens : [token] = _)
    obtain ⟨rest, hskip, hrest⟩ := hspaced.skipSpace hspace
    rw [Grammatical] at h
    have hread := h.readNumber (hrest.endsNumber hcloses)
    obtain ⟨c', _, heq, hc⟩ := h.exists_cons
    obtain ⟨rfl, -⟩ := List.cons.inj heq
    refine ⟨rest, ?_, hrest⟩
    rw [← readValue_skipSpace, hskip, readValue_number hc, ← List.cons_append, hread]
    rfl
  | .string raw, h, fuel + 1, _, more, text, _, hspaced => by
    rw [Grammatical] at h
    obtain ⟨rest, hskip, hrest⟩ := hspaced.skipSpace rfl
    have hread := h.readString [] rest
    refine ⟨rest, ?_, hrest⟩
    rw [← readValue_skipSpace, hskip]
    simp [readValue, skipSpace_cons, isSpace, hread]
  | .array [], _, fuel + 1, _, more, text, _, hspaced => by
    obtain ⟨inner, hskip, hinner⟩ := hspaced.skipSpace rfl
    obtain ⟨rest, hclose, hrest⟩ := hinner.skipSpace rfl
    refine ⟨rest, ?_, hrest⟩
    rw [← readValue_skipSpace, hskip]
    simp [readValue, skipSpace_cons, isSpace, hclose]
  | .array (item :: items), h, fuel + 1, hfuel, more, text, _, hspaced => by
    rw [Grammatical, GrammaticalItems] at h
    rw [tokens, List.length_cons] at hfuel
    obtain ⟨inner, hskip, hinner⟩ := hspaced.skipSpace rfl
    obtain ⟨rest, hread, hrest⟩ := readItems_of_spaced item items h fuel (by omega) more inner
      hinner
    obtain ⟨c, token, others, htokens, hspace, hne⟩ := exists_itemsTokens h.1 items
    rw [htokens] at hinner
    obtain ⟨_, hfirst, -⟩ := hinner.skipSpace hspace
    refine ⟨rest, ?_, hrest⟩
    rw [← readValue_skipSpace, hskip, List.nil_append, readValue_array, hread]
    · rfl
    · rw [hfirst]
      rintro _ ⟨⟩
      exact hne
  | .object [], _, fuel + 1, _, more, text, _, hspaced => by
    obtain ⟨inner, hskip, hinner⟩ := hspaced.skipSpace rfl
    obtain ⟨rest, hclose, hrest⟩ := hinner.skipSpace rfl
    refine ⟨rest, ?_, hrest⟩
    rw [← readValue_skipSpace, hskip]
    simp [readValue, skipSpace_cons, isSpace, hclose]
  | .object (member :: members), h, fuel + 1, hfuel, more, text, _, hspaced => by
    rw [Grammatical] at h
    rw [tokens, List.length_cons] at hfuel
    obtain ⟨inner, hskip, hinner⟩ := hspaced.skipSpace rfl
    obtain ⟨rest, hread, hrest⟩ := readMembers_of_spaced member members h fuel (by omega) more inner
      hinner
    obtain ⟨token, others, htokens⟩ := exists_membersTokens member members
    rw [htokens] at hinner
    obtain ⟨_, hfirst, -⟩ := hinner.skipSpace rfl
    refine ⟨rest, ?_, hrest⟩
    rw [← readValue_skipSpace, hskip, List.nil_append, readValue_object, hread]
    · rfl
    · rw [hfirst]
      rintro _ ⟨⟩
      decide

/-- Items are read from a text that holds their tokens first. -/
theorem readItems_of_spaced : ∀ (item : Literal) (items : List Literal),
    item.Grammatical ∧ GrammaticalItems items → ∀ (fuel : Nat),
    2 * (itemsTokens (item :: items)).length + 1 ≤ fuel →
    ∀ (more : List (List Char)) (text : List Char),
    Spaced (itemsTokens (item :: items) ++ more) text →
    ∃ rest, readItems fuel text = some (item :: items, rest) ∧ Spaced more rest
  | item, [], h, fuel + 1, hfuel, more, text, hspaced => by
    rw [itemsTokens, List.append_assoc] at hspaced
    rw [itemsTokens, List.length_append, List.length_singleton] at hfuel
    obtain ⟨after, hread, hafter⟩ := readValue_of_spaced item h.1 fuel (by omega) _ text
      (closes_singleton (by decide) more) hspaced
    obtain ⟨rest, hskip, hrest⟩ := hafter.skipSpace rfl
    refine ⟨rest, ?_, hrest⟩
    simp only [readItems, hread, hskip, List.nil_append]
  | item, next :: items, h, fuel + 1, hfuel, more, text, hspaced => by
    rw [itemsTokens_cons item (List.cons_ne_nil next items), List.append_assoc] at hspaced
    rw [itemsTokens_cons item (List.cons_ne_nil next items), List.length_append, List.length_cons]
      at hfuel
    obtain ⟨after, hread, hafter⟩ := readValue_of_spaced item h.1 fuel (by omega) _ text
      (closes_singleton (by decide) _) hspaced
    obtain ⟨inner, hskip, hinner⟩ := hafter.skipSpace rfl
    obtain ⟨rest, hreadRest, hrest⟩ := readItems_of_spaced next items h.2 fuel (by omega) more inner
      hinner
    refine ⟨rest, ?_, hrest⟩
    simp only [readItems, hread, hskip, List.nil_append, hreadRest, Option.map_some]

/-- Members are read from a text that holds their tokens first. -/
theorem readMembers_of_spaced : ∀ (member : List Char × Literal)
    (members : List (List Char × Literal)), GrammaticalMembers (member :: members) →
    ∀ (fuel : Nat), 2 * (membersTokens (member :: members)).length + 1 ≤ fuel →
    ∀ (more : List (List Char)) (text : List Char),
    Spaced (membersTokens (member :: members) ++ more) text →
    ∃ rest, readMembers fuel text = some (member :: members, rest) ∧ Spaced more rest
  | (key, value), [], h, fuel + 1, hfuel, more, text, hspaced => by
    obtain ⟨hkey, hvalue, -⟩ := h
    simp only [membersTokens, List.length_append, List.length_cons] at hfuel
    simp only [membersTokens, List.cons_append, List.append_assoc] at hspaced
    obtain ⟨afterKey, hreadKey, hafterKey⟩ := hkey.readKey_of_spaced hspaced
    obtain ⟨afterColon, hcolon, hafterColon⟩ := hafterKey.skipSpace rfl
    obtain ⟨after, hread, hafter⟩ := readValue_of_spaced value hvalue fuel (by omega) _ _
      (closes_singleton (by decide) more) hafterColon
    obtain ⟨rest, hskip, hrest⟩ := hafter.skipSpace rfl
    refine ⟨rest, ?_, hrest⟩
    simp only [readMembers, hreadKey, hcolon, List.nil_append, hread, hskip]
  | (key, value), next :: members, h, fuel + 1, hfuel, more, text, hspaced => by
    obtain ⟨hkey, hvalue, hmembers⟩ := h
    rw [membersTokens_cons key value (List.cons_ne_nil next members)] at hfuel hspaced
    simp only [List.length_append, List.length_cons] at hfuel
    simp only [List.cons_append, List.append_assoc] at hspaced
    obtain ⟨afterKey, hreadKey, hafterKey⟩ := hkey.readKey_of_spaced hspaced
    obtain ⟨afterColon, hcolon, hafterColon⟩ := hafterKey.skipSpace rfl
    obtain ⟨after, hread, hafter⟩ := readValue_of_spaced value hvalue fuel (by omega) _ _
      (closes_singleton (by decide) _) hafterColon
    obtain ⟨inner, hskip, hinner⟩ := hafter.skipSpace rfl
    obtain ⟨rest, hreadRest, hrest⟩ := readMembers_of_spaced next members hmembers fuel (by omega)
      more inner hinner
    refine ⟨rest, ?_, hrest⟩
    simp only [readMembers, hreadKey, hcolon, List.nil_append, hread, hskip, hreadRest,
      Option.map_some]

end

/-! ## Strings and numbers that were read -/

/-- What is read of a string is its inside, up to the quote. -/
theorem exists_of_readString {done text raw rest : List Char}
    (h : readString done text = some (raw, rest)) :
    ∃ inside, StringText inside ∧ raw = done.reverse ++ inside ∧ text = inside ++ '"' :: rest := by
  fun_induction readString done text with
  | case1 done => cases h
  | case2 done text =>
    obtain ⟨rfl, rfl⟩ := Prod.mk.inj (Option.some.inj h)
    exact ⟨[], .nil, by simp, rfl⟩
  | case3 done a b c d text hhex ih =>
    obtain ⟨inside, hinside, rfl, rfl⟩ := ih h
    exact ⟨'\\' :: 'u' :: a :: b :: c :: d :: inside, .unicode hhex hinside, by simp, rfl⟩
  | case4 done a b c d text hhex => cases h
  | case5 done e text hu he ih =>
    obtain ⟨inside, hinside, rfl, rfl⟩ := ih h
    exact ⟨'\\' :: e :: inside, .escape he hinside, by simp, rfl⟩
  | case6 done e text hu he => cases h
  | case7 done c text hquote hu hslash hc ih =>
    obtain ⟨inside, hinside, rfl, rfl⟩ := ih h
    simp only [Bool.and_eq_true, decide_eq_true_eq] at hc
    exact ⟨c :: inside, .plain ⟨hc.1, hquote, hc.2⟩ hinside, by simp, rfl⟩
  | case8 done c text hquote hu hslash hc => cases h

theorem exists_of_readDigits {text digits rest : List Char}
    (h : readDigits text = some (digits, rest)) : DigitText digits ∧ text = digits ++ rest := by
  rw [readDigits] at h
  split at h
  · cases h
  · next hne =>
    obtain ⟨rfl, rfl⟩ := Prod.mk.inj (Option.some.inj h)
    refine ⟨⟨hne, fun c hc => ?_⟩, List.takeWhile_append_dropWhile.symm⟩
    exact List.mem_takeWhile_imp hc

theorem exists_of_readWhole {text whole rest : List Char}
    (h : readWhole text = some (whole, rest)) :
    (DigitText whole ∧ ∀ more, whole = '0' :: more → more = []) ∧ text = whole ++ rest := by
  rw [readWhole] at h
  split at h
  · cases h
  · next hzero =>
    obtain ⟨hdigits, rfl⟩ := exists_of_readDigits h
    refine ⟨⟨hdigits, ?_⟩, rfl⟩
    rintro more rfl
    cases more with
    | nil => rfl
    | cons c more => exact absurd h (hzero c more rest)

theorem exists_of_readFraction {text fraction rest : List Char}
    (h : readFraction text = some (fraction, rest)) :
    (fraction = [] ∨ ∃ digits, DigitText digits ∧ fraction = '.' :: digits) ∧
      text = fraction ++ rest := by
  rw [readFraction.eq_def] at h
  split at h
  · obtain ⟨⟨digits, more⟩, hread, heq⟩ := Option.map_eq_some_iff.mp h
    obtain ⟨rfl, rfl⟩ := Prod.mk.inj heq
    obtain ⟨hdigits, rfl⟩ := exists_of_readDigits hread
    exact ⟨.inr ⟨digits, hdigits, rfl⟩, rfl⟩
  · obtain ⟨rfl, rfl⟩ := Prod.mk.inj (Option.some.inj h)
    exact ⟨.inl rfl, rfl⟩

theorem readSign_eq {signs text sign rest : List Char} (h : readSign signs text = (sign, rest)) :
    (sign = [] ∨ ∃ c ∈ signs, sign = [c]) ∧ text = sign ++ rest := by
  rw [readSign.eq_def] at h
  split at h
  · split at h
    · next hc =>
      obtain ⟨rfl, rfl⟩ := Prod.mk.inj h
      exact ⟨.inr ⟨_, hc, rfl⟩, rfl⟩
    · obtain ⟨rfl, rfl⟩ := Prod.mk.inj h
      exact ⟨.inl rfl, rfl⟩
  · obtain ⟨rfl, rfl⟩ := Prod.mk.inj h
    exact ⟨.inl rfl, rfl⟩

theorem exists_of_readExponent {text exponent rest : List Char}
    (h : readExponent text = some (exponent, rest)) :
    (exponent = [] ∨ ∃ mark sign digits, (mark = 'e' ∨ mark = 'E') ∧
      (sign = [] ∨ sign = ['+'] ∨ sign = ['-']) ∧ DigitText digits ∧
      exponent = mark :: (sign ++ digits)) ∧ text = exponent ++ rest := by
  rw [readExponent.eq_def] at h
  split at h
  · next mark text =>
    split at h
    · next hmark =>
      cases hsign : readSign ['+', '-'] text with
      | mk sign more =>
        simp only [hsign] at h
        obtain ⟨⟨digits, rest'⟩, hread, heq⟩ := Option.map_eq_some_iff.mp h
        obtain ⟨rfl, rfl⟩ := Prod.mk.inj heq
        obtain ⟨hdigits, rfl⟩ := exists_of_readDigits hread
        obtain ⟨hsigns, rfl⟩ := readSign_eq hsign
        refine ⟨.inr ⟨mark, sign, digits, ?_, ?_, hdigits, rfl⟩, by simp⟩
        · simpa using hmark
        · simpa using hsigns
    · obtain ⟨rfl, rfl⟩ := Prod.mk.inj (Option.some.inj h)
      exact ⟨.inl rfl, rfl⟩
  · obtain ⟨rfl, rfl⟩ := Prod.mk.inj (Option.some.inj h)
    exact ⟨.inl rfl, rfl⟩

/-- What is read of a number is a number of the grammar. -/
theorem exists_of_readNumber {text token rest : List Char}
    (h : readNumber text = some (token, rest)) : NumberText token ∧ text = token ++ rest := by
  cases hsign : readSign ['-'] text with
  | mk sign afterSign =>
    simp only [readNumber, hsign] at h
    split at h
    · cases h
    next whole afterWhole hwhole =>
    split at h
    · cases h
    next fraction afterFraction hfraction =>
    split at h
    · cases h
    next exponent afterExponent hexponent =>
    obtain ⟨rfl, rfl⟩ := Prod.mk.inj (Option.some.inj h)
    obtain ⟨hsigns, rfl⟩ := readSign_eq hsign
    obtain ⟨hwholes, rfl⟩ := exists_of_readWhole hwhole
    obtain ⟨hfractions, rfl⟩ := exists_of_readFraction hfraction
    obtain ⟨hexponents, rfl⟩ := exists_of_readExponent hexponent
    refine ⟨⟨sign, whole, fraction, exponent, by simp, by simpa using hsigns, hwholes, hfractions,
      hexponents⟩, by simp⟩

/-- A word that stands first is the first token. -/
theorem Spaced.of_word {text rest : List Char} {tokens : List (List Char)} (word : List Char)
    (htext : Literal.skipSpace text = word ++ rest) {l : Literal} (hl : l.tokens = [word])
    (h : Spaced tokens rest) : Spaced (l.tokens ++ tokens) text := by
  rw [hl]
  exact .of_skipSpace word htext h

theorem spaced_of_readKey {text key rest : List Char} (h : readKey text = some (key, rest)) :
    StringText key ∧ ∀ more, Spaced more rest → Spaced (('"' :: (key ++ ['"'])) :: more) text := by
  rw [readKey] at h
  split at h
  · next hskip =>
    obtain ⟨inside, hinside, hkey, rfl⟩ := exists_of_readString h
    obtain rfl : key = inside := hkey
    exact ⟨hinside, fun more hmore => .of_skipSpace _ (by simpa using hskip) hmore⟩
  · cases h

/-- What is read as a value is a literal of the grammar, whose tokens stand first. -/
def ValueSpaced (fuel : Nat) : Prop :=
  ∀ text l rest, readValue fuel text = some (l, rest) →
    l.Grammatical ∧ ∀ more, Spaced more rest → Spaced (l.tokens ++ more) text

/-- What is read as items is literals of the grammar, whose tokens stand first. -/
def ItemsSpaced (fuel : Nat) : Prop :=
  ∀ text items rest, readItems fuel text = some (items, rest) →
    items ≠ [] ∧ GrammaticalItems items ∧
      ∀ more, Spaced more rest → Spaced (itemsTokens items ++ more) text

/-- What is read as members is keys and literals of the grammar, whose tokens stand first. -/
def MembersSpaced (fuel : Nat) : Prop :=
  ∀ text members rest, readMembers fuel text = some (members, rest) →
    members ≠ [] ∧ GrammaticalMembers members ∧
      ∀ more, Spaced more rest → Spaced (membersTokens members ++ more) text

theorem valueSpaced_succ {fuel : Nat} (hitems : ItemsSpaced fuel) (hmembers : MembersSpaced fuel) :
    ValueSpaced (fuel + 1) := by
  intro text l rest h
  rw [readValue] at h
  split at h
  · next hskip =>
    obtain ⟨rfl, rfl⟩ := Prod.mk.inj (Option.some.inj h)
    exact ⟨trivial, fun more hmore => .of_word _ hskip rfl hmore⟩
  · next hskip =>
    obtain ⟨rfl, rfl⟩ := Prod.mk.inj (Option.some.inj h)
    exact ⟨trivial, fun more hmore => .of_word _ hskip rfl hmore⟩
  · next hskip =>
    obtain ⟨rfl, rfl⟩ := Prod.mk.inj (Option.some.inj h)
    exact ⟨trivial, fun more hmore => .of_word _ hskip rfl hmore⟩
  · next hskip =>
    obtain ⟨⟨raw, after⟩, hread, heq⟩ := Option.map_eq_some_iff.mp h
    obtain ⟨rfl, rfl⟩ := Prod.mk.inj heq
    obtain ⟨inside, hinside, hraw, rfl⟩ := exists_of_readString hread
    obtain rfl : raw = inside := hraw
    refine ⟨hinside, fun more hmore => .of_word ('"' :: (raw ++ ['"'])) ?_ rfl hmore⟩
    simpa using hskip
  · next hskip =>
    split at h
    · next hclose =>
      obtain ⟨rfl, rfl⟩ := Prod.mk.inj (Option.some.inj h)
      refine ⟨trivial, fun more hmore => ?_⟩
      exact .of_skipSpace ['['] hskip (.of_skipSpace [']'] hclose hmore)
    · obtain ⟨⟨items, after⟩, hread, heq⟩ := Option.map_eq_some_iff.mp h
      obtain ⟨rfl, rfl⟩ := Prod.mk.inj heq
      obtain ⟨-, hgrammar, hspaced⟩ := hitems _ _ _ hread
      exact ⟨hgrammar, fun more hmore => .of_skipSpace ['['] hskip (hspaced more hmore)⟩
  · next hskip =>
    split at h
    · next hclose =>
      obtain ⟨rfl, rfl⟩ := Prod.mk.inj (Option.some.inj h)
      refine ⟨trivial, fun more hmore => ?_⟩
      exact .of_skipSpace ['\x7b'] hskip (.of_skipSpace ['\x7d'] hclose hmore)
    · obtain ⟨⟨members, after⟩, hread, heq⟩ := Option.map_eq_some_iff.mp h
      obtain ⟨rfl, rfl⟩ := Prod.mk.inj heq
      obtain ⟨-, hgrammar, hspaced⟩ := hmembers _ _ _ hread
      exact ⟨hgrammar, fun more hmore => .of_skipSpace ['\x7b'] hskip (hspaced more hmore)⟩
  · obtain ⟨⟨token, after⟩, hread, heq⟩ := Option.map_eq_some_iff.mp h
    obtain ⟨rfl, rfl⟩ := Prod.mk.inj heq
    obtain ⟨htoken, hskip⟩ := exists_of_readNumber hread
    exact ⟨htoken, fun more hmore => .of_word token hskip rfl hmore⟩

theorem itemsSpaced_succ {fuel : Nat} (hvalue : ValueSpaced fuel) (hitems : ItemsSpaced fuel) :
    ItemsSpaced (fuel + 1) := by
  intro text items rest h
  rw [readItems] at h
  split at h
  · cases h
  next item after hread =>
  obtain ⟨hitem, hspaced⟩ := hvalue _ _ _ hread
  split at h
  · next hskip =>
    obtain ⟨rfl, rfl⟩ := Prod.mk.inj (Option.some.inj h)
    refine ⟨List.cons_ne_nil _ _, ⟨hitem, trivial⟩, fun more hmore => ?_⟩
    rw [itemsTokens, List.append_assoc]
    exact hspaced _ (.of_skipSpace [']'] hskip hmore)
  · next hskip =>
    obtain ⟨⟨others, last⟩, hreadRest, heq⟩ := Option.map_eq_some_iff.mp h
    obtain ⟨rfl, rfl⟩ := Prod.mk.inj heq
    obtain ⟨hne, hothers, hspacedRest⟩ := hitems _ _ _ hreadRest
    refine ⟨List.cons_ne_nil _ _, ⟨hitem, hothers⟩, fun more hmore => ?_⟩
    rw [itemsTokens_cons item hne, List.append_assoc]
    exact hspaced _ (.of_skipSpace [','] hskip (hspacedRest more hmore))
  · cases h

theorem membersSpaced_succ {fuel : Nat} (hvalue : ValueSpaced fuel)
    (hmembers : MembersSpaced fuel) : MembersSpaced (fuel + 1) := by
  intro text members rest h
  rw [readMembers] at h
  split at h
  · cases h
  next key afterKey hreadKey =>
  obtain ⟨hkey, hspacedKey⟩ := spaced_of_readKey hreadKey
  split at h
  · next hcolon =>
    split at h
    · cases h
    next value after hread =>
    obtain ⟨hliteral, hspaced⟩ := hvalue _ _ _ hread
    split at h
    · next hskip =>
      obtain ⟨rfl, rfl⟩ := Prod.mk.inj (Option.some.inj h)
      refine ⟨List.cons_ne_nil _ _, ⟨hkey, hliteral, trivial⟩, fun more hmore => ?_⟩
      have hlast := hspaced _ (.of_skipSpace ['\x7d'] hskip hmore)
      simpa [membersTokens] using hspacedKey _ (.of_skipSpace [':'] hcolon hlast)
    · next hskip =>
      obtain ⟨⟨others, last⟩, hreadRest, heq⟩ := Option.map_eq_some_iff.mp h
      obtain ⟨rfl, rfl⟩ := Prod.mk.inj heq
      obtain ⟨hne, hothers, hspacedRest⟩ := hmembers _ _ _ hreadRest
      refine ⟨List.cons_ne_nil _ _, ⟨hkey, hliteral, hothers⟩, fun more hmore => ?_⟩
      have hlast := hspaced _ (.of_skipSpace [','] hskip (hspacedRest more hmore))
      rw [membersTokens_cons key value hne]
      simpa using hspacedKey _ (.of_skipSpace [':'] hcolon hlast)
    · cases h
  · cases h

/-- The readers call one another with less fuel. -/
theorem reads_spaced (fuel : Nat) : ValueSpaced fuel ∧ ItemsSpaced fuel ∧ MembersSpaced fuel := by
  induction fuel with
  | zero =>
    refine ⟨?_, ?_, ?_⟩
    · intro text l rest h
      rw [readValue] at h
      cases h
    · intro text items rest h
      rw [readItems] at h
      cases h
    · intro text members rest h
      rw [readMembers] at h
      cases h
  | succ fuel ih =>
    obtain ⟨hvalue, hitems, hmembers⟩ := ih
    exact ⟨valueSpaced_succ hitems hmembers, itemsSpaced_succ hvalue hitems,
      membersSpaced_succ hvalue hmembers⟩

/-! ## Whole texts -/

mutual

theorem Grammatical.tokens_ne_nil : ∀ {l : Literal}, l.Grammatical → ∀ t ∈ l.tokens, t ≠ []
  | .null, _, t, ht => by simp_all [tokens]
  | .bool true, _, t, ht => by simp_all [tokens]
  | .bool false, _, t, ht => by simp_all [tokens]
  | .number token, h, t, ht => by
    rw [Grammatical] at h
    obtain ⟨c, rest, rfl, -⟩ := h.exists_cons
    simp_all [tokens]
  | .string raw, _, t, ht => by simp_all [tokens]
  | .array items, h, t, ht => by
    rw [tokens, List.mem_cons] at ht
    obtain rfl | ht := ht
    · exact List.cons_ne_nil _ _
    · exact itemsTokens_ne_nil items h t ht
  | .object members, h, t, ht => by
    rw [tokens, List.mem_cons] at ht
    obtain rfl | ht := ht
    · exact List.cons_ne_nil _ _
    · exact membersTokens_ne_nil members h t ht

theorem itemsTokens_ne_nil : ∀ (items : List Literal), GrammaticalItems items →
    ∀ t ∈ itemsTokens items, t ≠ []
  | [], _, t, ht => by simp_all [itemsTokens]
  | [item], h, t, ht => by
    rw [itemsTokens, List.mem_append] at ht
    obtain ht | ht := ht
    · exact Grammatical.tokens_ne_nil h.1 t ht
    · simp_all
  | item :: next :: rest, h, t, ht => by
    rw [itemsTokens_cons item (List.cons_ne_nil next rest), List.mem_append, List.mem_cons] at ht
    obtain ht | rfl | ht := ht
    · exact Grammatical.tokens_ne_nil h.1 t ht
    · exact List.cons_ne_nil _ _
    · exact itemsTokens_ne_nil (next :: rest) h.2 t ht

theorem membersTokens_ne_nil : ∀ (members : List (List Char × Literal)),
    GrammaticalMembers members → ∀ t ∈ membersTokens members, t ≠ []
  | [], _, t, ht => by simp_all [membersTokens]
  | [(key, value)], h, t, ht => by
    simp only [membersTokens, List.mem_cons, List.mem_append] at ht
    obtain rfl | rfl | ht | rfl | ht := ht
    · exact List.cons_ne_nil _ _
    · exact List.cons_ne_nil _ _
    · exact Grammatical.tokens_ne_nil h.2.1 t ht
    · exact List.cons_ne_nil _ _
    · cases ht
  | (key, value) :: next :: rest, h, t, ht => by
    rw [membersTokens_cons key value (List.cons_ne_nil next rest)] at ht
    simp only [List.mem_cons, List.mem_append] at ht
    obtain rfl | rfl | ht | rfl | ht := ht
    · exact List.cons_ne_nil _ _
    · exact List.cons_ne_nil _ _
    · exact Grammatical.tokens_ne_nil h.2.1 t ht
    · exact List.cons_ne_nil _ _
    · exact membersTokens_ne_nil (next :: rest) h.2.2 t ht

end

/-- The reader gives a literal for a text exactly when the text is that of the literal. -/
theorem parse_eq_some_iff {text : List Char} {l : Literal} :
    parse text = some l ↔ IsText l text := by
  constructor
  · intro h
    rw [parse] at h
    split at h
    · next l' rest hread =>
      split at h
      · next hend =>
        obtain rfl := Option.some.inj h
        obtain ⟨hl, hspaced⟩ := (reads_spaced _).1 _ _ _ hread
        have htext := hspaced [] (spaced_nil_iff.mpr (List.isEmpty_iff.mp hend))
        exact ⟨hl, by rwa [List.append_nil] at htext⟩
      · cases h
    · cases h
  · rintro ⟨hl, htext⟩
    have hlength := htext.length_le hl.tokens_ne_nil
    have hcloses : Closes [] := fun _ hnone => absurd hnone (by simp)
    rw [← List.append_nil l.tokens] at htext
    obtain ⟨rest, hread, hrest⟩ := readValue_of_spaced l hl (2 * text.length + 1) (by omega) []
      text hcloses htext
    rw [parse, hread]
    simp only [spaced_nil_iff.mp hrest, List.isEmpty_nil, if_true]

mutual

theorem flatten_tokens : ∀ (l : Literal), l.tokens.flatten = l.render
  | .null => rfl
  | .bool true => rfl
  | .bool false => rfl
  | .number token => by simp [tokens, render]
  | .string raw => by simp [tokens, render]
  | .array items => by simp [tokens, render, flatten_itemsTokens items]
  | .object members => by simp [tokens, render, flatten_membersTokens members]

theorem flatten_itemsTokens : ∀ (items : List Literal),
    (itemsTokens items).flatten = renderItems items ++ [']']
  | [] => rfl
  | [item] => by simp [itemsTokens, renderItems, flatten_tokens item]
  | item :: next :: rest => by
    simp [itemsTokens, renderItems, flatten_tokens item, flatten_itemsTokens (next :: rest)]

theorem flatten_membersTokens : ∀ (members : List (List Char × Literal)),
    (membersTokens members).flatten = renderMembers members ++ ['}']
  | [] => rfl
  | [(key, value)] => by simp [membersTokens, renderMembers, flatten_tokens value]
  | (key, value) :: next :: rest => by
    simp [membersTokens, renderMembers, flatten_tokens value, flatten_membersTokens (next :: rest)]

end

/-- A literal is written as a text of its own. -/
theorem isText_render {l : Literal} (h : l.Grammatical) : IsText l l.render := by
  refine ⟨h, ?_⟩
  rw [← flatten_tokens]
  exact spaced_flatten l.tokens

/-- A literal is read back from its text. -/
theorem parse_render {l : Literal} (h : l.Grammatical) : parse l.render = some l :=
  parse_eq_some_iff.mpr (isText_render h)

end RouteLens.Literal
