import RouteLens.Proofs.Controller.Slice

/-!
# The line counter of a scan

The scan keeps the line of the last declaration and the offset up to which it has counted, and adds
the line feeds from there to the next declaration. Here the loop is written with every step that
could fail: the slice from the offset on, the difference of two offsets, and the sum of two words,
which either wraps or is a fault when it overflows. No step fails, the sum only where the source has
`2 ^ 32` line feeds or more.
-/

namespace RouteLens.Source

open Utf8 (encode)

/-! ## Line feeds among octets -/

theorem lineFeed_mem_encodeChar {c : Char} : 0x0a ∈ String.utf8EncodeChar c ↔ c = '\n' := by
  have hnl : c = '\n' ↔ c.toNat = 0x0a := Char.toNat_inj.symm
  rw [hnl]
  rcases encodeChar_cases c with ⟨b, hc, hb, hlt⟩ | ⟨b, tail, hc, hge, hb, htail⟩
  · rw [hc, List.mem_singleton, ← UInt8.toNat_inj, hb]
    exact eq_comm
  · refine iff_of_false (fun hmem => ?_) (by omega)
    rw [hc] at hmem
    rcases List.mem_cons.mp hmem with heq | hmem
    · rw [← heq] at hb
      exact absurd hb (by decide)
    · exact absurd (htail _ hmem).1 (by decide)

theorem count_take_encodeChar (c : Char) {n : Nat} (hn : n ≠ 0) :
    ((String.utf8EncodeChar c).take n).count 0x0a = if c = '\n' then 1 else 0 := by
  by_cases hc : c = '\n'
  · subst hc
    obtain ⟨m, rfl⟩ := Nat.exists_eq_succ_of_ne_zero hn
    have henc : String.utf8EncodeChar '\n' = [0x0a] := Utf8.encodeChar_of_ascii (by decide)
    simp [henc]
  · rw [if_neg hc]
    apply List.count_eq_zero_of_not_mem
    intro hmem
    exact hc (lineFeed_mem_encodeChar.mp (List.mem_of_mem_take hmem))

/-- Counting through characters counts the octets of line feeds. -/
theorem lineFeeds_eq_count (text : List Char) (n : Nat) :
    lineFeeds n text = ((encode text).take n).count 0x0a := by
  induction text generalizing n with
  | nil => simp [lineFeeds]
  | cons c rest ih =>
    by_cases hn : n = 0
    · simp [hn]
    · rw [lineFeeds, if_neg hn, ih, Utf8.encode_cons, List.take_append, List.count_append,
        count_take_encodeChar c hn, String.length_utf8EncodeChar]

theorem count_encode (text : List Char) : (encode text).count 0x0a = text.count '\n' := by
  have h := lineFeeds_length_encode text []
  rwa [List.append_nil, lineFeeds_eq_count, List.take_length] at h

/-! ## Steps of the counter -/

/-- What becomes of a sum of words that does not fit a word. -/
inductive Overflow
  | wraps
  | fails
  deriving DecidableEq, Repr

/-- The sum of two words. -/
def Overflow.add (mode : Overflow) (a b : UInt32) : Except Fault UInt32 :=
  match mode with
  | .wraps => .ok (a + b)
  | .fails => if a.toNat + b.toNat < UInt32.size then .ok (a + b) else .error .overflow

/-- The line of an offset, by octets. -/
def lineUpTo (text : List Char) (offset : Nat) : Except Fault UInt32 := do
  let octets ← octetsUpTo (encode text) (min offset (encode text).length)
  pure (UInt32.ofNat (octets.count 0x0a))

theorem lineUpTo_eq (text : List Char) (offset : Nat) :
    lineUpTo text offset = .ok (lineAt text offset) := by
  have hin : ¬ (encode text).length < min offset (encode text).length := by omega
  have hle : ((encode text).take offset).length ≤ (encode text).length := by
    rw [List.length_take]
    exact Nat.min_le_right _ _
  have htake : (encode text).take (min offset (encode text).length) =
      (encode text).take offset := by
    rw [Nat.min_comm, ← List.take_take, List.take_of_length_le hle]
  rw [lineUpTo, octetsUpTo, if_neg hin, ok_bind, pure_eq_ok, htake, ← lineFeeds_eq_count, lineAt]

theorem Overflow.add_eq_ok {mode : Overflow} {a b : UInt32}
    (h : mode = .fails → a.toNat + b.toNat < UInt32.size) : mode.add a b = .ok (a + b) := by
  cases mode with
  | wraps => rfl
  | fails => rw [Overflow.add, if_pos (h rfl)]

end RouteLens.Source

namespace RouteLens.Controller

open Source
open Utf8 (encode)

/-- The actions of methods in order of offset, every step with its fault. Up to offset `counted`
there are `line` lines. -/
def countActions (mode : Overflow) (className : String) (text : List Char) (counted : Nat)
    (line : UInt32) : List (Nat × String) → Except Fault (List Action)
  | [] => pure []
  | (offset, method) :: methods => do
    let rest ← slice text counted (encode text).length
    let gap ← difference offset counted
    let added ← lineUpTo rest gap
    let line ← mode.add line added
    let later ← countActions mode className text offset line methods
    pure (.ofMethod className method line :: later)

/-- As long as the counter and the line feeds ahead fit a word together, no step of the loop fails.
A step takes line feeds from ahead to the counter, so this is kept. -/
theorem countActions_eq (mode : Overflow) (className : String) (pre post : List Char)
    (line : UInt32) (methods : List (Nat × String))
    (hordered : methods.Pairwise (fun m n => m.1 < n.1))
    (hlow : ∀ m ∈ methods, (encode pre).length ≤ m.1)
    (hboundary : ∀ m ∈ methods, ∃ front, front <+: pre ++ post ∧ (encode front).length = m.1)
    (hfits : mode = .fails → line.toNat + post.count '\n' < UInt32.size) :
    countActions mode className (pre ++ post) (encode pre).length line methods =
      .ok (actionsFrom className (encode pre).length line post methods) := by
  induction methods generalizing pre post line with
  | nil => rfl
  | cons m methods ih =>
    obtain ⟨offset, name⟩ := m
    obtain ⟨front, hfront, rfl⟩ := hboundary (offset, name) List.mem_cons_self
    have hle := hlow _ List.mem_cons_self
    obtain ⟨mid, rfl⟩ := prefix_of_length_encode_le (List.prefix_append pre post) hfront hle
    obtain ⟨post, rfl⟩ := (List.prefix_append_right_inj pre).mp hfront
    obtain ⟨hlater, hordered⟩ := List.pairwise_cons.mp hordered
    have hgap : (encode (pre ++ mid)).length - (encode pre).length = (encode mid).length := by simp
    have hdifference : difference (encode (pre ++ mid)).length (encode pre).length =
        .ok (encode mid).length := by
      rw [difference, if_neg (Nat.not_lt.mpr hle), hgap]
    have hadded : lineAt (mid ++ post) (encode mid).length = UInt32.ofNat (mid.count '\n') := by
      rw [lineAt, lineFeeds_length_encode]
    have hcount : (mid ++ post).count '\n' = mid.count '\n' + post.count '\n' := by
      rw [List.count_append]
    have hsum : mode = .fails →
        line.toNat + (UInt32.ofNat (mid.count '\n')).toNat = line.toNat + mid.count '\n' := by
      intro hmode
      have := hfits hmode
      rw [UInt32.toNat_ofNat', Nat.mod_eq_of_lt (show _ < UInt32.size by omega)]
    have hadd : mode.add line (UInt32.ofNat (mid.count '\n')) =
        .ok (line + UInt32.ofNat (mid.count '\n')) := by
      apply Overflow.add_eq_ok
      intro hmode
      have := hfits hmode
      rw [hsum hmode]
      omega
    have hfits' : mode = .fails →
        (line + UInt32.ofNat (mid.count '\n')).toNat + post.count '\n' < UInt32.size := by
      intro hmode
      have := hfits hmode
      rw [UInt32.toNat_add, hsum hmode, Nat.mod_eq_of_lt (show _ < UInt32.size by omega)]
      omega
    have hrest := ih (pre ++ mid) post (line + UInt32.ofNat (mid.count '\n')) hordered
      (fun m hm => Nat.le_of_lt (hlater m hm))
      (fun m hm => by simpa using hboundary m (List.mem_cons_of_mem _ hm)) hfits'
    rw [List.append_assoc] at hrest
    simp only [countActions, slice_append_end, ok_bind, hdifference, lineUpTo_eq, hadded, hadd,
      hrest, pure_eq_ok, actionsFrom, hgap, dropOctets_append]

/-- The loop over the methods of a source. -/
theorem countActions_publicMethods (mode : Overflow) {source name : String}
    (hname : className? source.toList = some name)
    (hfits : mode = .fails → source.toList.count '\n' < UInt32.size) :
    countActions mode (qualifiedName (namespacePath? source.toList) name) source.toList 0 0
      (publicMethods source.toList) = .ok (actions source) := by
  have h := countActions_eq mode (qualifiedName (namespacePath? source.toList) name) []
    source.toList 0 (publicMethods source.toList) (publicMethods_increasing _)
    (fun _ _ => Nat.zero_le _) (fun _ hm => exists_prefix_of_mem_publicMethods hm)
    (fun hmode => by simpa using hfits hmode)
  simpa [actions, hname] using h

/-- At index `i` the line of the action is that of the declaration. -/
theorem line_eq_of_getElem? {source : String} {i : Nat} {a : Action}
    (ha : (actions source)[i]? = some a) :
    ∃ m, (publicMethods source.toList)[i]? = some m ∧ a.line = lineAt source.toList m.1 := by
  cases hname : className? source.toList with
  | none =>
    rw [actions_of_className?_none hname] at ha
    simp at ha
  | some name =>
    have hline := congrArg (·[i]?) (map_line_actions hname)
    simp only [List.getElem?_map, ha, Option.map_some] at hline
    obtain ⟨m, hm, heq⟩ := Option.map_eq_some_iff.mp hline.symm
    exact ⟨m, hm, heq.symm⟩

/-- The line feeds before a declaration and those from there to the next one. -/
theorem count_take_of_le (octets : Bytes) {m n : Nat} (h : m ≤ n) :
    (octets.take n).count 0x0a =
      (octets.take m).count 0x0a + ((octets.drop m).take (n - m)).count 0x0a := by
  obtain ⟨d, rfl⟩ := Nat.exists_eq_add_of_le h
  rw [List.take_add, List.count_append, Nat.add_sub_cancel_left]

/-- The counter of the scan agrees with counting from the start. The line of an action is the number
of line feeds before its declaration, as a word of 32 bits, and no difference of offsets falls below
zero. With fewer than `2 ^ 32` line feeds no sum overflows, the line is that number itself, lines
never go down, and two actions share a line exactly if no line feed lies between their
declarations. -/
theorem lines_exact (source : String) :
    (∀ (i : Nat) (a : Action), (actions source)[i]? = some a →
      ∃ m, (publicMethods source.toList)[i]? = some m ∧ a.line = lineAt source.toList m.1 ∧
        a.line.toNat = ((Utf8.encodeString source).take m.1).count 0x0a % UInt32.size) ∧
    (∀ name, className? source.toList = some name →
      countActions .wraps (qualifiedName (namespacePath? source.toList) name) source.toList 0 0
        (publicMethods source.toList) = .ok (actions source)) ∧
    ((Utf8.encodeString source).count 0x0a < UInt32.size →
      (∀ name, className? source.toList = some name →
        countActions .fails (qualifiedName (namespacePath? source.toList) name) source.toList 0 0
          (publicMethods source.toList) = .ok (actions source)) ∧
      (∀ (i : Nat) (a : Action) (m : Nat × String), (actions source)[i]? = some a →
        (publicMethods source.toList)[i]? = some m →
        a.line.toNat = ((Utf8.encodeString source).take m.1).count 0x0a) ∧
      (actions source).Pairwise (fun a b => a.line ≤ b.line) ∧
      ∀ (i j : Nat) (a b : Action) (m n : Nat × String), i ≤ j →
        (actions source)[i]? = some a → (actions source)[j]? = some b →
        (publicMethods source.toList)[i]? = some m → (publicMethods source.toList)[j]? = some n →
        (a.line = b.line ↔ 0x0a ∉ ((Utf8.encodeString source).drop m.1).take (n.1 - m.1))) := by
  have hline {i : Nat} {a : Action} {m : Nat × String} (ha : (actions source)[i]? = some a)
      (hm : (publicMethods source.toList)[i]? = some m) :
      a.line.toNat = ((Utf8.encodeString source).take m.1).count 0x0a % UInt32.size := by
    obtain ⟨m', hm', heq⟩ := line_eq_of_getElem? ha
    obtain rfl := Option.some.inj (hm'.symm.trans hm)
    rw [heq, lineAt, lineFeeds_eq_count, UInt32.toNat_ofNat']
    rfl
  refine ⟨fun i a ha => ?_, fun name hname => ?_, fun hfew => ?_⟩
  · obtain ⟨m, hm, heq⟩ := line_eq_of_getElem? ha
    exact ⟨m, hm, heq, hline ha hm⟩
  · exact countActions_publicMethods .wraps hname (by rintro ⟨⟩)
  have hcount : source.toList.count '\n' < UInt32.size := by
    rwa [← count_encode]
  have hexact {i : Nat} {a : Action} {m : Nat × String} (ha : (actions source)[i]? = some a)
      (hm : (publicMethods source.toList)[i]? = some m) :
      a.line.toNat = ((Utf8.encodeString source).take m.1).count 0x0a := by
    have hle := (List.take_sublist m.1 (Utf8.encodeString source)).count_le 0x0a
    rw [hline ha hm, Nat.mod_eq_of_lt (by omega)]
  refine ⟨fun name hname => countActions_publicMethods .fails hname fun _ => hcount,
    fun i a m ha hm => hexact ha hm, ?_, ?_⟩
  · exact List.pairwise_map.mp ((linesUpTo_actions source).pairwise hcount)
  · intro i j a b m n hij ha hb hm hn
    have hle : m.1 ≤ n.1 := by
      rcases Nat.lt_or_eq_of_le hij with hlt | rfl
      · obtain ⟨hi, hmi⟩ := List.getElem?_eq_some_iff.mp hm
        obtain ⟨hj, hnj⟩ := List.getElem?_eq_some_iff.mp hn
        have := List.pairwise_iff_getElem.mp (publicMethods_increasing source.toList) i j hi hj hlt
        rw [hmi, hnj] at this
        exact Nat.le_of_lt this
      · exact Nat.le_of_eq (congrArg Prod.fst (Option.some.inj (hm.symm.trans hn)))
    have hsplit := count_take_of_le (Utf8.encodeString source) hle
    rw [← UInt32.toNat_inj, hexact ha hm, hexact hb hn, hsplit, ← List.count_eq_zero]
    omega

end RouteLens.Controller
