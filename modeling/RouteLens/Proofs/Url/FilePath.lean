import RouteLens.Url.FilePath
import RouteLens.Files.Tree
import RouteLens.Proofs.Text.Boundary

/-!
# Names of PHP sources and their files

Whether a document is a PHP source is told by its URL as it is written, and the file is opened under
the path with the escapes read. Both end in `.php` together: a dot is no hexadecimal digit, so no
escape reaches over the one in front of `php`, and nothing behind it is an escape
(`filePath?_endsInPhp`).
-/

namespace RouteLens

/-! ## Reading escapes -/

namespace Url

theorem percentDecode_escape {a b : Char} {x y : Nat} (ha : Text.hexValue? a = some x)
    (hb : Text.hexValue? b = some y) (rest : List Char) :
    percentDecode ('%' :: a :: b :: rest) = UInt8.ofNat (x * 16 + y) :: percentDecode rest := by
  simp only [percentDecode, ha, hb]

theorem percentDecode_cons {c : Char} (hc : c ≠ '%') (rest : List Char) :
    percentDecode (c :: rest) = String.utf8EncodeChar c ++ percentDecode rest := by
  rw [percentDecode]
  rintro a b rest' rfl
  exact absurd rfl hc

/-- A percent sign stands for itself if no two digits follow. -/
theorem percentDecode_percent {rest : List Char}
    (h : ∀ a b rest', rest = a :: b :: rest' →
      Text.hexValue? a = none ∨ Text.hexValue? b = none) :
    percentDecode ('%' :: rest) = 0x25 :: percentDecode rest := by
  have hpercent : String.utf8EncodeChar '%' = [0x25] := Utf8.encodeChar_of_ascii (by decide)
  match rest with
  | [] => simp [percentDecode, hpercent]
  | [a] => simp [percentDecode, hpercent]
  | a :: b :: rest =>
    rw [percentDecode]
    rcases h a b rest rfl with ha | hb
    · rw [ha]
    · rw [hb]
      split
      · next heq => cases heq
      · rfl

theorem percentDecode_of_not_mem {text : List Char} (h : '%' ∉ text) :
    percentDecode text = Utf8.encode text := by
  induction text with
  | nil => rfl
  | cons c text ih =>
    obtain ⟨hc, htext⟩ := not_or.mp (mt List.mem_cons.mpr h)
    rw [percentDecode_cons (Ne.symm hc), ih htext, Utf8.encode_cons]

/-- No escape reaches over a character that is no hexadecimal digit. -/
theorem percentDecode_append {c : Char} (hc : Text.hexValue? c = none) (front back : List Char) :
    percentDecode (front ++ c :: back) = percentDecode front ++ percentDecode (c :: back) := by
  induction front using percentDecode.induct with
  | case1 a b rest x y hb ha ih =>
    simp only [List.cons_append, percentDecode_escape ha hb, ih]
  | case2 a b rest hbroken ih =>
    have hdigits : Text.hexValue? a = none ∨ Text.hexValue? b = none := by
      cases ha : Text.hexValue? a with
      | none => exact .inl rfl
      | some x => exact .inr (Option.eq_none_iff_forall_ne_some.mpr fun y hb => hbroken x y ha hb)
    have hplain (rest : List Char) : percentDecode ('%' :: a :: b :: rest) =
        0x25 :: percentDecode (a :: b :: rest) := by
      apply percentDecode_percent
      rintro _ _ _ ⟨⟩
      exact hdigits
    simp only [List.cons_append] at ih ⊢
    rw [hplain, hplain, ih, List.cons_append]
  | case3 d rest hshort ih =>
    by_cases hd : d = '%'
    · subst hd
      have hfront : percentDecode ('%' :: rest) = 0x25 :: percentDecode rest :=
        percentDecode_percent fun a b rest' heq => (hshort a b rest' rfl heq).elim
      have hwhole : percentDecode ('%' :: (rest ++ c :: back)) =
          0x25 :: percentDecode (rest ++ c :: back) := by
        apply percentDecode_percent
        intro a b rest' heq
        -- the first or the second character behind the sign is the one that is no digit
        match rest with
        | [] => exact .inl ((List.cons.inj heq).1 ▸ hc)
        | [_] => exact .inr ((List.cons.inj (List.cons.inj heq).2).1 ▸ hc)
        | e :: f :: rest => exact (hshort e f rest rfl rfl).elim
      rw [List.cons_append, hwhole, hfront, ih, List.cons_append]
    · rw [List.cons_append, percentDecode_cons hd, percentDecode_cons hd, ih, List.append_assoc]
  | case4 => rfl

/-! ## Paths -/

theorem toList_pathText {url : Url} {names : List String} (h : url.path = .names names) :
    url.pathText.toList = names.flatMap fun name => '/' :: name.toList := by
  rw [pathText, h, String.toList_join, List.flatMap_map]
  congr 1
  funext name
  exact String.toList_append

theorem namesPath_append (names others : List String) :
    namesPath (names ++ others) = namesPath names ++ namesPath others := by
  simp [namesPath]

theorem getLast?_of_endsInDrive {path : Path} (h : endsInDrive path = true) :
    path.getLast? = some 0x3a ∨ path.getLast? = some 0x7c := by
  rw [endsInDrive] at h
  split at h
  · next mark letter _ _ hreverse =>
    have hlast : path.getLast? = some mark := by
      rw [← List.head?_reverse, hreverse]
      rfl
    rw [hlast]
    simpa using (Bool.and_eq_true_iff.mp h).2
  · cases h

end Url

theorem FileTree.lastName_append {back : Path} (h : Path.slash ∉ back) (front : Path) :
    lastName (front ++ back) = lastName front ++ back := by
  have hback : ∀ b ∈ back.reverse, decide (b ≠ Path.slash) = true := by
    intro b hb
    have hne : b ≠ Path.slash := fun heq => h (heq ▸ List.mem_reverse.mp hb)
    simpa using hne
  rw [lastName, lastName, List.reverse_append, List.takeWhile_append_of_pos hback,
    List.reverse_append, List.reverse_reverse]

/-! ## Endings -/

/-- A path ends in `.php`, in letters of either case. -/
def Path.EndsInPhp (path : Path) : Prop :=
  ∃ stem ending, path = stem ++ Utf8.encode ending ∧
    ending.map Char.toLower = ['.', 'p', 'h', 'p']

namespace Url

/-- The ways to write `.php`. -/
def phpEndings : List (List Char) :=
  [".php", ".phP", ".pHp", ".pHP", ".Php", ".PhP", ".PHp", ".PHP"].map String.toList

theorem eq_or_upper_of_toLower {c d : Char} (h : c.toLower = d) :
    c = d ∨ 0x41 ≤ c.toNat ∧ c.toNat + 32 = d.toNat := by
  by_cases hupper : c.val ≥ 'A'.val ∧ c.val ≤ 'Z'.val
  · have hlower : c.toLower.val = c.val + ('a'.val - 'A'.val) := congrArg Char.val (dif_pos hupper)
    obtain ⟨hlow, hhigh⟩ := hupper
    rw [ge_iff_le, UInt32.le_iff_toNat_le] at hlow
    rw [UInt32.le_iff_toNat_le] at hhigh
    have hA : 'A'.val.toNat = 0x41 := rfl
    have hZ : 'Z'.val.toNat = 0x5a := rfl
    have hgap : ('a'.val - 'A'.val).toNat = 32 := rfl
    have hsum : c.toLower.val.toNat = c.val.toNat + 32 := by
      rw [hlower, UInt32.toNat_add, hgap, Nat.mod_eq_of_lt (by omega)]
    rw [h] at hsum
    rw [hA] at hlow
    exact .inr ⟨hlow, hsum.symm⟩
  · have hlower : c.toLower = c := dif_neg hupper
    exact .inl (hlower.symm.trans h)

theorem mem_phpEndings {ending : List Char} (h : ending.map Char.toLower = ['.', 'p', 'h', 'p']) :
    ending ∈ phpEndings := by
  have hdot {c : Char} (hc : c.toLower = '.') : c = '.' := by
    rcases eq_or_upper_of_toLower hc with rfl | ⟨hle, hnat⟩
    · rfl
    · have hdot : '.'.toNat = 46 := rfl
      omega
  have hp {c : Char} (hc : c.toLower = 'p') : c = 'p' ∨ c = 'P' := by
    refine (eq_or_upper_of_toLower hc).imp id fun ⟨_, hnat⟩ => ?_
    exact Char.toNat_inj.mp (Nat.add_right_cancel hnat)
  have hh {c : Char} (hc : c.toLower = 'h') : c = 'h' ∨ c = 'H' := by
    refine (eq_or_upper_of_toLower hc).imp id fun ⟨_, hnat⟩ => ?_
    exact Char.toNat_inj.mp (Nat.add_right_cancel hnat)
  obtain ⟨a, _, rfl, ha, h⟩ := List.map_eq_cons_iff.mp h
  obtain ⟨b, _, rfl, hb, h⟩ := List.map_eq_cons_iff.mp h
  obtain ⟨c, _, rfl, hc, h⟩ := List.map_eq_cons_iff.mp h
  obtain ⟨d, _, rfl, hd, h⟩ := List.map_eq_cons_iff.mp h
  obtain rfl := List.map_eq_nil_iff.mp h
  obtain rfl := hdot ha
  rcases hp hb with rfl | rfl <;> rcases hh hc with rfl | rfl <;>
    rcases hp hd with rfl | rfl <;> decide

theorem phpEndings_plain : ∀ ending ∈ phpEndings,
    ending.head? = some '.' ∧ '/' ∉ ending ∧ '%' ∉ ending := by
  decide

theorem phpEndings_octets : ∀ ending ∈ phpEndings, Path.slash ∉ Utf8.encode ending ∧
    ((Utf8.encode ending).getLast? = some 0x70 ∨ (Utf8.encode ending).getLast? = some 0x50) := by
  decide

theorem not_endsInDrive {ending : List Char} (h : ending ∈ phpEndings) (stem : Path) :
    endsInDrive (stem ++ Utf8.encode ending) = false := by
  refine Bool.eq_false_iff.mpr fun hdrive => ?_
  have hmark := getLast?_of_endsInDrive hdrive
  rw [List.getLast?_append] at hmark
  rcases (phpEndings_octets ending h).2 with hlast | hlast
  · rw [hlast, Option.some_or] at hmark
    exact absurd hmark (by decide)
  · rw [hlast, Option.some_or] at hmark
    exact absurd hmark (by decide)

/-- What a path ends in is the end of its last name, if no slash is in it. -/
theorem exists_of_suffix_names {ending : List Char} (hslash : '/' ∉ ending) {init : List String}
    {last : String}
    (h : ending <:+ (init ++ [last]).flatMap fun name => '/' :: name.toList) :
    ∃ front, last.toList = front ++ ending := by
  rw [List.flatMap_append, List.flatMap_singleton] at h
  rcases List.suffix_or_suffix_of_suffix h (List.suffix_append _ _) with hend | hend
  · rcases List.suffix_cons_iff.mp hend with rfl | ⟨front, hfront⟩
    · exact absurd List.mem_cons_self hslash
    · exact ⟨front, hfront.symm⟩
  · exact absurd (hend.subset List.mem_cons_self) hslash

/-- Reading the escapes of a name keeps a `.php` at its end. -/
theorem percentDecode_append_ending {ending : List Char} (h : ending ∈ phpEndings)
    (front : List Char) :
    percentDecode (front ++ ending) = percentDecode front ++ Utf8.encode ending := by
  obtain ⟨hdot, -, hpercent⟩ := phpEndings_plain ending h
  obtain ⟨back, rfl⟩ := List.head?_eq_some_iff.mp hdot
  rw [percentDecode_append rfl, percentDecode_of_not_mem hpercent]

theorem namesPath_endsInPhp {ending : List Char} (h : ending ∈ phpEndings) {names : List String}
    (hne : names ≠ []) (hend : ending <:+ names.flatMap fun name => '/' :: name.toList) :
    ∃ stem, namesPath names = stem ++ Utf8.encode ending := by
  obtain ⟨init, last, rfl⟩ : ∃ init last, names = init ++ [last] :=
    ⟨_, _, (List.dropLast_concat_getLast hne).symm⟩
  obtain ⟨front, hlast⟩ := exists_of_suffix_names (phpEndings_plain ending h).2.1 hend
  refine ⟨namesPath init ++ Path.slash :: percentDecode front, ?_⟩
  have hname : namesPath [last] = Path.slash :: percentDecode last.toList := by simp [namesPath]
  rw [namesPath_append, hname, hlast, percentDecode_append_ending h, List.append_assoc,
    List.cons_append]

/-- The file of a URL whose path is written with `.php` at its end has the same letters at the end
of its path, whatever escapes are in front of them. -/
theorem filePath?_endsInPhp {url : Url} {path : Path} {ending : List Char}
    (h : ending ∈ phpEndings) (hend : ending <:+ url.pathText.toList)
    (hpath : url.filePath? = some path) : ∃ stem, path = stem ++ Utf8.encode ending := by
  rw [filePath?] at hpath
  split at hpath
  · next name names hnames =>
    split at hpath
    · rw [toList_pathText hnames] at hend
      obtain ⟨stem, hstem⟩ := namesPath_endsInPhp h (List.cons_ne_nil _ _) hend
      refine ⟨stem, ?_⟩
      simpa only [hstem, not_endsInDrive h, Bool.false_eq_true, if_false, Option.some.injEq,
        eq_comm] using hpath
    · cases hpath
  · cases hpath

end Url

end RouteLens
