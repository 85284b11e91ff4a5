import RouteLens.Lens
import RouteLens.Proofs.Json.Record

/-!
# Records that are written and read back

Routes, actions and lens items are read back from the objects that they are written as
(`survives_json`), and from any text of an object with the same members under the keys of their
fields: in whatever order these stand, whatever stands under other keys, and even when nothing
stands where null was written. An object with a key of a field given twice is not read at all.
-/

namespace RouteLens

open Literal

namespace Json

/-- Members as they are written. -/
def literals (members : List (String × Json)) : List (String × Literal) :=
  members.map fun member => (member.1, member.2.toLiteral)

theorem keyed_toMembers (members : List (String × Json)) :
    Record.Keyed (toMembers members) (literals members) := by
  induction members with
  | nil => exact .nil
  | cons member members ih => exact .cons ⟨Escape.spells_encode member.1.toList, rfl⟩ ih

theorem objectText_text {members : List (String × Json)} (h : PrintableMembers members) :
    Record.ObjectText (Json.object members).text (literals members) := by
  refine ⟨toMembers members, ?_, keyed_toMembers members⟩
  rw [text, String.toList_ofList]
  exact isText_render (grammatical_toLiteral (.object members) h)

theorem printable_ofNat {n : Nat} (h : n ≤ Number.maxUnsigned) : (ofNat n).Printable := by
  have hinteger := (Number.integerOfToken?_eq_ofNat_iff (Number.numberText_token n)).mpr
    ⟨by rw [Number.token_ofNat]; exact Number.digitText_toDigits n,
      by rw [Number.token_ofNat, Number.ofDigits_toDigits], h⟩
  refine ⟨Number.numberText_token n, ?_⟩
  rw [Number.integerOfToken?] at hinteger
  simp only [Number.ofToken?]
  rw [hinteger]
  rfl

theorem printable_toNat (n : UInt32) : (ofNat n.toNat).Printable := by
  have hlt := n.toNat_lt
  refine printable_ofNat ?_
  rw [Number.maxUnsigned]
  omega

theorem denotesString_toLiteral (s : String) : (Json.string s).toLiteral.DenotesString s :=
  ⟨_, rfl, Escape.spells_encode s.toList⟩

theorem denotesStringOrNull_toLiteral (s : Option String) :
    (ofOption .string s).toLiteral.DenotesStringOrNull s := by
  cases s with
  | none => rfl
  | some s => exact denotesString_toLiteral s

theorem eq_none_of_toLiteral {s : Option String} (h : (ofOption .string s).toLiteral = .null) :
    s = none := by
  cases s with
  | none => rfl
  | some s => cases h

theorem denotesNat_toLiteral (n : Nat) : (ofNat n).toLiteral.DenotesNat n := by
  refine ⟨_, rfl, ?_, ?_⟩
  · rw [Number.token_ofNat]
    exact Number.digitText_toDigits n
  · rw [Number.token_ofNat, Number.ofDigits_toDigits]

end Json

namespace Record

/-! ## Rearranged objects -/

/-- Members are written ones in any order, among members with keys of no field. Written nulls may
have been left out. -/
def Rearranged (keys : List String) (written members : List (String × Literal)) : Prop :=
  ∃ kept : List (String × Literal), kept.Sublist written ∧
    (∀ member ∈ written, member ∈ kept ∨ member.2 = .null) ∧
    (members.filter (·.1 ∈ keys)).Perm kept

theorem rearranged_self {keys : List String} {written : List (String × Literal)}
    (h : ∀ member ∈ written, member.1 ∈ keys) : Rearranged keys written written := by
  refine ⟨written, List.Sublist.refl written, fun _ hmember => .inl hmember, ?_⟩
  rw [List.filter_eq_self.mpr fun member hmember => decide_eq_true (h member hmember)]

/-- Under the key of a field stands what was written, or nothing where null was written. -/
theorem Rearranged.valuesOf_eq {keys : List String} {written members : List (String × Literal)}
    (h : Rearranged keys written members) {key : String} (hkey : key ∈ keys) {l : Literal}
    (hl : valuesOf written key = [l]) :
    valuesOf members key = [l] ∨ valuesOf members key = [] ∧ l = .null := by
  obtain ⟨kept, hsublist, hnulls, hperm⟩ := h
  have hvalues : (valuesOf members key).Perm (valuesOf kept key) := by
    rw [← valuesOf_filter hkey]
    exact (hperm.filter _).map _
  have hkept : (valuesOf kept key).Sublist [l] := by
    rw [← hl]
    exact (hsublist.filter _).map _
  obtain hnone | hone := List.sublist_singleton.mp hkept
  · rw [hnone] at hvalues
    refine .inr ⟨List.perm_nil.mp hvalues, ?_⟩
    have hwritten : (key, l) ∈ written := by
      rw [← mem_valuesOf, hl]
      exact List.mem_singleton_self l
    refine (hnulls _ hwritten).resolve_left fun hmem => ?_
    rw [← mem_valuesOf, hnone] at hmem
    cases hmem
  · rw [hone] at hvalues
    exact .inl (List.perm_singleton.mp hvalues)

/-- A field is given as it was written. -/
theorem Rearranged.setting {keys : List String} {written members : List (String × Literal)}
    (h : Rearranged keys written members) {key : String} (hkey : key ∈ keys) {l : Literal}
    (hl : valuesOf written key = [l]) {α : Type} {denotes : Literal → α → Prop}
    {standard : Option α} {a : α} (hdenotes : denotes l a)
    (hnull : l = .null → standard = some a) :
    Setting denotes standard (valuesOf members key) a := by
  obtain hone | ⟨hnone, hl⟩ := h.valuesOf_eq hkey hl
  · rw [hone]
    exact .given hdenotes
  · rw [hnone]
    exact .absent (hnull hl)

theorem ObjectText.parse_eq_none {text : String} {members : List (String × Literal)}
    (h : ObjectText text members) {keys : List String} {key : String} (hkey : key ∈ keys)
    (htwice : 2 ≤ (valuesOf members key).length) : Record.parse keys text = none := by
  refine Option.eq_none_iff_forall_ne_some.mpr fun record hparse => ?_
  obtain ⟨members', -, htext, honce⟩ | ⟨items, hitems⟩ := parse_cases hparse
  · obtain rfl := h.unique htext
    have := honce key hkey
    omega
  · exact h.not_array items hitems

/-! ## Types of records -/

/-- A value survives being written as JSON: its text is that of an object, the value is read back
from it and from every text of an object that rearranges the members, and no text with one of the
keys given twice is read. -/
structure Survives {α : Type} (keys : List String) (decode? : String → Option α) (json : Json)
    (a : α) : Prop where
  read_back : decode? json.text = some a
  rearranged : ∃ written, json = .object written ∧ ObjectText json.text (Json.literals written) ∧
    ∀ text members, ObjectText text members → Rearranged keys (Json.literals written) members →
      decode? text = some a
  given_twice : ∀ text members, ObjectText text members → ∀ key ∈ keys,
    2 ≤ (valuesOf members key).length → decode? text = none

theorem survives_of_rearranged {α : Type} {keys : List String} {decode? : String → Option α}
    {written : List (String × Json)} {a : α} (hprintable : Json.PrintableMembers written)
    (hkeys : ∀ member ∈ Json.literals written, member.1 ∈ keys)
    (hnone : ∀ text, parse keys text = none → decode? text = none)
    (hread : ∀ text members, ObjectText text members →
      Rearranged keys (Json.literals written) members → decode? text = some a) :
    Survives keys decode? (.object written) a where
  read_back := hread _ _ (Json.objectText_text hprintable) (rearranged_self hkeys)
  rearranged := ⟨written, rfl, Json.objectText_text hprintable, hread⟩
  given_twice := fun text _ htext _ hkey htwice =>
    hnone text (htext.parse_eq_none hkey htwice)

end Record

/-! ## Routes, actions and lens items -/

open Record

/-- The literals under the keys of an object give the fields of a route. -/
theorem Route.decode?_of_settings {text : String} {members : List (String × Literal)} {r : Route}
    (htext : ObjectText text members)
    (hmethod : Setting DenotesString none (valuesOf members "method") r.method)
    (huri : Setting DenotesString none (valuesOf members "uri") r.uri)
    (hname : Setting DenotesStringOrNull (some none) (valuesOf members "name") r.name)
    (haction : Setting DenotesString none (valuesOf members "action") r.action) :
    decode? text = some r := by
  have honce : Once keys members := by
    simp only [keys, once_cons, once_nil, and_true]
    exact ⟨hmethod.length_le, huri.length_le, hname.length_le, haction.length_le⟩
  have h0 := hmethod.get?_eq_some (.required "method" string?) 0 fun _ _ _ => string?_eq_some_iff
  have h1 := huri.get?_eq_some (.required "uri" string?) 1 fun _ _ _ => string?_eq_some_iff
  have h2 := hname.get?_eq_some { key := "name", read := stringOrNull?, absentKey := some none } 2
    fun _ _ _ => stringOrNull?_eq_some_iff
  have h3 := haction.get?_eq_some (.required "action" string?) 3 fun _ _ _ => string?_eq_some_iff
  rw [decode?, htext.parse honce]
  simp only [Option.bind_eq_bind, Option.bind_some, h0, h1, h2, h3]

/-- The literals under the keys of an object give the fields of an action. -/
theorem Action.decode?_of_settings {text : String} {members : List (String × Literal)} {a : Action}
    (htext : ObjectText text members)
    (haction : Setting DenotesString none (valuesOf members "action") a.action)
    (hline : Setting (fun l line => l.DenotesNat line.toNat) none (valuesOf members "line")
      a.line) : decode? text = some a := by
  have honce : Once keys members := by
    simp only [keys, once_cons, once_nil, and_true]
    exact ⟨haction.length_le, hline.length_le⟩
  have h0 := haction.get?_eq_some (.required "action" string?) 0 fun _ _ _ => string?_eq_some_iff
  have h1 := hline.get?_eq_some (.required "line" uint32?) 1
    fun _ hl _ => uint32?_eq_some_iff (htext.grammatical hl)
  rw [decode?, htext.parse honce]
  simp only [Option.bind_eq_bind, Option.bind_some, h0, h1]

/-- The literals under the keys of an object give the fields of a lens item. -/
theorem LensItem.decode?_of_settings {text : String} {members : List (String × Literal)}
    {item : LensItem} (htext : ObjectText text members)
    (hline : Setting (fun l line => l.DenotesNat line.toNat) none (valuesOf members "line")
      item.line)
    (htitle : Setting DenotesString none (valuesOf members "title") item.title) :
    decode? text = some item := by
  have honce : Once keys members := by
    simp only [keys, once_cons, once_nil, and_true]
    exact ⟨hline.length_le, htitle.length_le⟩
  have h0 := hline.get?_eq_some (.required "line" uint32?) 0
    fun _ hl _ => uint32?_eq_some_iff (htext.grammatical hl)
  have h1 := htitle.get?_eq_some (.required "title" string?) 1 fun _ _ _ => string?_eq_some_iff
  rw [decode?, htext.parse honce]
  simp only [Option.bind_eq_bind, Option.bind_some, h0, h1]

theorem Route.survives (r : Route) : Survives keys decode? r.toJson r := by
  refine survives_of_rearranged ?_ ?_ ?_ ?_
  · obtain ⟨method, uri, name, action⟩ := r
    cases name <;> exact ⟨trivial, trivial, trivial, trivial, trivial⟩
  · simp [Json.literals, keys]
  · intro text hparse
    rw [decode?, hparse]
    rfl
  · intro text members htext hwritten
    refine decode?_of_settings htext ?_ ?_ ?_ ?_
    · exact hwritten.setting (by decide) rfl (Json.denotesString_toLiteral r.method) nofun
    · exact hwritten.setting (by decide) rfl (Json.denotesString_toLiteral r.uri) nofun
    · refine hwritten.setting (by decide) rfl (Json.denotesStringOrNull_toLiteral r.name) ?_
      intro hnull
      rw [Json.eq_none_of_toLiteral hnull]
    · exact hwritten.setting (by decide) rfl (Json.denotesString_toLiteral r.action) nofun

theorem Action.survives (a : Action) : Survives keys decode? a.toJson a := by
  refine survives_of_rearranged ?_ ?_ ?_ ?_
  · exact ⟨trivial, Json.printable_toNat a.line, trivial⟩
  · simp [Json.literals, keys]
  · intro text hparse
    rw [decode?, hparse]
    rfl
  · intro text members htext hwritten
    refine decode?_of_settings htext ?_ ?_
    · exact hwritten.setting (by decide) rfl (Json.denotesString_toLiteral a.action) nofun
    · exact hwritten.setting (by decide) rfl (Json.denotesNat_toLiteral a.line.toNat) nofun

theorem LensItem.survives (item : LensItem) : Survives keys decode? item.toJson item := by
  refine survives_of_rearranged ?_ ?_ ?_ ?_
  · exact ⟨Json.printable_toNat item.line, trivial, trivial⟩
  · simp [Json.literals, keys]
  · intro text hparse
    rw [decode?, hparse]
    rfl
  · intro text members htext hwritten
    refine decode?_of_settings htext ?_ ?_
    · exact hwritten.setting (by decide) rfl (Json.denotesNat_toLiteral item.line.toNat) nofun
    · exact hwritten.setting (by decide) rfl (Json.denotesString_toLiteral item.title) nofun

/-- Routes, actions and lens items survive their JSON form. -/
theorem survives_json :
    (∀ r : Route, Survives Route.keys Route.decode? r.toJson r) ∧
    (∀ a : Action, Survives Action.keys Action.decode? a.toJson a) ∧
    ∀ item : LensItem, Survives LensItem.keys LensItem.decode? item.toJson item :=
  ⟨Route.survives, Action.survives, LensItem.survives⟩

example : Route.decode? "\x7b\"new\":[],\"uri\":\"u\",\"action\":\"A@i\",\"method\":\"GET\"\x7d" =
    some ⟨"GET", "u", none, "A@i"⟩ := by
  cbv

end RouteLens
