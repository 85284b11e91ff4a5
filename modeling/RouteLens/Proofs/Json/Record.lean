import RouteLens.Proofs.Json.Meaning

/-!
# Objects read as records

What a record takes from the text of an object: for each of its keys the literals that stand under
it (`valuesOf`), and nothing else of the object. A field is given when one literal stands under its
key and denotes a value, and has its standard value when none does (`Setting`).
-/

namespace RouteLens.Record

open Literal

/-! ## Members -/

/-- The literals under a key, in their order. -/
def valuesOf (members : List (String × Literal)) (key : String) : List Literal :=
  (members.filter (·.1 == key)).map (·.2)

/-- Members as they are written are members with the keys that they spell. -/
def Keyed (raw : List (List Char × Literal)) (members : List (String × Literal)) : Prop :=
  List.Forall₂ (fun r m => Escape.Spells r.1 m.1.toList ∧ r.2 = m.2) raw members

/-- A text is that of an object with some members, in their order. -/
def ObjectText (text : String) (members : List (String × Literal)) : Prop :=
  ∃ raw, IsText (.object raw) text.toList ∧ Keyed raw members

theorem decodeKeys_eq_some_iff {raw : List (List Char × Literal)}
    {members : List (String × Literal)} : decodeKeys raw = some members ↔ Keyed raw members := by
  induction raw generalizing members with
  | nil => simp [decodeKeys, Keyed, eq_comm]
  | cons r raw ih =>
    obtain ⟨key, value⟩ := r
    rw [Keyed, List.forall₂_cons_left_iff, decodeKeys]
    constructor
    · intro h
      split at h
      · cases h
      next text htext =>
      obtain ⟨rest, hrest, rfl⟩ := Option.map_eq_some_iff.mp h
      refine ⟨_, rest, ⟨?_, rfl⟩, ih.mp hrest, rfl⟩
      rw [String.toList_ofList]
      exact Escape.decode?_eq_some_iff.mp htext
    · rintro ⟨⟨name, l⟩, rest, ⟨hname, rfl⟩, hrest, rfl⟩
      simp only [Escape.decode?_eq_some_iff.mpr hname, ih.mpr hrest, Option.map_some,
        String.ofList_toList]

theorem keyOnce_iff {members : List (String × Literal)} {key : String} :
    keyOnce members key = true ↔ (valuesOf members key).length ≤ 1 := by
  rw [keyOnce, valuesOf, List.length_map, decide_eq_true_iff]

theorem lookup_eq (members : List (String × Literal)) (key : String) :
    members.lookup key = (valuesOf members key).head? := by
  induction members with
  | nil => rfl
  | cons member members ih =>
    obtain ⟨k, l⟩ := member
    by_cases h : k = key
    · simp [valuesOf, h]
    · rw [List.lookup_cons, beq_false_of_ne (Ne.symm h), ih]
      simp [valuesOf, h]

theorem valuesOf_filter {members : List (String × Literal)} {keys : List String} {key : String}
    (hkey : key ∈ keys) : valuesOf (members.filter (·.1 ∈ keys)) key = valuesOf members key := by
  rw [valuesOf, valuesOf, List.filter_filter]
  congr 2
  funext member
  by_cases h : member.1 = key
  · simp [h, hkey]
  · simp [h]

theorem mem_valuesOf {members : List (String × Literal)} {key : String} {l : Literal} :
    l ∈ valuesOf members key ↔ (key, l) ∈ members := by
  simp only [valuesOf, List.mem_map, List.mem_filter, beq_iff_eq]
  constructor
  · rintro ⟨⟨k, l'⟩, ⟨hmem, rfl⟩, rfl⟩
    exact hmem
  · intro hmem
    exact ⟨(key, l), ⟨hmem, rfl⟩, rfl⟩

theorem grammatical_of_keyed {raw : List (List Char × Literal)} {members : List (String × Literal)}
    (h : Keyed raw members) (hraw : GrammaticalMembers raw) :
    ∀ member ∈ members, member.2.Grammatical := by
  induction h with
  | nil => exact fun _ hnone => absurd hnone List.not_mem_nil
  | @cons r m raw members hfirst _ ih =>
    obtain ⟨-, hvalue, hrest⟩ := hraw
    refine List.forall_mem_cons.mpr ⟨?_, ih hrest⟩
    rwa [← hfirst.2]

theorem ObjectText.grammatical {text : String} {members : List (String × Literal)}
    (h : ObjectText text members) {key : String} {l : Literal} (hl : l ∈ valuesOf members key) :
    l.Grammatical := by
  obtain ⟨raw, ⟨hraw, -⟩, hkeyed⟩ := h
  exact grammatical_of_keyed hkeyed hraw _ (mem_valuesOf.mp hl)

/-! ## Records of objects -/

/-- Each of some keys stands before one literal at most. -/
def Once (keys : List String) (members : List (String × Literal)) : Prop :=
  ∀ key ∈ keys, (valuesOf members key).length ≤ 1

theorem once_nil (members : List (String × Literal)) : Once [] members :=
  fun _ hkey => absurd hkey List.not_mem_nil

theorem once_cons {key : String} {keys : List String} {members : List (String × Literal)} :
    Once (key :: keys) members ↔ (valuesOf members key).length ≤ 1 ∧ Once keys members :=
  List.forall_mem_cons

theorem all_keyOnce_iff {keys : List String} {members : List (String × Literal)} :
    keys.all (keyOnce members) = true ↔ Once keys members := by
  simp only [List.all_eq_true, keyOnce_iff, Once]

theorem ObjectText.parse {text : String} {members : List (String × Literal)}
    (h : ObjectText text members) {keys : List String} (honce : Once keys members) :
    Record.parse keys text = some (.keyed members) := by
  obtain ⟨raw, htext, hkeyed⟩ := h
  rw [Record.parse, parse_eq_some_iff.mpr htext, Option.bind_some, ofLiteral?]
  simp only [decodeKeys_eq_some_iff.mpr hkeyed, all_keyOnce_iff.mpr honce, if_true]

/-- A record comes from the text of an object whose keys are not given twice, or of an array. -/
theorem parse_cases {keys : List String} {text : String} {record : Record}
    (h : parse keys text = some record) :
    (∃ members, record = .keyed members ∧ ObjectText text members ∧ Once keys members) ∨
      ∃ items, IsText (.array items) text.toList := by
  obtain ⟨l, hl, hrecord⟩ := Option.bind_eq_some_iff.mp h
  have htext := parse_eq_some_iff.mp hl
  cases l with
  | object raw =>
    rw [ofLiteral?] at hrecord
    split at hrecord
    · next members hmembers =>
      split at hrecord
      · next honce =>
        obtain rfl := Option.some.inj hrecord
        have hkeyed := decodeKeys_eq_some_iff.mp hmembers
        exact .inl ⟨members, rfl, ⟨raw, htext, hkeyed⟩, all_keyOnce_iff.mp honce⟩
      · cases hrecord
    · cases hrecord
  | array items => exact .inr ⟨items, htext⟩
  | _ => cases hrecord

theorem ObjectText.unique {text : String} {members members' : List (String × Literal)}
    (h : ObjectText text members) (h' : ObjectText text members') : members = members' := by
  have hparse := (h.parse (once_nil members)).symm.trans (h'.parse (once_nil members'))
  exact Record.keyed.inj (Option.some.inj hparse)

theorem ObjectText.not_array {text : String} {members : List (String × Literal)}
    (h : ObjectText text members) (items : List Literal) : ¬ IsText (.array items) text.toList := by
  obtain ⟨raw, htext, -⟩ := h
  intro hitems
  have := (parse_eq_some_iff.mpr htext).symm.trans (parse_eq_some_iff.mpr hitems)
  cases this

/-! ## Fields -/

/-- What the literals under a key make of a field: its standard value if there is none, and the
value that the only one denotes. -/
inductive Setting {α : Type} (denotes : Literal → α → Prop) (standard : Option α) :
    List Literal → α → Prop
  | absent {a : α} : standard = some a → Setting denotes standard [] a
  | given {l : Literal} {a : α} : denotes l a → Setting denotes standard [l] a

theorem Setting.length_le {α : Type} {denotes : Literal → α → Prop} {standard : Option α}
    {values : List Literal} {a : α} (h : Setting denotes standard values a) :
    values.length ≤ 1 := by
  cases h <;> simp

/-- A field of an object is read as the literals under its key say. -/
theorem get?_eq_some_iff {α : Type} {members : List (String × Literal)} (field : Field α)
    (index : Nat) {denotes : Literal → α → Prop}
    (hread : ∀ l ∈ valuesOf members field.key, ∀ a, field.read l = some a ↔ denotes l a)
    (honce : (valuesOf members field.key).length ≤ 1) {a : α} :
    (keyed members).get? index field = some a ↔
      Setting denotes field.absentKey (valuesOf members field.key) a := by
  rw [get?, lookup_eq]
  match hvalues : valuesOf members field.key with
  | [] =>
    constructor
    · intro h
      exact .absent h
    · rintro ⟨h⟩
      exact h
  | [l] =>
    have hl := hread l (by rw [hvalues]; exact List.mem_singleton_self l) a
    constructor
    · intro h
      exact .given (hl.mp h)
    · rintro (_ | h)
      exact hl.mpr h
  | _ :: _ :: _ =>
    rw [hvalues] at honce
    simp at honce

theorem Setting.get?_eq_some {α : Type} {members : List (String × Literal)} (field : Field α)
    (index : Nat) {denotes : Literal → α → Prop} {a : α}
    (h : Setting denotes field.absentKey (valuesOf members field.key) a)
    (hread : ∀ l ∈ valuesOf members field.key, ∀ a, field.read l = some a ↔ denotes l a) :
    (keyed members).get? index field = some a :=
  (get?_eq_some_iff field index hread h.length_le).mpr h

end RouteLens.Record
