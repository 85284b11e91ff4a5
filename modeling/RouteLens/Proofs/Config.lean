import RouteLens.Config
import RouteLens.Proofs.Json.Record
import RouteLens.Proofs.Text.Decoding

/-!
# Settings in a file

What a file makes of the settings of a workspace (`loadFile_all_or_nothing`). The text of an object
gives each setting that stands under its key once and with a literal of its kind, and leaves the
others at their defaults; the order of the keys does not matter, nor does anything under other keys.
Whatever else a file holds, and without a file, all settings are at their defaults. Of the texts of
arrays nothing is said here.
-/

namespace RouteLens.Config

open Literal Record

/-- The literals under the keys of an object give these settings. -/
structure GivenBy (members : List (String × Literal)) (config : Config) : Prop where
  enabled : Setting DenotesBool (some true) (valuesOf members "enabled") config.enabled
  php : Setting DenotesString (some "php") (valuesOf members "php") config.php
  artisan : Setting DenotesString (some "artisan") (valuesOf members "artisan") config.artisan
  routeListArgs : Setting DenotesStrings (some ["route:list", "--json"])
    (valuesOf members "routeListArgs") config.routeListArgs
  timeoutSecs : Setting (fun l secs => l.DenotesNat secs.toNat) (some 30)
    (valuesOf members "timeoutSecs") config.timeoutSecs

theorem GivenBy.once {members : List (String × Literal)} {config : Config}
    (h : GivenBy members config) : Once keys members := by
  simp only [keys, once_cons, once_nil, and_true]
  exact ⟨h.enabled.length_le, h.php.length_le, h.artisan.length_le, h.routeListArgs.length_le,
    h.timeoutSecs.length_le⟩

theorem ofRecord?_eq_some_iff {text : String} {members : List (String × Literal)}
    (htext : ObjectText text members) (honce : Once keys members) {config : Config} :
    ofRecord? (.keyed members) = some config ↔ GivenBy members config := by
  have hat {key : String} (hkey : key ∈ keys) : (valuesOf members key).length ≤ 1 := honce key hkey
  have henabled (a : Bool) := get?_eq_some_iff (.withDefault "enabled" bool? true) 0 (a := a)
    (fun _ _ _ => bool?_eq_some_iff) (hat (by decide))
  have hphp (a : String) := get?_eq_some_iff (.withDefault "php" string? "php") 1 (a := a)
    (fun _ _ _ => string?_eq_some_iff) (hat (by decide))
  have hartisan (a : String) := get?_eq_some_iff (.withDefault "artisan" string? "artisan") 2
    (a := a) (fun _ _ _ => string?_eq_some_iff) (hat (by decide))
  have hargs (a : List String) := get?_eq_some_iff
    (.withDefault "routeListArgs" strings? ["route:list", "--json"]) 3 (a := a)
    (fun _ _ _ => strings?_eq_some_iff) (hat (by decide))
  have hsecs (a : UInt64) := get?_eq_some_iff (.withDefault "timeoutSecs" uint64? 30) 4 (a := a)
    (fun _ hl _ => uint64?_eq_some_iff (htext.grammatical hl)) (hat (by decide))
  constructor
  · intro h
    simp only [ofRecord?, Option.bind_eq_bind, Option.bind_eq_some_iff] at h
    obtain ⟨enabled, h0, php, h1, artisan, h2, args, h3, secs, h4, heq⟩ := h
    obtain rfl := Option.some.inj heq
    exact ⟨(henabled _).mp h0, (hphp _).mp h1, (hartisan _).mp h2, (hargs _).mp h3,
      (hsecs _).mp h4⟩
  · intro h
    simp only [ofRecord?, Option.bind_eq_bind, Option.bind_eq_some_iff]
    exact ⟨_, (henabled _).mpr h.enabled, _, (hphp _).mpr h.php, _, (hartisan _).mpr h.artisan, _,
      (hargs _).mpr h.routeListArgs, _, (hsecs _).mpr h.timeoutSecs, rfl⟩

/-- The text of an object holds the settings that its members give. -/
theorem decode?_eq_some_iff {text : String} {members : List (String × Literal)}
    (htext : ObjectText text members) {config : Config} :
    decode? text = some config ↔ GivenBy members config := by
  constructor
  · intro h
    obtain ⟨record, hparse, hrecord⟩ := Option.bind_eq_some_iff.mp h
    obtain ⟨members', rfl, htext', honce⟩ | ⟨items, hitems⟩ := parse_cases hparse
    · obtain rfl := htext.unique htext'
      exact (ofRecord?_eq_some_iff htext honce).mp hrecord
    · exact absurd hitems (htext.not_array items)
  · intro h
    rw [decode?, htext.parse h.once]
    exact (ofRecord?_eq_some_iff htext h.once).mpr h

example : decode? "\x7b\"timeoutSecs\": 5, \"other\": [1e999], \"php\": \"p\\u0068p8\"\x7d" =
    some { php := "php8", timeoutSecs := 5 } := by
  cbv

/-! ## Files -/

/-- A file holds the text of an array. -/
def HoldsArray (content : Bytes) : Prop :=
  ∃ text items, Utf8.encodeString text = content ∧ IsText (.array items) text.toList

/-- A file holds the text of an object whose members give these settings. -/
def Holds (content : Bytes) (config : Config) : Prop :=
  ∃ text members, Utf8.encodeString text = content ∧ ObjectText text members ∧
    GivenBy members config

theorem holds_iff {content : Bytes} (harray : ¬ HoldsArray content) {config : Config} :
    Holds content config ↔ (Utf8.decode? content).bind decode? = some config := by
  rw [Option.bind_eq_some_iff]
  constructor
  · rintro ⟨text, members, hbytes, htext, hgiven⟩
    exact ⟨text, Utf8.decode?_eq_some_iff.mpr hbytes, (decode?_eq_some_iff htext).mpr hgiven⟩
  · rintro ⟨text, hdecode, hconfig⟩
    have hbytes := Utf8.decode?_eq_some_iff.mp hdecode
    obtain ⟨record, hparse, -⟩ := Option.bind_eq_some_iff.mp hconfig
    obtain ⟨members, -, htext, -⟩ | ⟨items, hitems⟩ := parse_cases hparse
    · exact ⟨text, members, hbytes, htext, (decode?_eq_some_iff htext).mp hconfig⟩
    · exact absurd ⟨text, items, hbytes, hitems⟩ harray

/-- A file that is no array's gives exactly the settings that its object holds, or none at all; no
file gives none. -/
theorem loadFile_all_or_nothing (files : FileTree) (path : Path) :
    (∀ error, files.read path = .error error → loadFile files path = {}) ∧
    ∀ content, files.read path = .ok content → ¬ HoldsArray content →
      (∀ config, Holds content config → loadFile files path = config) ∧
      ((∀ config, ¬ Holds content config) → loadFile files path = {}) := by
  constructor
  · intro error hread
    rw [loadFile, FileTree.readText?, hread]
    rfl
  · intro content hread harray
    have hload : loadFile files path = ((Utf8.decode? content).bind decode?).getD {} := by
      rw [loadFile, FileTree.readText?, hread]
    rw [hload]
    constructor
    · intro config hholds
      rw [(holds_iff harray).mp hholds, Option.getD_some]
    · intro hnone
      have hfail : (Utf8.decode? content).bind decode? = none :=
        Option.eq_none_iff_forall_ne_some.mpr fun config hconfig =>
          hnone config ((holds_iff harray).mpr hconfig)
      rw [hfail, Option.getD_none]

end RouteLens.Config
