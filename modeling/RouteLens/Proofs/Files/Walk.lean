import RouteLens.Files.Tree
import RouteLens.Proofs.Text.Decoding

/-!
# Following paths

Where a path leads that goes through directories only. Its names are followed one by one, and none
of them is a link or leads back up, so the place it leads to is told by the names (`LeadsTo.walk`);
where a name is missing on the way, the path leads nowhere (`LeadsTo.walk_missing`).
-/

namespace RouteLens.FileTree

/-- A name that can only lead one step down. -/
def IsPlain (name : Bytes) : Prop :=
  name ≠ [] ∧ name ≠ here ∧ name ≠ above ∧ name.length ≤ maxName

instance (name : Bytes) : Decidable (IsPlain name) :=
  inferInstanceAs (Decidable (name ≠ [] ∧ name ≠ here ∧ name ≠ above ∧ name.length ≤ maxName))

/-- Names lead from a place to another one through directories. An empty name, such as the one in
front of the first slash, leads to the directory itself. -/
inductive LeadsTo (t : FileTree) : Place → List Bytes → Place → Prop
  | arrived {place : Place} : LeadsTo t place [] place
  | stay {place target : Place} {rest : List Bytes} : t.entry? place = some .directory →
      LeadsTo t place rest target → LeadsTo t place ([] :: rest) target
  | down {place target : Place} {name : Bytes} {rest : List Bytes} {entry : Entry} :
      t.entry? place = some .directory → IsPlain name → t.entry? (place ++ [name]) = some entry →
      (∀ link, entry ≠ .link link) → LeadsTo t (place ++ [name]) rest target →
      LeadsTo t place (name :: rest) target

section Walk

variable {t : FileTree} {create : Bool} {links : Nat} {place target : Place} {name : Bytes}
  {names rest : List Bytes}

theorem walk_empty (hplace : t.entry? place = some .directory) :
    t.walk create links place ([] :: rest) = t.walk create links place rest := by
  rw [walk, if_neg (not_not_intro hplace), if_pos (Or.inl rfl)]

theorem walk_plain (hplace : t.entry? place = some .directory) (hname : IsPlain name)
    {entry : Entry} (hentry : t.entry? (place ++ [name]) = some entry)
    (hlink : ∀ link, entry ≠ .link link) :
    t.walk create links place (name :: rest) = t.walk create links (place ++ [name]) rest := by
  obtain ⟨hempty, hhere, habove, hlength⟩ := hname
  rw [walk, if_neg (not_not_intro hplace), if_neg (not_or.mpr ⟨hempty, hhere⟩), if_neg habove,
    if_neg (Nat.not_lt.mpr hlength), hentry]
  cases entry with
  | file content => rfl
  | directory => rfl
  | link link => exact absurd rfl (hlink link)

theorem walk_missing (hplace : t.entry? place = some .directory) (hname : IsPlain name)
    (hnone : t.entry? (place ++ [name]) = none) :
    t.walk false links place (name :: rest) = .error .noEntry := by
  obtain ⟨hempty, hhere, habove, hlength⟩ := hname
  rw [walk, if_neg (not_not_intro hplace), if_neg (not_or.mpr ⟨hempty, hhere⟩), if_neg habove,
    if_neg (Nat.not_lt.mpr hlength), hnone]
  rfl

theorem LeadsTo.walk (h : LeadsTo t place names target) :
    t.walk create links place names = .ok target := by
  induction h with
  | arrived => rw [FileTree.walk]
  | stay hplace _ ih => rw [walk_empty hplace, ih]
  | down hplace hname hentry hlink _ ih => rw [walk_plain hplace hname hentry hlink, ih]

theorem LeadsTo.walk_missing (h : LeadsTo t place names target)
    (htarget : t.entry? target = some .directory) (hname : IsPlain name)
    (hnone : t.entry? (target ++ [name]) = none) :
    t.walk false links place (names ++ name :: rest) = .error .noEntry := by
  induction h with
  | arrived => exact FileTree.walk_missing htarget hname hnone
  | stay hplace _ ih => rw [List.cons_append, walk_empty hplace, ih htarget hnone]
  | down hplace hplain hentry hlink _ ih =>
    rw [List.cons_append, walk_plain hplace hplain hentry hlink, ih htarget hnone]

end Walk

section Path

variable {t : FileTree} {p : Path} {place : Place}

theorem LeadsTo.resolve {names : List Bytes} (h : LeadsTo t [] names place)
    (hpath : checkPath p = .ok names) : t.resolve p = .ok place := by
  rw [FileTree.resolve, hpath]
  exact h.walk

theorem LeadsTo.resolve_missing {names rest : List Bytes} {name : Bytes}
    (h : LeadsTo t [] names place) (hpath : checkPath p = .ok (names ++ name :: rest))
    (hplace : t.entry? place = some .directory) (hname : IsPlain name)
    (hnone : t.entry? (place ++ [name]) = none) : t.resolve p = .error .noEntry := by
  rw [FileTree.resolve, hpath]
  exact h.walk_missing hplace hname hnone

theorem pathExists_of_resolve (h : t.resolve p = .ok place) : t.pathExists p = true := by
  rw [pathExists, h]

theorem not_pathExists_of_resolve {error : OsError} (h : t.resolve p = .error error) :
    t.pathExists p = false := by
  rw [pathExists, h]

theorem read_of_resolve {content : Bytes} (h : t.resolve p = .ok place)
    (hfile : t.entry? place = some (.file content)) : t.read p = .ok content := by
  simp only [read, h, bind, Except.bind, hfile]

theorem readText?_of_resolve {text : String} (h : t.resolve p = .ok place)
    (hfile : t.entry? place = some (.file (Utf8.encodeString text))) :
    t.readText? p = some text := by
  rw [readText?, read_of_resolve h hfile]
  exact Utf8.decode?_eq_some_iff.mpr rfl

theorem readText?_of_error {error : OsError} (h : t.resolve p = .error error) :
    t.readText? p = none := by
  have hread : t.read p = .error error := by
    rw [read, h]
    rfl
  rw [readText?, hread]

end Path

end RouteLens.FileTree
