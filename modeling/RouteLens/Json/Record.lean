import RouteLens.Json.Basic

/-!
# Records in JSON texts

Decoding of a text into a record with named fields. The text holds an object, or an array with the
values of the fields in their order. In an object the keys of fields come at most once and in any
order, and other keys are passed over with whatever literal they carry; in an array items may only
be missing at the end. What a missing field means is the field's own matter.
-/

namespace RouteLens

/-- A field of a record: its key, how its value is read, and what stands for a missing one. -/
structure Field (α : Type) where
  key : String
  read : Literal → Option α
  /-- The value when an object lacks the key. -/
  absentKey : Option α := none
  /-- The value when an array is too short. -/
  absentItem : Option α := none

/-- What a text gives for a record. -/
inductive Record
  | keyed (members : List (String × Literal))
  | listed (items : List Literal)

namespace Record

/-- The keys and literals of members; every key must denote a text. -/
def decodeKeys : List (List Char × Literal) → Option (List (String × Literal))
  | [] => some []
  | (key, value) :: rest => match Escape.decode? key with
    | none => none
    | some key => (decodeKeys rest).map ((String.ofList key, value) :: ·)

/-- Whether a key is among members at most once. -/
def keyOnce (members : List (String × Literal)) (key : String) : Bool :=
  (members.filter (·.1 == key)).length ≤ 1

/-- What a literal gives for a record with these keys. -/
def ofLiteral? (keys : List String) : Literal → Option Record
  | .object members => match decodeKeys members with
    | some members => if keys.all (keyOnce members) then some (.keyed members) else none
    | none => none
  | .array items => if items.length ≤ keys.length then some (.listed items) else none
  | _ => none

/-- What a text gives for a record with these keys. -/
def parse (keys : List String) (text : String) : Option Record :=
  (Literal.parse text.toList).bind (ofLiteral? keys)

/-- The value of the field at an index of the record. -/
def get? {α : Type} (record : Record) (index : Nat) (field : Field α) : Option α :=
  match record with
  | .keyed members => match members.lookup field.key with
    | some value => field.read value
    | none => field.absentKey
  | .listed items => match items[index]? with
    | some value => field.read value
    | none => field.absentItem

end Record

namespace Field

/-- A field that must be given. -/
def required {α : Type} (key : String) (read : Literal → Option α) : Field α :=
  { key, read }

/-- A field with a value that stands for a missing one. -/
def withDefault {α : Type} (key : String) (read : Literal → Option α) (default : α) : Field α :=
  { key, read, absentKey := some default, absentItem := some default }

end Field

namespace Literal

/-- The truth value that a literal is. -/
def bool? : Literal → Option Bool
  | .bool value => some value
  | _ => none

/-- The string that a literal is. -/
def string? : Literal → Option String
  | .string raw => (Escape.decode? raw).map String.ofList
  | _ => none

/-- The string or null that a literal is. -/
def stringOrNull? : Literal → Option (Option String)
  | .null => some none
  | literal => literal.string?.map some

/-- The natural number below a bound that a literal is. -/
def natBelow? (bound : Nat) : Literal → Option Nat
  | .number token => match Number.integerOfToken? token with
    | some (.ofNat n) => if n < bound then some n else none
    | _ => none
  | _ => none

/-- The unsigned integer of 32 bits that a literal is. -/
def uint32? (literal : Literal) : Option UInt32 :=
  (literal.natBelow? UInt32.size).map UInt32.ofNat

/-- The unsigned integer of 64 bits that a literal is. -/
def uint64? (literal : Literal) : Option UInt64 :=
  (literal.natBelow? UInt64.size).map UInt64.ofNat

/-- The strings that all of some literals are. -/
def allStrings? : List Literal → Option (List String)
  | [] => some []
  | item :: rest => match item.string? with
    | none => none
    | some s => (allStrings? rest).map (s :: ·)

/-- The list of strings that a literal is. -/
def strings? : Literal → Option (List String)
  | .array items => allStrings? items
  | _ => none

end Literal

end RouteLens
