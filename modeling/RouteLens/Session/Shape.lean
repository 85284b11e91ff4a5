import RouteLens.Json.Basic
import RouteLens.Url.Basic

/-!
# Shapes of parameters

What the parameters of a method have to look like, given as data: the kinds of JSON values, and how
records are made of fields. A record is an object that has its required keys, or an array with the
values of its fields in order; keys that nobody knows are passed over.
-/

namespace RouteLens

/-- What a JSON value must look like. -/
inductive Shape
  | any
  | bool
  | number
  /-- An integer from the first bound up to but not including the second. -/
  | integer (low high : Int)
  | string
  /-- A string that is a URL. -/
  | url
  /-- One of the texts, which may also stand as the only key of an object with null. -/
  | word (texts : List String)
  /-- A value that may be missing from an object or null. -/
  | optional (shape : Shape)
  /-- A value that may also be missing at the end of an array. -/
  | omissible (shape : Shape)
  | list (item : Shape)
  | pair (item : Shape)
  /-- An object with any keys of a shape. -/
  | dictionary (key value : Shape)
  | record (fields : List (String × Shape))
  /-- An object whose members but the fields have a shape; no array stands for it. -/
  | object (fields : List (String × Shape)) (other : Shape)
  /-- A record of several kinds, which a member tells apart. -/
  | tagged (key : String) (variants : List (String × Shape))
  | either (first second : Shape)

namespace Shape

/-- The signed integers of 32 bits. -/
def int32 : Shape := .integer (-0x80000000) 0x80000000

/-- The unsigned integers of 32 bits. -/
def uint32 : Shape := .integer 0 0x100000000

/-- Whether an object may lack a value of the shape. -/
def isOptional : Shape → Bool
  | .optional _ => true
  | .omissible _ => true
  | _ => false

/-- Whether an array may end before a value of the shape. -/
def isOmissible : Shape → Bool
  | .omissible _ => true
  | _ => false

/-- Whether a value is one of some texts. -/
def isWord (texts : List String) : Json → Bool
  | .string text => texts.contains text
  | .object [(text, .null)] => texts.contains text
  | _ => false

/-- Whether a value is an integer between bounds. -/
def isInteger (low high : Int) (value : Json) : Bool :=
  value.integer?.any fun n => low ≤ n && n < high

/-- Whether a value is a URL. -/
def isUrl (value : Json) : Bool :=
  value.string?.any fun text => (Url.parse text).toOption.isSome

mutual

/-- Whether a value has a shape. -/
def accepts : Shape → Json → Bool
  | .any, _ => true
  | .bool, value => (value matches .bool _)
  | .number, value => (value matches .number _)
  | .integer low high, value => isInteger low high value
  | .string, value => (value matches .string _)
  | .url, value => isUrl value
  | .word texts, value => isWord texts value
  | .optional shape, value => (value matches .null) || shape.accepts value
  | .omissible shape, value => (value matches .null) || shape.accepts value
  | .list item, value => match value with
    | .array items => items.all (item.accepts ·)
    | _ => false
  | .pair item, value => match value with
    | .array [first, second] => item.accepts first && item.accepts second
    | _ => false
  | .dictionary key shape, value => match value with
    | .object members => members.all fun (name, value) =>
      key.accepts (.string name) && shape.accepts value
    | _ => false
  | .record fields, value => match value with
    | .object members => acceptsMembers fields members
    | .array items => acceptsItems fields items
    | _ => false
  | .object fields other, value => match value with
    | .object members => acceptsMembers fields members &&
      members.all fun (name, value) => fields.any (·.1 == name) || other.accepts value
    | _ => false
  | .tagged key variants, value => match value.get? key with
    | some (.string tag) => acceptsVariant tag variants value
    | _ => false
  | .either first second, value => first.accepts value || second.accepts value

/-- Whether the members of an object give fields their values. -/
def acceptsMembers : List (String × Shape) → List (String × Json) → Bool
  | [], _ => true
  | (key, shape) :: rest, members =>
    (match Json.member? key members with
      | some value => shape.accepts value
      | none => shape.isOptional) && acceptsMembers rest members

/-- Whether the items of an array give fields their values. -/
def acceptsItems : List (String × Shape) → List Json → Bool
  | [], items => items.isEmpty
  | (_, shape) :: rest, [] => shape.isOmissible && acceptsItems rest []
  | (_, shape) :: rest, item :: items => shape.accepts item && acceptsItems rest items

/-- Whether a value has the shape that goes with a tag. -/
def acceptsVariant (tag : String) : List (String × Shape) → Json → Bool
  | [], _ => false
  | (name, shape) :: rest, value =>
    if name = tag then shape.accepts value else acceptsVariant tag rest value

end

/-- A record of fields that may all be missing. -/
def options (fields : List (String × Shape)) : Shape :=
  .record (fields.map fun (key, shape) => (key, .optional shape))

/-- A record of truth values that may all be missing. -/
def flags (keys : List String) : Shape :=
  options (keys.map (·, .bool))

/-- A record of a list that must be there. -/
def valueSet (item : Shape) : Shape :=
  .record [("valueSet", .list item)]

/-- The kinds of texts with markup. -/
def markupKind : Shape := .word ["plaintext", "markdown"]

end Shape

end RouteLens
