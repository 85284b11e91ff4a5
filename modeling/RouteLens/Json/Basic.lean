import RouteLens.Json.Number
import RouteLens.Json.Escape

/-!
# JSON values

The values that JSON texts denote, read from literals and written as literals. A text denotes a
value when its strings and numbers do and no more than 127 containers stand inside one another. An
object keeps its members as they are written; of members with one key the last one counts.
-/

namespace RouteLens

/-- A JSON value. -/
inductive Json
  | null
  | bool (value : Bool)
  | number (value : Number)
  | string (value : String)
  | array (items : List Json)
  | object (members : List (String × Json))

namespace Json

/-- A string value from its characters. -/
def ofChars (text : List Char) : Json :=
  .string (String.ofList text)

/-- An integer value. -/
def ofNat (n : Nat) : Json :=
  .number (.integer n)

/-- A value that may be missing. -/
def ofOption {α : Type} (f : α → Json) : Option α → Json
  | none => .null
  | some a => f a

/-- How many containers may stand inside one another. -/
def maxDepth : Nat := 127

mutual

/-- The value that a literal denotes, to any depth. -/
def ofLiteral? : Literal → Option Json
  | .null => some .null
  | .bool value => some (.bool value)
  | .number token => (Number.ofToken? token).map .number
  | .string raw => (Escape.decode? raw).map ofChars
  | .array items => (ofItems? items).map .array
  | .object members => (ofMembers? members).map .object

/-- The values that items denote. -/
def ofItems? : List Literal → Option (List Json)
  | [] => some []
  | item :: rest => match ofLiteral? item with
    | none => none
    | some value => (ofItems? rest).map (value :: ·)

/-- The keys and values that members denote. -/
def ofMembers? : List (List Char × Literal) → Option (List (String × Json))
  | [] => some []
  | (key, item) :: rest => match Escape.decode? key, ofLiteral? item with
    | some key, some value => (ofMembers? rest).map ((String.ofList key, value) :: ·)
    | _, _ => none

end

/-- The value that a text denotes. -/
def parse (text : String) : Option Json :=
  match Literal.parse text.toList with
  | some literal => if literal.depth ≤ maxDepth then ofLiteral? literal else none
  | none => none

mutual

/-- The literal that a value is written as. -/
def toLiteral : Json → Literal
  | .null => .null
  | .bool value => .bool value
  | .number value => .number value.token
  | .string value => .string (Escape.encode value.toList)
  | .array items => .array (toItems items)
  | .object members => .object (toMembers members)

/-- The literals that items are written as. -/
def toItems : List Json → List Literal
  | [] => []
  | item :: rest => toLiteral item :: toItems rest

/-- The members of an object as they are written. -/
def toMembers : List (String × Json) → List (List Char × Literal)
  | [] => []
  | (key, value) :: rest => (Escape.encode key.toList, toLiteral value) :: toMembers rest

end

/-- The text of a value, without blanks. -/
def text (value : Json) : String :=
  String.ofList value.toLiteral.render

/-- The value of the last of the members with a key. -/
def member? (key : String) : List (String × Json) → Option Json
  | [] => none
  | (k, value) :: rest => match member? key rest with
    | some found => some found
    | none => if k = key then some value else none

/-- The member of a value with a key, if it is an object that has one. -/
def get? (value : Json) (key : String) : Option Json :=
  match value with
  | .object members => member? key members
  | _ => none

/-- The string that a value is. -/
def string? : Json → Option String
  | .string value => some value
  | _ => none

/-- The items of an array. -/
def array? : Json → Option (List Json)
  | .array items => some items
  | _ => none

/-- The integer that a value is. -/
def integer? : Json → Option Int
  | .number (.integer value) => some value
  | _ => none

/-- The natural number that a value is. -/
def nat? : Json → Option Nat
  | .number (.integer (.ofNat n)) => some n
  | _ => none

end Json

end RouteLens
