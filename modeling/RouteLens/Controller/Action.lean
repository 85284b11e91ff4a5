import RouteLens.Json.Record

/-!
# Controller actions

A method of a controller that a route can name, `Namespace\Class@method`, and the line on which it
is declared.
-/

namespace RouteLens

/-- An action of a controller and its line, counted from zero. -/
structure Action where
  action : String
  line : UInt32
  deriving DecidableEq, Repr

namespace Action

/-- The action for a method of a class. -/
def ofMethod (className method : String) (line : UInt32) : Action :=
  ⟨className ++ "@" ++ method, line⟩

/-- An action as a JSON object. -/
def toJson (a : Action) : Json :=
  .object [("action", .string a.action), ("line", .ofNat a.line.toNat)]

/-- The keys of an action, in order. -/
def keys : List String := ["action", "line"]

/-- The action that a JSON text holds. -/
def decode? (text : String) : Option Action := do
  let record ← Record.parse keys text
  let action ← record.get? 0 (.required "action" Literal.string?)
  let line ← record.get? 1 (.required "line" Literal.uint32?)
  some { action, line }

end Action

end RouteLens
