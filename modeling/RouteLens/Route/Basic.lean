import RouteLens.Text.Uppercase
import RouteLens.Json.Record

/-!
# Routes

A route of a web application: the request method and path that reach it, its name if it has one,
and the controller action that answers it.
-/

namespace RouteLens

/-- A route and the action that answers it. -/
structure Route where
  method : String
  uri : String
  name : Option String
  action : String
  deriving DecidableEq, Repr

namespace Route

/-- What an editor shows for a route: the method in upper case, the path, and the name in
parentheses if there is one that is not empty. -/
def title (r : Route) : String :=
  Text.uppercase r.method ++ " " ++ r.uri ++
    match r.name with
    | some name => if name.isEmpty then "" else " (" ++ name ++ ")"
    | none => ""

/-- A route as a JSON object. -/
def toJson (r : Route) : Json :=
  .object [("method", .string r.method), ("uri", .string r.uri),
    ("name", Json.ofOption .string r.name), ("action", .string r.action)]

/-- The keys of a route, in order. -/
def keys : List String := ["method", "uri", "name", "action"]

/-- The route that a JSON text holds. A missing key stands for a missing name. -/
def decode? (text : String) : Option Route := do
  let record ← Record.parse keys text
  let method ← record.get? 0 (.required "method" Literal.string?)
  let uri ← record.get? 1 (.required "uri" Literal.string?)
  let name ← record.get? 2 { key := "name", read := Literal.stringOrNull?, absentKey := some none }
  let action ← record.get? 3 (.required "action" Literal.string?)
  some { method, uri, name, action }

end Route

end RouteLens
