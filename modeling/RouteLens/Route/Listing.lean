import RouteLens.Route.Table

/-!
# Route listings

The JSON text that a project prints for its routes, as a route table. Each row of the listing's
array is read on its own: a value of an unexpected type counts as missing, and a row without an
action, or with the action of a closure, is passed over. A text that is no array gives no routes.
-/

namespace RouteLens.Listing

/-- The action that stands for a function without a name. -/
def closureAction : String := "Closure"

/-- The method of a row that names none. -/
def defaultMethod : String := "GET"

/-- The string under a key of a row. -/
def stringAt? (row : Json) (key : String) : Option String :=
  (row.get? key).bind Json.string?

/-- The action of a row, under either of its keys; none for no action and for closures. -/
def rowAction? (row : Json) : Option String :=
  match (stringAt? row "action").or (stringAt? row "action_name") with
  | some action => if action = "" ∨ action = closureAction then none else some action
  | none => none

/-- The method of a row: the first of its methods, its one method, or the default. -/
def rowMethod (row : Json) : String :=
  let first := ((row.get? "methods").bind Json.array?).bind (·.head?)
  ((first.bind Json.string?).or (stringAt? row "method")).getD defaultMethod

/-- The path of a row, under either of its keys. -/
def rowUri (row : Json) : String :=
  ((stringAt? row "uri").or (stringAt? row "path")).getD ""

/-- The name of a row, under either of its keys. -/
def rowName? (row : Json) : Option String :=
  (stringAt? row "name").or (stringAt? row "route_name")

/-- The route of a row, if it has an action that a controller can answer. -/
def rowRoute? (row : Json) : Option Route :=
  match row with
  | .object _ => (rowAction? row).map fun action =>
    { method := rowMethod row, uri := rowUri row, name := rowName? row, action }
  | _ => none

/-- The routes of a listing, row by row. -/
def routes (text : String) : List Route :=
  match Json.parse text with
  | some (.array rows) => rows.filterMap rowRoute?
  | _ => []

/-- The route table of a listing. -/
def table (text : String) : RouteTable :=
  RouteTable.ofList (routes text)

end RouteLens.Listing
