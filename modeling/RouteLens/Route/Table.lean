import RouteLens.Route.Basic
import Std.Data.TreeMap

/-!
# Route tables

The routes of an application by action. The routes of one action keep the order in which they
arrived, and every action in a table has at least one route.
-/

namespace RouteLens

/-- Routes by action. -/
structure RouteTable where
  routes : Std.TreeMap String (List Route)

namespace RouteTable

/-- The table without routes. -/
def empty : RouteTable := ⟨{}⟩

instance : EmptyCollection RouteTable := ⟨empty⟩

instance : Inhabited RouteTable := ⟨empty⟩

/-- The routes of an action, in order of arrival. -/
def routesFor (t : RouteTable) (action : String) : List Route :=
  t.routes.getD action []

/-- Adds a route behind those of its action. -/
def insert (t : RouteTable) (r : Route) : RouteTable :=
  ⟨t.routes.insert r.action (t.routesFor r.action ++ [r])⟩

/-- The table of routes that arrive in order. -/
def ofList (routes : List Route) : RouteTable :=
  routes.foldl insert empty

/-- Whether an action has a route. -/
def contains (t : RouteTable) (action : String) : Bool :=
  t.routes.contains action

/-- The number of actions that have a route. -/
def size (t : RouteTable) : Nat :=
  t.routes.size

/-- Whether no action has a route. -/
def isEmpty (t : RouteTable) : Bool :=
  t.routes.isEmpty

/-- Every action with its routes, in the order of code points. -/
def toList (t : RouteTable) : List (String × List Route) :=
  t.routes.toList

/-- Whether two tables have the same actions with the same routes. -/
def sameRoutes (t u : RouteTable) : Bool :=
  t.size == u.size && t.toList.all fun (action, routes) => u.routes.get? action == some routes

instance : BEq RouteTable := ⟨sameRoutes⟩

end RouteTable

end RouteLens
