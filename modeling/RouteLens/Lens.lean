import RouteLens.Route.Listing
import RouteLens.Controller.Scan

/-!
# Route lenses

The lines that an editor shows above controller methods: one for every route of every action of a
source text, in the order of the actions, and for one action in the order of its routes.
-/

namespace RouteLens

/-- A title to show at a line. -/
structure LensItem where
  line : UInt32
  title : String
  deriving DecidableEq, Repr

/-- A place in a document: a line and a character of it, both counted from zero. -/
structure Position where
  line : UInt32
  character : UInt32
  deriving DecidableEq, Repr

/-- The places of a document from one to another. -/
structure Span where
  start : Position
  stop : Position
  deriving DecidableEq, Repr

/-- A title at a range of a document, with a command that does nothing. -/
structure Lens where
  range : Span
  title : String
  command : String
  deriving DecidableEq, Repr

namespace LensItem

/-- The empty range at the start of the item's line. -/
def range (item : LensItem) : Span :=
  ⟨⟨item.line, 0⟩, ⟨item.line, 0⟩⟩

/-- The items of actions, with the routes of each action looked up once, in order. -/
def build {m : Type → Type} [Monad m] (lookup : String → m (List Route)) :
    List Action → m (List LensItem)
  | [] => pure []
  | a :: rest => do
    let routes ← lookup a.action
    let items ← build lookup rest
    pure (routes.map (fun r => ⟨a.line, r.title⟩) ++ items)

/-- An item as a JSON object. -/
def toJson (item : LensItem) : Json :=
  .object [("line", .ofNat item.line.toNat), ("title", .string item.title)]

/-- The keys of an item, in order. -/
def keys : List String := ["line", "title"]

/-- The item that a JSON text holds. -/
def decode? (text : String) : Option LensItem := do
  let record ← Record.parse keys text
  let line ← record.get? 0 (.required "line" Literal.uint32?)
  let title ← record.get? 1 (.required "title" Literal.string?)
  some { line, title }

end LensItem

namespace Position

/-- A position as a JSON object. -/
def toJson (p : Position) : Json :=
  .object [("line", .ofNat p.line.toNat), ("character", .ofNat p.character.toNat)]

end Position

namespace Span

/-- A range as a JSON object. -/
def toJson (s : Span) : Json :=
  .object [("start", s.start.toJson), ("end", s.stop.toJson)]

end Span

namespace Lens

/-- The lens of an item: its title at its range, to look at only. -/
def ofItem (item : LensItem) : Lens :=
  ⟨item.range, item.title, ""⟩

/-- A lens as a JSON object. -/
def toJson (lens : Lens) : Json :=
  .object [("range", lens.range.toJson),
    ("command", .object [("title", .string lens.title), ("command", .string lens.command)])]

/-- The lenses of a source text under a route table; none rather than no lens. -/
def ofSource (table : RouteTable) (source : String) : Option (List Lens) :=
  match LensItem.build (m := Id) table.routesFor (Controller.actions source) with
  | [] => none
  | items => some (items.map ofItem)

/-- The lenses of a source text as JSON, null for none. -/
def listToJson (lenses : Option (List Lens)) : Json :=
  Json.ofOption (fun lenses => .array (lenses.map toJson)) lenses

end Lens

end RouteLens
