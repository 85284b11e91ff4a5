import RouteLens.Controller.Action
import RouteLens.Controller.Keyword

/-!
# Actions of a controller source

The public methods of the class that a source text declares, found by three patterns in the raw
text: `namespace path;`, `class Name` and `public function name(`. All methods belong to the first
class; without one there are no actions.
-/

namespace RouteLens.Controller

open Source

/-- What a place of the keyword `namespace` tells. -/
inductive NamespaceSite
  /-- It declares nothing; the next place counts. -/
  | pass
  /-- The search ends, with the path if there is one. -/
  | stop (path : Option String)

/-- Reads a declaration after the keyword `namespace`: a blank, and at least one more character
before the next semicolon. -/
def readNamespace (after : List Char) : NamespaceSite :=
  match after with
  | [] => .pass
  | c :: rest =>
    if Text.isBlank c then
      if rest.contains ';' then
        match rest.takeWhile (· ≠ ';') with
        | [] => .pass
        | path => match Text.trim (c :: path) with
          | [] => .stop none
          | path => .stop (some (String.ofList path))
      else .stop none
    else .pass

/-- The path of the first of some places that ends the search. -/
def firstNamespace : List Site → Option String
  | [] => none
  | site :: rest => match readNamespace site.after with
    | .pass => firstNamespace rest
    | .stop path => path

/-- The path that the source declares as its namespace. -/
def namespacePath? (source : List Char) : Option String :=
  firstNamespace (keywordSites "namespace" source)

/-- Reads a class name after the keyword `class`. -/
def readClassName (after : List Char) : Option String :=
  ((afterBlanks? after).bind splitName?).map fun (name, _) => String.ofList name

/-- The name of the first class that the source declares. -/
def className? (source : List Char) : Option String :=
  (keywordSites "class" source).findSome? fun site => readClassName site.after

/-- Reads the name of a method after the keyword `public`. -/
def readMethod (after : List Char) : Option String := do
  let text ← afterBlanks? after
  let text ← afterWord? "function" text
  let text ← afterBlanks? text
  let (name, text) ← splitName? text
  match Text.skipBlanks text with
  | '(' :: _ => some (String.ofList name)
  | _ => none

/-- The public methods of the source: the offset of each declaration, and the name. -/
def publicMethods (source : List Char) : List (Nat × String) :=
  (keywordSites "public" source).filterMap fun site =>
    (readMethod site.after).map (site.offset, ·)

/-- The class name that actions carry: with the namespace in front if there is one. -/
def qualifiedName (path : Option String) (name : String) : String :=
  match path with
  | some path => path ++ "\\" ++ name
  | none => name

/-- The actions of methods in order of offset. `rest` is the source from offset `counted` on, where
`line` lines lie behind. -/
def actionsFrom (className : String) (counted : Nat) (line : UInt32) (rest : List Char) :
    List (Nat × String) → List Action
  | [] => []
  | (offset, method) :: methods =>
    let line := line + lineAt rest (offset - counted)
    .ofMethod className method line ::
      actionsFrom className offset line (dropOctets (offset - counted) rest) methods

/-- The actions of a source text, in order of their declarations. -/
def actions (source : String) : List Action :=
  let text := source.toList
  match className? text with
  | none => []
  | some name =>
    actionsFrom (qualifiedName (namespacePath? text) name) 0 0 text (publicMethods text)

end RouteLens.Controller
