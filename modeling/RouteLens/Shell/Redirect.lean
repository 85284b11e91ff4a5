import RouteLens.Shell.Program

/-!
# Redirections

Where descriptors lead while a statement is carried out. The words of all redirections of a
statement are expanded before the first of them is carried out.
-/

namespace RouteLens.Shell

/-- What becomes of a file that is opened for writing and there already. -/
inductive Overwriting
  | refused
  | fromStart
  | inPlace
  | atEnd
  deriving DecidableEq, Repr

namespace Effect

/-- Complains that a file cannot be opened. -/
def complainOpening (creating : Bool) (name : Chars) (error : OsError) : Effect Bool := do
  let cause := match error with
    | .noEntry => if creating then "Directory nonexistent" else "No such file"
    | .notDirectory => if creating then "Directory nonexistent" else "No such file"
    | _ => error.description
  complain ((if creating then "cannot create " else "cannot open ").toList ++ name ++
    ": ".toList ++ cause.toList)
  return false

/-- Lets a descriptor lead where another one leads. -/
def duplicate (descriptor other : Nat) : Effect Bool := do
  match (← get).descriptors.lookup other with
  | some n =>
    connect descriptor n
    return true
  | none =>
    complain (Chars.ofInt other ++ ": Bad file descriptor".toList)
    return false

/-- The descriptor that a path of a device stands for. -/
def standardDescriptor? (name : Chars) : Option Nat :=
  [("/dev/stdin", 0), ("/dev/stdout", 1), ("/dev/stderr", 2)].lookup (String.ofList name)

/-- Opens a file that is there for reading. -/
def openInput (descriptor : Nat) (name : Chars) : Effect Bool := do
  match standardDescriptor? name with
  | some other => duplicate descriptor other
  | none => match (← get).files.resolve (← pathOf name) with
    | .ok place =>
      let channel := match (← get).files.entry? place with
        | some (.file _) =>
          if place = Program.nothingPlace then Channel.source [] else .file place 0 false
        | _ => .nothing
      connect descriptor (← openChannel channel)
      return true
    | .error error => complainOpening false name error

/-- Opens a file for writing, and makes it where there is none. -/
def openOutput (descriptor : Nat) (name : Chars) (overwriting : Overwriting) : Effect Bool := do
  let connectFile (place : Place) : Effect Bool := do
    connect descriptor (← openChannel (.file place 0 (overwriting = .atEnd)))
    return true
  let empty (place : Place) : Effect Unit :=
    modify fun s => { s with files := s.files.put place (.file []) }
  match standardDescriptor? name with
  | some other => duplicate descriptor other
  | none => match (← get).files.resolveNew (← pathOf name) with
    | .ok place =>
      if place = Program.nothingPlace then
        connect descriptor (← openChannel .nothing)
        return true
      else match (← get).files.entry? place, overwriting with
        | some (.file _), .refused => complainOpening true name .alreadyExists
        | some (.file _), .fromStart =>
          empty place
          connectFile place
        | some (.file _), _ => connectFile place
        | none, _ =>
          empty place
          connectFile place
        | some _, _ => complainOpening true name .isDirectory
    | .error error => complainOpening true name error

/-- The word of a redirection. -/
def targetWord : Target → Word
  | .read word => word
  | .write word => word
  | .overwrite word => word
  | .append word => word
  | .readWrite word => word
  | .duplicate word => word
  | .document text => text

/-- What the word of a redirection expands to. A descriptor that another one is to lead to has one
digit; a fault in that counts as one of the line that has been read last. -/
def expandTarget (text : Word → Effect Chars) (r : Redirection) :
    Effect (Redirection × Chars) := do
  let name ← text (targetWord r.target)
  let isDescriptor := match name with
    | [c] => c.isDigit || c == '-'
    | _ => false
  match r.target with
  | .duplicate _ =>
    if !isDescriptor then
      modify fun s => { s with line := s.reached }
      fatal "Syntax error: Bad fd number".toList
    else return (r, name)
  | _ => return (r, name)

/-- Carries out a redirection whose word has been expanded; false if it is not possible. -/
def redirect (r : Redirection) (name : Chars) : Effect Bool := do
  match r.target with
  | .read _ => openInput r.descriptor name
  | .write _ =>
    openOutput r.descriptor name (if (← get).has .noclobber then .refused else .fromStart)
  | .overwrite _ => openOutput r.descriptor name .fromStart
  | .append _ => openOutput r.descriptor name .atEnd
  | .readWrite _ => openOutput r.descriptor name .inPlace
  | .duplicate _ =>
    if name == ['-'] then
      disconnect r.descriptor
      return true
    else duplicate r.descriptor (Expression.digits 10 0 name).1
  | .document _ =>
    connect r.descriptor (← openChannel (.source name))
    return true

/-- Carries out redirections up to the first that is not possible. -/
def redirectEach : List (Redirection × Chars) → Effect Bool
  | [] => pure true
  | (r, name) :: rest => do
    if ← redirect r name then redirectEach rest else return false

/-- Expands the words of redirections, and carries them out. -/
def redirectAll (text : Word → Effect Chars) (redirections : List Redirection) : Effect Bool := do
  redirectEach (← redirections.mapM (expandTarget text))

end Effect

end RouteLens.Shell
