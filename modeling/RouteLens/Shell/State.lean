import RouteLens.Files.Tree
import RouteLens.Shell.Arithmetic
import RouteLens.Shell.Setting

/-!
# State of a shell

What a shell keeps while it carries out a script: variables, functions, open descriptors, files and
time. Descriptors that have been duplicated lead to one channel and share its place in a file.
-/

namespace RouteLens.Shell

/-- What an open descriptor leads to. -/
inductive Channel
  /-- Output that is collected, the newest first. -/
  | sink (chunks : List Chars)
  /-- Input that is left. -/
  | source (rest : Chars)
  /-- A file, from an offset on, or always at its end. -/
  | file (place : Place) (offset : Nat) (appending : Bool)
  /-- A device that swallows output and has no input. -/
  | nothing

/-- A variable; one that is only marked has no value. -/
structure Variable where
  value : Option Chars
  exported : Bool := false
  readOnly : Bool := false

/-- Why a script does not go on with its next statement. -/
inductive Stop
  | exit (code : Nat)
  /-- Something has gone wrong that ends the script, unless a command may fail with it. -/
  | failed
  | killed (signal : Nat)
  /-- The script takes longer than it may. -/
  | overdue
  | leave (loops : Nat)
  | repeat (loops : Nat)
  | return (code : Nat)

/-- What is put back at the end of a function. -/
structure Frame where
  /-- What local variables were before. -/
  bindings : List (Chars × Option Variable) := []
  /-- What settings were before, if they are local. -/
  settings : Option (List Setting) := none

/-- The next option that `getopts` is to find: the argument that it is looked for in, counted from
one, or the characters of the argument before that are done with. -/
structure OptionPlace where
  index : Nat := 1
  offset : Option Nat := none

/-- The state of a shell. -/
structure State where
  files : FileTree
  dir : Path
  /-- The name of the script. -/
  name : Chars
  args : List Chars
  bindings : List (Chars × Variable) := []
  functions : List (Chars × Statement) := []
  channels : Array Channel := #[]
  /-- The channels of open descriptors. -/
  descriptors : List (Nat × Nat) := []
  /-- The status of the last command. -/
  status : Nat := 0
  /-- The status of the last script whose output has been taken. -/
  outputStatus : Nat := 0
  /-- The statuses of commands in the background, the newest first. -/
  jobs : List Nat := []
  line : Nat := 1
  /-- The line that the reading of the script has reached. -/
  reached : Nat := 1
  /-- The command of the shell that is under way, which complaints name. -/
  command : Chars := []
  /-- How long commands have slept, and how long they may, in milliseconds. -/
  elapsed : Nat := 0
  limit : Nat
  /-- What is done on signals; on 0 at the end. -/
  traps : List (Nat × Chars) := []
  /-- What is still to be done on signals that have come. -/
  pending : List Chars := []
  /-- The status that there was before what is done on a signal. -/
  interrupted : Option Nat := none
  /-- What is put back at the ends of the functions under way. -/
  frames : List Frame := []
  /-- How many loops are under way. -/
  loops : Nat := 0
  /-- The settings that are on. -/
  settings : List Setting := []
  place : OptionPlace := {}
  /-- The permissions that new files do not get. -/
  mask : Nat := 0x12

/-- The number by which a shell knows itself; commands in the background have those after it. -/
def processId : Nat := 4711

/-- Whether a setting is on. -/
def State.has (s : State) (setting : Setting) : Bool :=
  s.settings.contains setting

/-- What a shell does: it changes its state, and may stop. -/
abbrev Effect := ExceptT Stop (StateM State)

namespace Effect

/-- Carries out `body` and afterwards, even if it stops, changes the state once more. -/
def ensuring {α : Type} (body : Effect α) (after : State → State) : Effect α :=
  ExceptT.mk do
    let result ← body.run
    modify after
    return result

/-! ## Channels -/

/-- Opens a channel. -/
def openChannel (channel : Channel) : Effect Nat := do
  let n := (← get).channels.size
  modify fun s => { s with channels := s.channels.push channel }
  return n

/-- Lets a descriptor lead to a channel. -/
def connect (descriptor channel : Nat) : Effect Unit :=
  modify fun s => { s with
    descriptors := (descriptor, channel) :: s.descriptors.filter (·.1 != descriptor) }

/-- Closes a descriptor. -/
def disconnect (descriptor : Nat) : Effect Unit :=
  modify fun s => { s with descriptors := s.descriptors.filter (·.1 != descriptor) }

/-- The channel of a descriptor. -/
def channelOf (descriptor : Nat) : Effect (Option (Nat × Channel)) := do
  let s ← get
  return (s.descriptors.lookup descriptor).bind fun n => (s.channels[n]?).map (n, ·)

/-- Puts a channel in place of an older one. -/
def setChannel (n : Nat) (channel : Channel) : Effect Unit :=
  modify fun s => { s with channels := s.channels.setIfInBounds n channel }

/-- The content of the file at a place. -/
def contentAt (place : Place) : Effect (Option Chars) := do
  match (← get).files.entry? place with
  | some (.file content) => return some (Chars.ofBytes content)
  | _ => return none

/-- Writes a text to a descriptor; false if that is not open for output. -/
def write (descriptor : Nat) (text : Chars) : Effect Bool := do
  match ← channelOf descriptor with
  | none => return false
  | some (n, .sink chunks) =>
    setChannel n (.sink (text :: chunks))
    return true
  | some (_, .source _) => return false
  | some (_, .nothing) => return true
  | some (n, .file place offset appending) =>
    match ← contentAt place with
    | none => return true
    | some content =>
      let offset := if appending then content.length else offset
      let start := content.take offset ++ List.replicate (offset - content.length) '\x00'
      let content := start ++ text ++ content.drop (offset + text.length)
      modify fun s => { s with files := s.files.put place (.file (Chars.toBytes content)) }
      setChannel n (.file place (offset + text.length) appending)
      return true

/-- Takes everything that can be read from a descriptor; none if it is not open. -/
def readAll (descriptor : Nat) : Effect (Option Chars) := do
  match ← channelOf descriptor with
  | none => return none
  | some (n, .source rest) =>
    setChannel n (.source [])
    return some rest
  | some (n, .file place offset appending) =>
    let content := ((← contentAt place).getD []).drop offset
    setChannel n (.file place (offset + content.length) appending)
    return some content
  | some _ => return some []

/-- Takes a line from a descriptor, without its end, and whether it has an end. -/
def readLine (descriptor : Nat) : Effect (Chars × Bool) := do
  let cut (text : Chars) : Chars × Chars :=
    (text.takeWhile (· != '\n'), text.dropWhile (· != '\n'))
  match ← channelOf descriptor with
  | some (n, .source rest) =>
    let (line, after) := cut rest
    setChannel n (.source (after.drop 1))
    return (line, !after.isEmpty)
  | some (n, .file place offset appending) =>
    let (line, after) := cut (((← contentAt place).getD []).drop offset)
    setChannel n (.file place (offset + line.length + 1) appending)
    return (line, !after.isEmpty)
  | _ => return ([], false)

/-- All that a sink has collected. -/
def collected (n : Nat) : Effect Chars := do
  match (← get).channels[n]? with
  | some (.sink chunks) => return chunks.reverse.flatten
  | _ => return []

/-! ## Complaints -/

/-- Writes a line about what is wrong, and where: in which script, on which line, and in which
command if it is one of the shell itself. -/
def complain (text : Chars) : Effect Unit := do
  let s ← get
  let command := if s.command.isEmpty then [] else s.command ++ ": ".toList
  let _ ← write 2
    (s.name ++ ": ".toList ++ Chars.ofInt s.line ++ ": ".toList ++ command ++ text ++ ['\n'])

/-- Complains, and fails: a command of the shell that may fail ends with that, or else the script. -/
def fatal {α : Type} (text : Chars) : Effect α := do
  complain text
  throw .failed

/-- Carries out `body` as a command of the shell with a name. -/
def naming {α : Type} (command : Chars) (body : Effect α) : Effect α := do
  let outer := (← get).command
  modify fun s => { s with command }
  ensuring body fun s => { s with command := outer }

/-- Sleeps for some milliseconds, or as long as there is time. -/
def sleep (milliseconds : Nat) : Effect Unit := do
  modify fun s => { s with elapsed := s.elapsed + milliseconds }
  let s ← get
  if s.elapsed ≥ s.limit then throw .overdue

/-! ## Variables -/

/-- The value of a variable. -/
def valueOf? (name : Chars) : Effect (Option Chars) := do
  return ((← get).bindings.lookup name).bind Variable.value

/-- Puts a variable in place of an older one. -/
def putVariable (name : Chars) (v : Option Variable) : Effect Unit :=
  modify fun s =>
    let others := s.bindings.filter (·.1 != name)
    { s with bindings := match v with
      | some v => (name, v) :: others
      | none => others }

/-- Gives a value to a variable. A number for `OPTIND` tells where options are looked for next. -/
def assign (name value : Chars) : Effect Unit := do
  let s ← get
  let v := (s.bindings.lookup name).getD { value := none }
  if v.readOnly then fatal (name ++ ": is read only".toList)
  else
    putVariable name
      (some { v with value := some value, exported := v.exported || s.has .allexport })
    if name == "OPTIND".toList then
      modify fun s => { s with
        place := { index := max 1 ((Expression.decimal? value).getD 1).toNat } }

/-- The characters that divide words. -/
def separators : Effect Chars := do
  return (← valueOf? "IFS".toList).getD " \t\n".toList

/-- The path that a name means, seen from the directory of the shell. -/
def pathOf (name : Chars) : Effect Path := do
  if name.isEmpty then return []
  else return Path.join (← get).dir (Chars.toBytes name)

end Effect

end RouteLens.Shell
