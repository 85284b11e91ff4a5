import RouteLens.Artisan.Child
import RouteLens.Shell.Display
import RouteLens.Shell.Format
import RouteLens.Shell.Quote
import RouteLens.Shell.State

/-!
# Programs

The programs that are installed beside the shell, and what they do with their arguments.
-/

namespace RouteLens.Shell

/-- A program. -/
inductive Program
  | shell
  | echo
  | cat
  | succeed
  | fail
  | sleep
  | touch
  | makeDirectory
  | remove
  deriving DecidableEq, Repr

namespace Program

/-- The programs by name. -/
def byName : List (String × Program) :=
  [("sh", shell), ("echo", echo), ("cat", cat), ("true", succeed), ("false", fail),
    ("sleep", sleep), ("touch", touch), ("mkdir", makeDirectory), ("rm", remove)]

/-- The directories that programs are installed in. -/
def directories : List String := ["/bin", "/usr/bin"]

/-- The program that the command with a name is. -/
def ofName? (name : Chars) : Option Program :=
  byName.lookup (String.ofList name)

/-- The path of a program that is installed under a name. -/
def installedPath (directory name : String) : Path :=
  Path.joinString (Path.ofString directory) name

/-- The program that is installed at a place. -/
def ofPlace? (place : Place) : Option Program :=
  directories.findSome? fun directory => byName.findSome? fun (name, program) =>
    if place = (Path.names (installedPath directory name)).drop 1 then some program else none

/-- The usual directories of a machine, apart from those of programs. -/
def usualDirectories : List String :=
  ["/dev", "/etc", "/home", "/lib", "/mnt", "/opt", "/proc", "/root", "/run", "/sbin", "/srv",
    "/sys", "/tmp", "/usr/lib", "/usr/local", "/var"]

/-- The files of a machine: the installed programs, the usual directories, and a few files whose
content does not matter. -/
def machineFiles : FileTree :=
  let programs := directories.flatMap fun directory => byName.map fun (name, _) =>
    (installedPath directory name, Entry.file [])
  let others := ["/dev/null", "/etc/hosts", "/etc/passwd"].map fun path =>
    (Path.ofString path, Entry.file [])
  let empty := usualDirectories.map fun path => (Path.ofString path, Entry.directory)
  (programs ++ others ++ empty).foldl
    (fun files (path, entry) => (files.place path entry).toOption.getD files) {}

/-- The path that a program or a script opens as a device without content. -/
def nothingPlace : Place :=
  (Path.names (Path.ofString "/dev/null")).drop 1

/-- Says on the second descriptor what is wrong, under the name that the program is called by. -/
def say (called text : Chars) : Effect Unit := do
  let _ ← Effect.write 2 (called ++ ": ".toList ++ text ++ ['\n'])

/-- Says what is wrong with the arguments, and where to look; the status that means failure. -/
def advise (called text : Chars) : Effect Nat := do
  say called text
  let _ ← Effect.write 2
    ("Try '".toList ++ called ++ " --help' for more information.\n".toList)
  return 1

/-- Does something with each operand; fails if one of them fails. -/
def eachOperand (f : Chars → Effect Bool) : List Chars → Effect Nat
  | [] => pure 0
  | operand :: rest => do
    let done ← f operand
    let status ← eachOperand f rest
    return if done then status else 1

/-- What is read of a file, or of the first descriptor for a dash; none after saying why not. -/
def contentOf? (called operand : Chars) : Effect (Option Chars) := do
  if operand == ['-'] then
    match ← Effect.readAll 0 with
    | some text => return some text
    | none =>
      say called "-: Bad file descriptor".toList
      return none
  else
    match (← get).files.read (← Effect.pathOf operand) with
    | .ok content => return some (Chars.ofBytes content)
    | .error error =>
      say called (Quote.wordIfNeeded operand ++ ": ".toList ++ error.description.toList)
      return none

/-- Displays the contents of files one after another. -/
def displayAll (called : Chars) (layout : Layout) (d : Display) : List Chars → Effect Nat
  | [] => do
    let (text, _) := Display.text layout d.release []
    let _ ← Effect.write 1 text
    return 0
  | operand :: rest => do
    match ← contentOf? called operand with
    | some content =>
      let (text, d) := d.text layout content
      let _ ← Effect.write 1 text
      displayAll called layout d rest
    | none =>
      let _ ← displayAll called layout d rest
      return 1

/-- Displays files in the way that options say. -/
def display (called : Chars) (args : List Chars) : Effect Nat := do
  match Layout.options.read args with
  | .error text => advise called text
  | .ok arguments =>
    if (← Effect.channelOf 1).isNone then
      say called "standard output: Bad file descriptor".toList
      return 1
    else
      let operands := if arguments.operands.isEmpty then [['-']] else arguments.operands
      let status ← displayAll called (.ofLetters arguments.options) {} operands
      if operands.contains ['-'] && (← Effect.channelOf 0).isNone then
        say called "closing standard input: Bad file descriptor".toList
      return status

/-- The milliseconds that a number of seconds, minutes, hours or days is. -/
def milliseconds? (text : Chars) : Option Nat :=
  let (number, unit) := match text.getLast? with
    | some 's' => (text.dropLast, 1)
    | some 'm' => (text.dropLast, 60)
    | some 'h' => (text.dropLast, 3600)
    | some 'd' => (text.dropLast, 86400)
    | _ => (text, 1)
  let whole := number.takeWhile Char.isDigit
  let thousandths (digits : Chars) : Nat :=
    (Expression.digits 10 0 ((digits ++ ['0', '0', '0']).take 3)).1
  let seconds := (Expression.digits 10 0 whole).1 * 1000
  match number.dropWhile Char.isDigit with
  | [] => if whole.isEmpty then none else some (seconds * unit)
  | '.' :: digits =>
    if digits.all Char.isDigit && !(whole.isEmpty && digits.isEmpty) then
      some ((seconds + thousandths digits) * unit)
    else none
  | _ => none

/-- Sleeps as long as all arguments say together. -/
def sleepFor (called : Chars) (args : List Chars) : Effect Nat := do
  match Options.read ⟨[], []⟩ args with
  | .error text => advise called text
  | .ok ⟨_, []⟩ => advise called "missing operand".toList
  | .ok ⟨_, times⟩ => match times.find? fun time => (milliseconds? time).isNone with
    | some time => advise called ("invalid time interval ".toList ++ Quote.escaped time)
    | none =>
      Effect.sleep ((times.filterMap milliseconds?).foldl (· + ·) 0)
      return 0

/-- Changes the files at the path of an operand, or says what is wrong. -/
def change (called : Chars) (doing : Chars → Chars) (operand : Chars)
    (f : FileTree → Path → Except OsError FileTree) : Effect Bool := do
  let s ← get
  match f s.files (← Effect.pathOf operand) with
  | .ok files =>
    set { s with files }
    return true
  | .error error =>
    say called (doing operand ++ ": ".toList ++ error.description.toList)
    return false

/-- Makes an empty file where there is nothing. -/
def touchAt (files : FileTree) (path : Path) : Except OsError FileTree :=
  if files.pathExists path then .ok files else files.write path []

/-- Makes a directory in one that is there. -/
def makeAt (files : FileTree) (path : Path) : Except OsError FileTree := do
  let place ← files.resolveNew path
  match files.entry? place with
  | some _ => .error .alreadyExists
  | none => .ok (files.put place .directory)

/-- Removes a directory and everything in it. -/
def removeAll (files : FileTree) (path : Path) : Except OsError FileTree := do
  let place ← files.placeItself path
  match files.entry? place with
  | some _ => .ok ⟨files.entries.filter fun (p, _) => !place.isPrefixOf p⟩
  | none => .error .noEntry

/-- Carries out a program, a shell apart, under the name that it is called by; its status. -/
def run (program : Program) (called : Chars) (args : List Chars) : Effect Nat := do
  match program with
  | shell => return 0
  | succeed => return 0
  | fail => return 1
  | echo =>
    let _ ← Effect.write 1 (echoProgramText true false args)
    return 0
  | cat => display called args
  | sleep => sleepFor called args
  | touch => match Options.read ⟨"acm".toList, []⟩ args with
    | .error text => advise called text
    | .ok ⟨_, []⟩ => advise called "missing file operand".toList
    | .ok ⟨_, names⟩ => eachOperand (touchNamed · touchAt) names
  | makeDirectory => match Options.read ⟨"pv".toList, [("parents", 'p'), ("verbose", 'v')]⟩ args with
    | .error text => advise called text
    | .ok ⟨_, []⟩ => advise called "missing operand".toList
    | .ok ⟨options, names⟩ =>
      eachOperand (makeNamed ·
        (if options.contains 'p' then FileTree.makeDirectories else makeAt)) names
  | remove => match Options.read ⟨"firRv".toList, [("force", 'f'), ("recursive", 'r')]⟩ args with
    | .error text => advise called text
    | .ok ⟨options, names⟩ =>
      let erase :=
        if options.contains 'r' || options.contains 'R' then removeAll else FileTree.remove
      if options.contains 'f' then
        eachOperand (removeNamed · fun files path =>
          if files.pathExists path then erase files path else .ok files) names
      else if names.isEmpty then advise called "missing operand".toList
      else eachOperand (removeNamed · erase) names
where
  touchNamed := change called fun name => "cannot touch ".toList ++ Quote.word name
  makeNamed := change called fun name => "cannot create directory ".toList ++ Quote.escaped name
  removeNamed := change called fun name => "cannot remove ".toList ++ Quote.word name

end Program

end RouteLens.Shell
