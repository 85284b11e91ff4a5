import RouteLens.Shell.Run

/-!
# Starting programs

What starts the programs of a machine: it looks for the program, runs it without input in the
directory of the command, and collects what it writes.

The theory is about any launcher. No theorem is about this one, nor about the shell and the programs
in the modules beside it: they are there so that fetches and sessions can be run on a tree of files
with scripts in it, with the statuses and the complaints that a shell gives.
-/

namespace RouteLens.Shell

/-- How many statements a program carries out at most, one inside or after another. -/
def stepLimit : Nat := 1000000

/-- The variables that a program finds. -/
def environment (dir : Path) : List (Chars × Variable) :=
  [("PATH", Found.usualDirectories), ("HOME", "/root".toList), ("PWD", Chars.ofBytes dir)].map fun (name, value) =>
      (name.toList, { value := some value, exported := true })

/-- The state that a program starts in: no input, and output that is collected in two channels. -/
def startState (dir : Path) (limit : Nat) (files : FileTree) : State :=
  { files, dir, limit
    name := "sh".toList
    args := []
    bindings := environment dir
    channels := #[.source [], .sink [], .sink []]
    descriptors := [(0, 0), (1, 1), (2, 2)] }

/-- What a channel has collected. -/
def output (s : State) (channel : Nat) : Bytes :=
  match s.channels[channel]? with
  | some (.sink chunks) => Chars.toBytes chunks.reverse.flatten
  | _ => []

/-- The program that a command means, or why it cannot be started. -/
def findProgram (files : FileTree) (dir : Path) (name : Chars) : Except OsError Program :=
  if name.isEmpty then .error .noEntry
  else if name.contains '/' then do
    let place ← files.resolve (Path.join dir (Chars.toBytes name))
    match Program.ofPlace? place with
    | some program => .ok program
    | none => .error .accessDenied
  else if name.length > FileTree.maxName then .error .nameTooLong
  else match Program.ofName? name with
    | some program => .ok program
    | none => if name == ['.'] || name == ['.', '.'] then .error .accessDenied else .error .noEntry

/-- How long a command may take, in milliseconds. -/
def milliseconds (limit : Duration) : Nat :=
  limit.secs * 1000 + limit.nanos / 1000000

/-- Starts the program of a command. -/
def launch : Launcher := fun command files =>
  let strings := command.program :: command.args
  if strings.any (·.toList.contains '\x00') || command.dir.contains 0 then
    (.notStarted .zeroOctet, files)
  else
    let workingDir : Except OsError Unit := do
      let place ← files.resolve command.dir
      if files.entry? place = some .directory then .ok () else .error .notDirectory
    let name := Chars.ofString command.program
    match workingDir.bind fun _ => findProgram files command.dir name with
    | .error error => (.notStarted (.os error), files)
    | .ok program =>
      let limit := milliseconds command.limit
      if limit = 0 then (.overdue, files)
      else
        let args := command.args.map Chars.ofString
        let run : Effect Unit :=
          if program = .shell then Effect.runShell stepLimit name args
          else do Effect.setStatus (← program.run name args)
        let (result, s) := run.run.run (startState command.dir limit files)
        let ended (status : ExitStatus) : Outcome := .ended status (output s 1) (output s 2)
        match Stop.status s.status result with
        | .ok status => (ended (.exited (status % 256)), s.files)
        -- programs run without room for an image of their memory
        | .error (.killed signal) => (ended (.signaled signal false), s.files)
        | .error _ => (.overdue, s.files)

end RouteLens.Shell
