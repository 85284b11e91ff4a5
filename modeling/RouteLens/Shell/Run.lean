import RouteLens.Shell.Describe
import RouteLens.Shell.Reader
import RouteLens.Shell.Start

/-!
# Running scripts

Carrying out statements. A shell within a shell works on a copy of everything but files, channels
and time, and its end is the status of a command; signals end all shells but that of another
program.
-/

namespace RouteLens.Shell

/-- Where a script comes from. -/
inductive ScriptOrigin
  | file
  | text
  /-- It is a part of another script, which has been read already. -/
  | part
  deriving DecidableEq, Repr

/-- How a shell ended, as the shell that started it sees it: a status, or an end of everything. -/
def Stop.status (ownStatus : Nat) : Except Stop Unit → Except Stop Nat
  | .ok () => .ok ownStatus
  | .error (.exit code) => .ok code
  | .error .failed => .ok 2
  | .error (.return code) => .ok code
  | .error (.leave _) => .ok ownStatus
  | .error (.repeat _) => .ok ownStatus
  | .error (.killed signal) => .error (.killed signal)
  | .error .overdue => .error .overdue

namespace Effect

/-- Sets the status of the last command. -/
def setStatus (status : Nat) : Effect Unit :=
  modify fun s => { s with status }

/-- Carries out `body` in a shell of its own, and takes its end for the status of a command. -/
def inSubshell (body : Effect Unit) : Effect Unit :=
  ExceptT.mk fun s =>
    let own := { s with traps := s.traps.filter (·.2.isEmpty), pending := [] }
    let (result, t) := body.run.run own
    let kept := { s with files := t.files, channels := t.channels, elapsed := t.elapsed }
    match Stop.status t.status result with
    | .ok status => (.ok (), { kept with status := status % 256 })
    | .error stop => (.error stop, kept)

/-- Carries out a script within the one that is read, without losing its place. -/
def nested (body : Effect Unit) : Effect Unit := do
  let reached := (← get).reached
  ensuring body fun s => { s with reached }

/-- Carries out a command that may fail; its status. -/
def mayFail (body : Effect Nat) : Effect Nat :=
  tryCatch body fun
    | .failed => return 2
    | stop => throw stop

/-- Carries out what has been set for a signal, after which the status is what it was. -/
def onSignal (action : Effect Unit) : Effect Unit := do
  let s ← get
  let restored (t : State) : State := { t with interrupted := s.interrupted }
  modify fun t => { t with interrupted := some s.status }
  ensuring (nested action) restored
  setStatus s.status

/-- Carries out the body of a loop, counted as one; whether the loop goes on. -/
def loopBody (body : Effect Unit) : Effect Bool :=
  ExceptT.mk do
    modify fun s => { s with loops := s.loops + 1 }
    let result ← body.run
    modify fun s => { s with loops := s.loops - 1 }
    return match result with
      | .ok () => .ok true
      | .error (.leave n) => if n ≤ 1 then .ok false else .error (.leave (n - 1))
      | .error (.repeat n) => if n ≤ 1 then .ok true else .error (.repeat (n - 1))
      | .error stop => .error stop

/-- Carries out the body of a function, which may end with a status. -/
def functionBody (body : Effect Unit) : Effect Unit :=
  ExceptT.mk do
    match ← body.run with
    | .error (.return code) => do
      modify fun s => { s with status := code }
      return .ok ()
    | result => return result

/-- Writes a command that is about to be carried out, where things went to before its
redirections. -/
def trace (outside : List (Nat × Nat)) (assignments : List (Chars × Chars)) (words : List Chars) :
    Effect Unit := do
  let s ← get
  if s.has .xtrace then
    let start := (← valueOf? "PS4".toList).getD []
    let texts := assignments.map (fun (name, value) => name ++ '=' :: value) ++ words
    set { s with descriptors := outside }
    let _ ← write 2 (start ++ List.intercalate [' '] texts ++ ['\n'])
    modify fun t => { t with descriptors := s.descriptors }

/-- The text of a script that is to be carried out by the shell itself; it is looked for where
programs are unless there is a slash in its name. -/
def scriptOf (file : Chars) : Effect Chars := do
  let s ← get
  let placeOf? (path : Chars) : Option Place :=
    match s.files.resolve (Path.join s.dir (Chars.toBytes path)) with
    | .ok place => if s.files.entry? place = some .directory then none else some place
    | .error _ => none
  let place ←
    if file.contains '/' then do
      match s.files.resolve (← pathOf file) with
      | .ok place => pure place
      | .error _ => fatal ("cannot open ".toList ++ file ++ ": No such file".toList)
    else match (Found.paths ((← valueOf? "PATH".toList).getD []) file).findSome? placeOf? with
      | some place => pure place
      | none => fatal (file ++ ": not found".toList)
  return ((← contentAt place).getD []).filter (· != '\x00')

/-- Puts variables back to what they were. -/
def restoreVariables (saved : List (Chars × Option Variable)) (s : State) : State :=
  { s with bindings := saved.foldl (fun bindings (name, v) =>
      let others := bindings.filter (·.1 != name)
      match v with
      | some v => (name, v) :: others
      | none => others) s.bindings }

/-- Puts back what a function has made local. -/
def restoreFrame (frame : Frame) (s : State) : State :=
  restoreVariables frame.bindings { s with settings := frame.settings.getD s.settings }

/-- Writes the lines of a script that have just been read, where that is asked for. -/
def showLines (before after : Source) : Effect Unit := do
  if (← get).has .verbose then
    let _ ← write 2 (before.rest.take (before.rest.length - after.rest.length))

/-- Ends the shell where a failure is not to be passed over. -/
def checkFailure (tested : Bool) : Effect Unit := do
  let s ← get
  if s.has .errexit && !tested && s.status != 0 then throw (.exit s.status)

mutual

/-- Carries out a script line by line. -/
def runSource (fuel : Nat) (origin : ScriptOrigin) (source : Source) : Effect Unit :=
  match fuel with
  | 0 => throw .overdue
  | fuel + 1 => match source.nextLine with
    | .ok none => pure ()
    | .ok (some (statement, rest)) => do
      if origin ≠ .part then modify fun s => { s with reached := rest.line }
      if origin = .file then showLines source rest
      runStatement fuel false statement
      runSource fuel origin rest
    | .error fault => do
      modify fun s => { s with line := fault.line }
      fatal ("Syntax error: " ++ fault.error.message).toList

/-- Carries out a shell to its end, and then what has been set for that. -/
def runToEnd (fuel : Nat) (body : Effect Unit) : Effect Unit :=
  match fuel with
  | 0 => throw .overdue
  | fuel + 1 => do
    let result ← ExceptT.mk (.ok <$> body.run)
    let s ← get
    match Stop.status s.status result with
    | .error stop => throw stop
    | .ok status =>
      setStatus status
      match s.traps.lookup 0 with
      | some action =>
        modify fun s => { s with traps := s.traps.filter (·.1 != 0) }
        onSignal (runSource fuel .text { rest := action })
        throw (.exit status)
      | none => throw (.exit status)

/-- The output of a script that starts on a line, without the ends of lines at its end. -/
def runOutput (fuel : Nat) (line : Nat) (script : Chars) : Effect Chars :=
  match fuel with
  | 0 => throw .overdue
  | fuel + 1 => do
    let sink ← openChannel (.sink [])
    let before := (← get).status
    inSubshell (runToEnd fuel do
      connect 1 sink
      runSource fuel .part { rest := script, line })
    modify fun s => { s with outputStatus := s.status, status := before }
    let text := (← collected sink).filter (· != '\x00')
    return (text.reverse.dropWhile (· == '\n')).reverse

/-- Carries out a shell as a program of its own, under the name that it is called by. -/
def runShell (fuel : Nat) (called : Chars) (args : List Chars) : Effect Unit :=
  match fuel with
  | 0 => throw .overdue
  | fuel + 1 => runToEnd fuel do
    let opening ← begin called args
    runSource fuel (if opening.isRead then .file else .text)
      { rest := opening.script.filter (· != '\x00') }

/-- Carries out a program under the name that it is called by; its status. -/
def runProgram (fuel : Nat) (program : Program) (called : Chars) (args : List Chars) :
    Effect Nat :=
  match fuel with
  | 0 => throw .overdue
  | fuel + 1 => do
    if program = .shell then
      let killed (stop : Stop) : Effect Unit := match stop with
        | .killed signal => do
          match Signal.description? signal with
          | some text => let _ ← write 2 (text ++ ['\n'])
          | none => pure ()
          setStatus (128 + signal)
        | stop => throw stop
      tryCatch (inSubshell (runShell fuel called args)) killed
      return (← get).status
    else program.run called args

/-- Carries out what the name of a command leads to; its status. -/
def runFound (fuel : Nat) (called : Chars) (found : Found) (args : List Chars) : Effect Nat :=
  match fuel with
  | 0 => throw .overdue
  | fuel + 1 => do
    match found with
    | .program _ program => runProgram fuel program called args
    | .missing =>
      complain (called ++ ": not found".toList)
      return 127
    | .denied =>
      complain (called ++ ": Permission denied".toList)
      return if called.contains '/' then 126 else 127

/-- Carries out what has been set for signals that have come. -/
def runPending (fuel : Nat) : Effect Unit :=
  match fuel with
  | 0 => throw .overdue
  | fuel + 1 => do
    let s ← get
    match s.pending with
    | [] => pure ()
    | action :: rest =>
      set { s with pending := rest }
      onSignal (runSource fuel .text { rest := action })
      runPending fuel

/-- Carries out a command with its arguments; its status. -/
def runCommand (fuel : Nat) (name : Chars) (args : List Chars) : Effect Nat :=
  match fuel with
  | 0 => throw .overdue
  | fuel + 1 => do
    match String.ofList name, args with
    | "eval", _ => naming name do
      setStatus 0
      nested (runSource fuel .text { rest := List.intercalate [' '] args })
      return (← get).status
    | ".", [] => return 0
    | ".", file :: _ => naming name do
      let text ← scriptOf file
      setStatus 0
      naming file (functionBody (nested (runSource fuel .file { rest := text })))
      return (← get).status
    | "exec", [] => return 0
    | "exec", called :: args => naming name do
      match ← find called with
      | .program _ program => throw (.exit (← runProgram fuel program called args))
      | .missing =>
        complain (called ++ ": not found".toList)
        throw (.exit 127)
      | .denied =>
        complain (called ++ ": Permission denied".toList)
        throw (.exit 126)
    | "command", _ => mayFail do
      let (options, operands) ← naming name (Builtin.takeOptions "pvV" args)
      let asked := options.filter (·.letter != 'p')
      match operands with
      | [] => return 0
      | target :: args =>
        if asked.isEmpty then
          if options.isEmpty || Builtin.isName target then runCommand fuel target args
          else runFound fuel target (← findUsual target) args
        else naming name (describe (!Builtin.gives 'V' asked) target)
    | "type", _ => naming name (describeAll args)
    | text, _ => match Builtin.run? text args with
      | some body =>
        if Builtin.special.contains text then naming name body
        else mayFail (naming name body)
      | none => do runFound fuel name (← find name) args

/-- Calls a function with arguments. -/
def callFunction (fuel : Nat) (tested : Bool) (body : Statement) (args : List Chars) :
    Effect Unit :=
  match fuel with
  | 0 => throw .overdue
  | fuel + 1 => do
    let s ← get
    set { s with args, frames := {} :: s.frames, loops := 0, place := {} }
    ensuring (functionBody (runStatement fuel tested body)) fun t =>
      restoreFrame (t.frames.head?.getD {})
        { t with args := s.args, frames := s.frames, loops := s.loops, place := s.place }

/-- Gives values to variables; the values. -/
def assignAll (fuel : Nat) (exporting : Bool) :
    List (Chars × Word) → Effect (List (Chars × Chars)) :=
  match fuel with
  | 0 => fun _ => throw .overdue
  | fuel + 1 => fun assignments => match assignments with
    | [] => pure []
    | (name, word) :: rest => do
      let value ← expandValue (runOutput fuel) fuel word
      assign name value
      if exporting then
        putVariable name (((← get).bindings.lookup name).map fun v => { v with exported := true })
      return (name, value) :: (← assignAll fuel exporting rest)

/-- Carries out a simple statement. -/
def runSimple (fuel : Nat) (tested : Bool) (assignments : List (Chars × Word))
    (words : List Word) (redirections : List Redirection) : Effect Unit :=
  match fuel with
  | 0 => throw .overdue
  | fuel + 1 => do
    modify fun s => { s with outputStatus := 0 }
    let fields ← expandFields (runOutput fuel) fuel Builtin.declares [] words
    let s ← get
    let isSpecial := (fields.head?.map (Builtin.special.contains <| String.ofList ·)).getD false
    let isLocal := !fields.isEmpty && !isSpecial
    let saved := assignments.map fun (name, _) => (name, s.bindings.lookup name)
    let restored (t : State) : State :=
      let t := if fields == ["exec".toList] then t else { t with descriptors := s.descriptors }
      if isLocal then restoreVariables saved t else t
    ensuring (do
      if ← redirectAll (expandText (runOutput fuel) fuel) redirections then
        let values ← assignAll fuel isLocal assignments
        trace s.descriptors values fields
        match fields with
        | [] => setStatus (← get).outputStatus
        | name :: args => match s.functions.lookup name with
          | some body => callFunction fuel tested body args
          | none => setStatus (← runCommand fuel name args)
      else
        setStatus 2
        if isSpecial then throw .failed) restored

/-- Carries out the stages of a pipeline, each with the output of the one before. -/
def runStages (fuel : Nat) (input : Option Chars) (stages : List Statement) : Effect Unit :=
  match fuel with
  | 0 => throw .overdue
  | fuel + 1 => do
    let feed : Effect Unit := match input with
      | some text => do connect 0 (← openChannel (.source text))
      | none => pure ()
    match stages with
    | [] => pure ()
    | [last] => inSubshell (runToEnd fuel do
        feed
        runStatement fuel false last)
    | stage :: rest =>
      let sink ← openChannel (.sink [])
      inSubshell (runToEnd fuel do
        feed
        connect 1 sink
        runStatement fuel false stage)
      runStages fuel (some (← collected sink)) rest

/-- Carries out a loop; `last` is the status of its body so far. -/
def runLoop (fuel : Nat) (untilTrue : Bool) (test body : Statement) (tested : Bool) (last : Nat) :
    Effect Unit :=
  match fuel with
  | 0 => throw .overdue
  | fuel + 1 => do
    let holds : Effect Bool := do
      runStatement fuel true test
      return ((← get).status == 0) != untilTrue
    let goesOn ← loopBody do
      if ← holds then runStatement fuel tested body
      else
        setStatus last
        throw (.leave 1)
    if goesOn then runLoop fuel untilTrue test body tested (← get).status

/-- Carries out the body of a loop for each of some words. -/
def runEach (fuel : Nat) (name : Chars) (words : List Chars) (body : Statement)
    (tested : Bool) : Effect Unit :=
  match fuel with
  | 0 => throw .overdue
  | fuel + 1 => match words with
    | [] => pure ()
    | word :: rest => do
      assign name word
      if ← loopBody (runStatement fuel tested body) then runEach fuel name rest body tested

/-- Carries out the first arm with a pattern that fits. -/
def runArms (fuel : Nat) (subject : Chars) (arms : List (List Word × Statement))
    (tested : Bool) : Effect Unit :=
  match fuel with
  | 0 => throw .overdue
  | fuel + 1 => match arms with
    | [] => setStatus 0
    | ([], _) :: rest => runArms fuel subject rest tested
    | (word :: words, body) :: rest => do
      let pattern ← expandPattern (runOutput fuel) fuel word
      if pattern.fits subject then
        setStatus 0
        runStatement fuel tested body
      else runArms fuel subject ((words, body) :: rest) tested

/-- Carries out a statement. Failures of a statement that is `tested` do not end the shell. -/
def runStatement (fuel : Nat) (tested : Bool) (statement : Statement) : Effect Unit :=
  match fuel with
  | 0 => throw .overdue
  | fuel + 1 => do
    if (← get).has .noexec then return
    match statement with
    | .empty => pure ()
    | .simple line assignments words redirections => do
      modify fun s => { s with line }
      runSimple fuel tested assignments words redirections
      runPending fuel
      checkFailure tested
    | .pipeline stages => do
      runStages fuel none stages
      checkFailure tested
    | .negation body => do
      runStatement fuel true body
      setStatus (if (← get).status = 0 then 1 else 0)
    | .both first second => do
      runStatement fuel true first
      if (← get).status = 0 then runStatement fuel tested second
    | .either first second => do
      runStatement fuel true first
      if (← get).status ≠ 0 then runStatement fuel tested second
    | .sequence first second => do
      runStatement fuel tested first
      runStatement fuel tested second
    | .background body => do
      inSubshell (runToEnd fuel do
        connect 0 (← openChannel (.source []))
        runStatement fuel false body)
      modify fun s => { s with jobs := s.status :: s.jobs, status := 0 }
    | .subshell body => do
      inSubshell (runToEnd fuel (runStatement fuel tested body))
      checkFailure tested
    | .choice test yes no => do
      runStatement fuel true test
      if (← get).status = 0 then runStatement fuel tested yes
      else
        setStatus 0
        runStatement fuel tested no
    | .loop untilTrue test body => runLoop fuel untilTrue test body tested 0
    | .forEach name words body => do
      let fields ← match words with
        | some words => expandFields (runOutput fuel) fuel (fun _ => false) [] words
        | none => do pure (← get).args
      setStatus 0
      runEach fuel name fields body tested
    | .select subject arms => do
      let text ← expandText (runOutput fuel) fuel subject
      runArms fuel text arms tested
    | .function name body => do
      modify fun s => { s with
        functions := (name, body) :: s.functions.filter (·.1 != name), status := 0 }
    | .redirected line body redirections => do
      modify fun s => { s with line }
      let s ← get
      ensuring (do
        if ← redirectAll (expandText (runOutput fuel) fuel) redirections then
          runStatement fuel tested body
        else setStatus 2) fun t => { t with descriptors := s.descriptors }

end

end Effect

end RouteLens.Shell
