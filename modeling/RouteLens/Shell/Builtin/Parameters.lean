import RouteLens.Shell.Builtin.Variables

/-!
# Arguments and settings of a shell

The commands that replace the arguments of a script, switch settings, and find the options among
arguments.
-/

namespace RouteLens.Shell

namespace Builtin

open Effect

/-- Switches a setting. -/
def switch (on : Bool) (setting : Setting) : Effect Unit :=
  modify fun s => { s with settings := Setting.switch setting on s.settings }

/-- Switches the setting that the next argument names, or lists all settings if there is none. -/
def switchNamed (on : Bool) : List Chars → Effect (List Chars)
  | [] => do
    let s ← get
    let _ ← print (if on then Setting.listing s.settings else Setting.commands s.settings)
    return []
  | name :: rest => do
    match Setting.ofName? name with
    | some setting =>
      switch on setting
      return rest
    | none => fatal ("Illegal option -o ".toList ++ name)

/-- What a shell has been asked for besides settings, and the arguments that are left. -/
structure Switched where
  args : List Chars
  /-- Whether two dashes have ended the options. -/
  ended : Bool := false
  /-- Whether the next argument is a script, as it can be where a shell is started. -/
  takesScript : Bool := false

/-- Switches what letters mean. -/
def switchLetters (starting on : Bool) (result : Switched) : Chars → Effect Switched
  | [] => return result
  | 'o' :: letters => do
    switchLetters starting on { result with args := ← switchNamed on result.args } letters
  | letter :: letters => do
    if letter == 'c' && starting then
      switchLetters starting on { result with takesScript := true } letters
    else match Setting.ofLetter? letter with
      | some setting =>
        switch on setting
        switchLetters starting on result letters
      | none => fatal ("Illegal option -".toList ++ [letter])

/-- Switches what the options among arguments mean. -/
def switchAll (fuel : Nat) (starting : Bool) (result : Switched) : Effect Switched :=
  match fuel with
  | 0 => return result
  | fuel + 1 => match result.args with
    | ['-'] :: rest => do
      if !starting then
        switch false .xtrace
        switch false .verbose
      return { result with args := rest }
    | ['-', '-'] :: rest => return { result with args := rest, ended := true }
    | ('-' :: letters) :: rest => do
      switchAll fuel starting
        (← switchLetters starting true { result with args := rest } letters)
    | ('+' :: letters) :: rest => do
      switchAll fuel starting
        (← switchLetters starting false { result with args := rest } letters)
    | _ => return result

/-- Replaces the arguments of the script. -/
def replaceArguments (args : List Chars) : Effect Unit :=
  modify fun s => { s with args, place := {} }

/-- Switches settings, and replaces the arguments of the script by those that follow; without any
arguments, lists the variables. -/
def setAll (args : List Chars) : Effect Nat := do
  if args.isEmpty then
    print (variableListing [] ((← get).bindings.filter fun (_, v) => v.value.isSome))
  else
    let result ← switchAll (args.length + 1) false { args }
    if result.ended || !result.args.isEmpty then replaceArguments result.args
    return 0

/-- Drops the first arguments of the script. -/
def shift (args : List Chars) : Effect Nat := do
  let n ← match args with
    | [] => pure 1
    | arg :: _ => number arg
  if n > (← get).args.length then fatal "can't shift that many".toList
  else
    replaceArguments ((← get).args.drop n)
    return 0

/-- What stands where the next option is looked for: the letters that are left of an argument that
has been begun, or else those of the next argument, and the arguments after it; none at the end of
the options, with whether that is an argument of its own. -/
def nextLetters (place : OptionPlace) (args : List Chars) :
    Except Bool (Chars × List Chars) :=
  let begun := match place.offset with
    | some offset => if 1 < place.index then ((args[place.index - 2]?).getD []).drop offset else []
    | none => []
  let rest := args.drop (place.index - 1)
  if !begun.isEmpty then .ok (begun, rest)
  else match rest with
    | ['-', '-'] :: _ => .error true
    | ('-' :: c :: letters) :: rest => .ok (c :: letters, rest)
    | _ => .error false

/-- Finds the next option among arguments. -/
def findOption (known name : Chars) (args : List Chars) : Effect Nat := do
  let s ← get
  let place := if s.place.index > args.length + 1 then {} else s.place
  let quiet := known.head? == some ':'
  let argument (value : Option Chars) : Effect Unit := match value with
    | some value => assign "OPTARG".toList value
    | none => putVariable "OPTARG".toList none
  let finish (letter : Char) (left : Option (List Chars × Chars)) (index : Nat) : Effect Unit := do
    assign "OPTIND".toList (Chars.ofInt index)
    checkName name
    assign name [letter]
    let offset := match left with
      | some (rest, letters) =>
        (args[args.length - rest.length - 1]?).map fun arg => arg.length - letters.length
      | none => none
    modify fun s => { s with place := { index, offset } }
  match nextLetters place args with
  | .error counts => do
    finish '?' none (if counts then place.index + 1 else place.index)
    return 1
  | .ok ([], _) => return 1
  | .ok (letter :: letters, rest) => do
    let indexOf (rest : List Chars) : Nat := args.length - rest.length + 1
    let refuse (text : String) (answer : Char) : Effect Unit := do
      if quiet then argument (some [letter])
      else
        let _ ← write 2 text.toList
        argument none
      finish answer (some (rest, letters)) (indexOf rest)
    match (if quiet then known.drop 1 else known).dropWhile (· != letter) with
    | [] => refuse ("Illegal option -" ++ String.ofList [letter, '\n']) '?'
    | _ :: ':' :: _ =>
      if !letters.isEmpty then
        argument (some letters)
        finish letter none (indexOf rest)
      else match rest with
        | value :: rest =>
          argument (some value)
          finish letter none (indexOf rest)
        | [] =>
          let answer := if quiet then ':' else '?'
          refuse ("No arg for -" ++ String.ofList (letter :: " option\n".toList)) answer
    | _ =>
      argument (some [])
      finish letter (some (rest, letters)) (indexOf rest)
    return 0

/-- Finds the next option among arguments, or those of the script. -/
def nextOption (args : List Chars) : Effect Nat := do
  match (← takeOptions "" args).2 with
  | [known, name] => findOption known name (← get).args
  | known :: name :: args => findOption known name args
  | _ => fatal "Usage: getopts optstring var [arg...]".toList

end Builtin

end RouteLens.Shell
