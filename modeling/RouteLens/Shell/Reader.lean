import RouteLens.Shell.Token

/-!
# Reading statements

The grammar of scripts. A script is read one line of statements at a time, as far as a line needs;
what comes later is not looked at before the statements have been carried out.
-/

namespace RouteLens.Shell

/-- Why reading stopped, and on which line. -/
structure ScriptFault where
  line : Nat
  error : ScriptError

/-- Reading of a script. -/
abbrev Reader := StateT Source (Except ScriptFault)

namespace Reader

/-- The next token; with `newlines` ends of lines are skipped before it, with `start` reserved
words have their meaning. -/
def scan (start newlines : Bool) (s : Source) : Except ScriptFault (Token × Source) :=
  let s := Source.skip newlines false s.line s.skipped s.rest
  match s.token with
  | .ok (token, left) => .ok (if start then token.asReserved else token, left)
  | .error error => .error ⟨Source.lineAfter s.line s.rest, error⟩

/-- Takes the next token. -/
def next (start newlines : Bool) : Reader Token := do
  let (token, left) ← scan start newlines (← get)
  set left
  return token

/-- Looks at the next token; ends of lines that are skipped stay skipped. -/
def peek (start newlines : Bool) : Reader Token := do
  let s ← get
  let s := Source.skip newlines false s.line s.skipped s.rest
  set s
  let (token, _) ← scan start newlines s
  return token

/-- Stops with an error on the current line. -/
def fail {α : Type} (error : ScriptError) : Reader α := do
  throw ⟨(← get).line, error⟩

/-- Stops at a token that cannot stand here. -/
def unexpected {α : Type} (token : Token) (expected : Option String) : Reader α :=
  fail (.unexpected token.description expected)

/-- Takes a token that must be the reserved word. -/
def expectReserved (name : String) : Reader Unit := do
  let token ← next true false
  unless token.isReserved name do unexpected token (some ("\"" ++ name ++ "\""))

/-- Takes a token that must be the sign. -/
def expectSign (text : String) : Reader Unit := do
  let token ← next false false
  unless token.isSign text do unexpected token (some ("\"" ++ text ++ "\""))

/-- The target of a redirection with a sign. -/
def target (sign : String) (word : Word) : Reader Target :=
  match sign with
  | "<" => pure (.read word)
  | ">>" => pure (.append word)
  | "<>" => pure (.readWrite word)
  | ">|" => pure (.overwrite word)
  | "<&" => pure (.duplicate word)
  | ">&" => pure (.duplicate word)
  | "<<" => document false
  | "<<-" => document true
  | _ => pure (.write word)
where
  document (tabs : Bool) : Reader Target := do
    let delimiter := word.flatMap fun
      | .text _ chars => chars
      | _ => []
    let s ← get
    let (body, left) := Source.takeDocument tabs delimiter s
    set left
    if word.hasQuotes then return .document [.text true body]
    else match wordOf .document (s.line + s.skipped + 1) body with
      | .ok parts => return .document parts
      | .error error => fail error

/-- Takes the redirection with a sign that has just been taken. -/
def redirection (descriptor : Option Nat) (sign : String) : Reader Redirection := do
  match ← next false false with
  | .word parts =>
    let standard := if sign.toList.head? == some '<' then 0 else 1
    return ⟨descriptor.getD standard, ← target sign parts⟩
  | token => unexpected token none

/-- Takes a redirection if there is one. -/
def redirection? : Reader (Option Redirection) := do
  match ← peek false false with
  | .descriptor number =>
    let _ ← next false false
    match ← next false false with
    | .sign text => return some (← redirection (some number) text)
    | token => unexpected token none
  | .sign text =>
    if Token.isRedirection text then
      let _ ← next false false
      return some (← redirection none text)
    else return none
  | _ => return none

/-- Takes all redirections that follow. -/
def redirections (fuel : Nat) : Reader (List Redirection) :=
  match fuel with
  | 0 => pure []
  | fuel + 1 => do
    match ← redirection? with
    | some r => return r :: (← redirections fuel)
    | none => return []

/-- Takes words up to the end of a line or a semicolon. -/
def loopWords (fuel : Nat) : Reader (List Word) :=
  match fuel with
  | 0 => pure []
  | fuel + 1 => do
    match ← next false false with
    | .word parts => return parts :: (← loopWords fuel)
    | .newline => return []
    | token => if token.isSign ";" then return [] else unexpected token none

/-- Takes the patterns of an arm, the first of which has just been taken. -/
def patterns (fuel : Nat) (first : Token) : Reader (List Word) :=
  match fuel with
  | 0 => pure []
  | fuel + 1 => do
    let pattern := match first with
      | .word parts => parts
      | .reserved name => [.text false name.toList]
      | _ => []
    match ← next false false with
    | token =>
      if token.isSign "|" then return pattern :: (← patterns fuel (← next false false))
      else if token.isSign ")" then return [pattern]
      else unexpected token (some "\")\"")

/-- Joins a statement and those after it. -/
def sequence (first : Statement) : Statement → Statement
  | .empty => first
  | rest => .sequence first rest

mutual

/-- Takes a simple statement from its next part on. -/
def simple (fuel : Nat) (line : Nat) (assignments : List (Chars × Word)) (words : List Word)
    (redirected : List Redirection) : Reader Statement :=
  match fuel with
  | 0 => pure .empty
  | fuel + 1 => do
    match ← redirection? with
    | some r => simple fuel line assignments words (redirected ++ [r])
    | none => match ← peek false false with
      | .word parts =>
        let _ ← next false false
        match words.isEmpty, parts.assignment? with
        | true, some a => simple fuel line (assignments ++ [a]) words redirected
        | _, _ => simple fuel line assignments (words ++ [parts]) redirected
      | token =>
        if token.isSign "(" && words.length == 1 && assignments.isEmpty && redirected.isEmpty then
          let _ ← next false false
          expectSign ")"
          match words.head?.bind Word.plain? with
          | some name =>
            if isName name then return .function name (← command fuel true)
            else fail .badFunctionName
          | none => fail .badFunctionName
        else return .simple line assignments words redirected

/-- Takes the rest of a choice after its first test has been announced. -/
def choice (fuel : Nat) : Reader Statement :=
  match fuel with
  | 0 => pure .empty
  | fuel + 1 => do
    let test ← list fuel false
    expectReserved "then"
    let yes ← list fuel false
    let token ← peek true false
    if token.isReserved "elif" then
      let _ ← next true false
      return .choice test yes (← choice fuel)
    else if token.isReserved "else" then
      let _ ← next true false
      let no ← list fuel false
      expectReserved "fi"
      return .choice test yes no
    else
      expectReserved "fi"
      return .choice test yes .empty

/-- Takes the arms of a selection. -/
def arms (fuel : Nat) : Reader (List (List Word × Statement)) :=
  match fuel with
  | 0 => pure []
  | fuel + 1 => do
    let token ← next true true
    if token.isReserved "esac" then return []
    else
      let first ← if token.isSign "(" then next false false else pure token
      let patterns ← patterns fuel first
      let body ← list fuel true
      let token ← next true true
      if token.isReserved "esac" then return [(patterns, body)]
      else if token.isSign ";;" then return (patterns, body) :: (← arms fuel)
      else unexpected token (some "\";;\"")

/-- Takes a statement that is no list. -/
def command (fuel : Nat) (newlines : Bool) : Reader Statement :=
  match fuel with
  | 0 => pure .empty
  | fuel + 1 => do
    let compound (statement : Statement) : Reader Statement := do
      let line := (← get).line
      match ← redirections fuel with
      | [] => return statement
      | rs => return .redirected line statement rs
    match ← peek true newlines with
    | .word _ => simple fuel (← get).line [] [] []
    | .descriptor _ => simple fuel (← get).line [] [] []
    | .sign "(" =>
      let _ ← next true false
      let body ← list fuel false
      expectSign ")"
      compound (.subshell body)
    | .sign text =>
      if Token.isRedirection text then simple fuel (← get).line [] [] []
      else unexpected (.sign text) none
    | .reserved "if" =>
      let _ ← next true false
      compound (← choice fuel)
    | .reserved "while" =>
      let _ ← next true false
      compound (← loop fuel false)
    | .reserved "until" =>
      let _ ← next true false
      compound (← loop fuel true)
    | .reserved "for" =>
      let _ ← next true false
      match ← next false false with
      | .word parts => match Word.plain? parts with
        | some name =>
          if isName name then
            let token ← peek true true
            let words ← if token.isReserved "in" then do
                let _ ← next true false
                pure (some (← loopWords fuel))
              else do
                if token.isSign ";" then let _ ← next true false
                pure none
            let _ ← peek true true
            expectReserved "do"
            let body ← list fuel false
            expectReserved "done"
            compound (.forEach name words body)
          else fail .badLoopVariable
        | none => fail .badLoopVariable
      | _ => fail .badLoopVariable
    | .reserved "case" =>
      let _ ← next true false
      match ← next false false with
      | .word subject =>
        let _ ← peek true true
        expectReserved "in"
        compound (.select subject (← arms fuel))
      | token => unexpected token (some "word")
    | .reserved name =>
      if name == "\x7b" then
        let _ ← next true false
        let body ← list fuel false
        expectReserved "\x7d"
        compound body
      else unexpected (.reserved name) none
    | _ => unexpected (← next true newlines) none

/-- Takes the test and the body of a loop. -/
def loop (fuel : Nat) (untilTrue : Bool) : Reader Statement :=
  match fuel with
  | 0 => pure .empty
  | fuel + 1 => do
    let test ← list fuel false
    expectReserved "do"
    let body ← list fuel false
    expectReserved "done"
    return .loop untilTrue test body

/-- Takes the stages of a pipeline. -/
def stages (fuel : Nat) (newlines : Bool) : Reader (List Statement) :=
  match fuel with
  | 0 => pure []
  | fuel + 1 => do
    let first ← command fuel newlines
    if (← peek false false).isSign "|" then
      let _ ← next false false
      return first :: (← stages fuel true)
    else return [first]

/-- Takes a pipeline. -/
def pipeline (fuel : Nat) (newlines : Bool) : Reader Statement :=
  match fuel with
  | 0 => pure .empty
  | fuel + 1 => do
    let negated := (← peek true newlines).isReserved "!"
    if negated then let _ ← next true newlines
    let body ← match ← stages fuel (newlines && !negated) with
      | [single] => pure single
      | many => pure (.pipeline many)
    return if negated then .negation body else body

/-- Takes the pipelines that follow one with `&&` and `||`. -/
def connected (fuel : Nat) (first : Statement) : Reader Statement :=
  match fuel with
  | 0 => pure first
  | fuel + 1 => do
    let token ← peek false false
    if token.isSign "&&" then
      let _ ← next false false
      connected fuel (.both first (← pipeline fuel true))
    else if token.isSign "||" then
      let _ ← next false false
      connected fuel (.either first (← pipeline fuel true))
    else return first

/-- Takes a list of statements up to what ends it; unless it `mayEnd` at once, it has one. -/
def list (fuel : Nat) (mayEnd : Bool) : Reader Statement :=
  match fuel with
  | 0 => pure .empty
  | fuel + 1 => do
    let token ← peek true true
    match token with
    | .fileEnd => return .empty
    | _ =>
      if mayEnd && token.endsList then return .empty
      else
        let first ← connected fuel (← pipeline fuel true)
        let token ← peek false false
        if token.isSign "&" then
          let _ ← next false false
          return sequence (.background first) (← list fuel true)
        else if token.isSign ";" then
          let _ ← next false false
          return sequence first (← list fuel true)
        else match token with
          | .newline => return sequence first (← list fuel true)
          | _ => return first

end

/-- Takes the statements up to the end of the line. -/
def line (fuel : Nat) : Reader Statement :=
  match fuel with
  | 0 => pure .empty
  | fuel + 1 => do
    match ← peek true false with
    | .fileEnd => return .empty
    | .newline =>
      let _ ← next false false
      return .empty
    | _ =>
      let first ← connected fuel (← pipeline fuel false)
      let token ← peek false false
      if token.isSign "&" then
        let _ ← next false false
        return sequence (.background first) (← line fuel)
      else if token.isSign ";" then
        let _ ← next false false
        return sequence first (← line fuel)
      else match token with
        | .newline => return sequence first (← line fuel)
        | .fileEnd => return first
        | token => unexpected token none

end Reader

/-- The next line of statements of a script and what is left; none at the end. -/
def Source.nextLine (s : Source) : Except ScriptFault (Option (Statement × Source)) :=
  let s := Source.skip false false s.line s.skipped s.rest
  if s.rest.isEmpty then .ok none
  else some <$> (Reader.line (8 * s.rest.length + 8)).run s

end RouteLens.Shell
