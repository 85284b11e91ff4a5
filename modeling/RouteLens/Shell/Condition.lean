import RouteLens.Shell.Program

/-!
# Conditions

What `test` finds out about texts, numbers and files.
-/

namespace RouteLens.Shell

/-- Why a condition has no answer. -/
inductive ConditionError
  | unexpectedOperator (word : Chars)
  | argumentExpected (word : Chars)
  | closingExpected
  | illegalNumber (text : Chars)

namespace ConditionError

/-- The wording of an error. -/
def message : ConditionError → Chars
  | unexpectedOperator word => word ++ ": unexpected operator".toList
  | argumentExpected word => word ++ ": argument expected".toList
  | closingExpected => "closing paren expected".toList
  | illegalNumber text => "Illegal number: ".toList ++ text

end ConditionError

namespace Condition

/-- The signs with one operand. -/
def isUnary (word : Chars) : Bool :=
  match word with
  | ['-', c] => "rwxefdcbpugkhLStznOGs".toList.contains c
  | _ => false

/-- The signs between two operands. -/
def isBinary (word : Chars) : Bool :=
  ["=", "!=", "<", ">", "-eq", "-ne", "-gt", "-ge", "-lt", "-le", "-nt", "-ot", "-ef"].contains
    (String.ofList word)

/-- The path that an operand means. -/
def pathOf (s : State) (operand : Chars) : Path :=
  if operand.isEmpty then [] else Path.join s.dir (Chars.toBytes operand)

/-- The answer of a sign with one operand. -/
def unary (s : State) (letter : Char) (operand : Chars) : Bool :=
  let path := pathOf s operand
  let place := (s.files.resolve path).toOption
  let entry : Option Entry := place.bind s.files.entry?
  let itself : Option Entry := match s.files.placeItself path with
    | .ok place => s.files.entry? place
    | .error _ => none
  match letter with
  | 'n' => !operand.isEmpty
  | 'z' => operand.isEmpty
  | 'd' => entry = some .directory
  | 'f' => match entry with
    | some (.file _) => place ≠ some Program.nothingPlace
    | _ => false
  | 's' => match entry with
    | some (.file content) => !content.isEmpty
    | some .directory => true
    | _ => false
  | 'x' => entry = some .directory || (place.bind Program.ofPlace?).isSome
  | 'c' => place = some Program.nothingPlace
  | 'h' => isLink itself
  | 'L' => isLink itself
  | 'e' => entry.isSome
  | 'r' => entry.isSome
  | 'w' => entry.isSome
  | 'O' => entry.isSome
  | 'G' => entry.isSome
  | _ => false
where
  isLink : Option Entry → Bool
    | some (.link _) => true
    | _ => false

/-- The number that an operand is, in base ten. -/
def number (operand : Chars) : Except ConditionError Int :=
  match Expression.decimal? operand with
  | some n => .ok n
  | none => .error (.illegalNumber operand)

/-- The answer of a sign between two operands. -/
def binary (s : State) (left sign right : Chars) : Except ConditionError Bool :=
  let compare (test : Int → Int → Bool) : Except ConditionError Bool := do
    let a ← number left
    let b ← number right
    return test a b
  match String.ofList sign with
  | "=" => .ok (left == right)
  | "!=" => .ok (left != right)
  | "<" => .ok (left < right)
  | ">" => .ok (right < left)
  | "-eq" => compare (· == ·)
  | "-ne" => compare (· != ·)
  | "-gt" => compare (· > ·)
  | "-ge" => compare (· ≥ ·)
  | "-lt" => compare (· < ·)
  | "-le" => compare (· ≤ ·)
  | "-ef" => .ok (match s.files.resolve (pathOf s left), s.files.resolve (pathOf s right) with
    | .ok a, .ok b => a = b
    | _, _ => false)
  | _ => .ok false

/-- What is left of a condition: the word taken last, and those to come. -/
structure Rest where
  last : Chars
  words : List Chars

/-- Whether the first word of a condition is a sign with one operand rather than an operand. -/
def startsUnary : List Chars → Bool
  | word :: _ :: [] => isUnary word
  | word :: _ :: third :: _ => isUnary word && !isBinary third
  | _ => false

mutual

/-- The answer of a condition that stands by itself. -/
def single (s : State) (fuel : Nat) (words : List Chars) : Except ConditionError (Bool × Rest) :=
  match fuel, words with
  | 0, _ => .ok (false, ⟨[], []⟩)
  | _, [] => .ok (false, ⟨[], []⟩)
  | fuel + 1, word :: rest =>
    if word == ['!'] && !rest.isEmpty then do
      let (answer, rest) ← single s fuel rest
      return (!answer, rest)
    else if word == ['('] && !rest.isEmpty then do
      let (answer, rest) ← disjunction s fuel rest
      match rest.words with
      | [')'] :: after => return (answer, ⟨[')'], after⟩)
      | _ => throw .closingExpected
    else if startsUnary words then match rest with
      | operand :: after => return (unary s ((word[1]?).getD ' ') operand, ⟨operand, after⟩)
      | [] => throw (.argumentExpected word)
    else match rest with
      | sign :: after =>
        if isBinary sign then match after with
          | right :: after => return (← binary s word sign right, ⟨right, after⟩)
          | [] => throw (.argumentExpected sign)
        else return (!word.isEmpty, ⟨word, rest⟩)
      | [] => return (!word.isEmpty, ⟨word, []⟩)

/-- The answer of conditions that must all hold. -/
def conjunction (s : State) (fuel : Nat) (words : List Chars) :
    Except ConditionError (Bool × Rest) :=
  match fuel with
  | 0 => .ok (false, ⟨[], []⟩)
  | fuel + 1 => do
    let (answer, rest) ← single s fuel words
    match rest.words with
    | ['-', 'a'] :: after =>
      let (other, rest) ← conjunction s fuel after
      return (answer && other, rest)
    | _ => return (answer, rest)

/-- The answer of conditions one of which must hold. -/
def disjunction (s : State) (fuel : Nat) (words : List Chars) :
    Except ConditionError (Bool × Rest) :=
  match fuel with
  | 0 => .ok (false, ⟨[], []⟩)
  | fuel + 1 => do
    let (answer, rest) ← conjunction s fuel words
    match rest.words with
    | ['-', 'o'] :: after =>
      let (other, rest) ← disjunction s fuel after
      return (answer || other, rest)
    | _ => return (answer, rest)

end

/-- The answer of a condition that all words make. -/
def eval (s : State) (words : List Chars) : Except ConditionError Bool := do
  let fuel := 4 * words.length + 4
  let (answer, rest) ← match words with
    | [] => pure (false, ⟨[], []⟩)
    | [left, sign, right] =>
      if isBinary sign then pure (← binary s left sign right, ⟨right, []⟩)
      else disjunction s fuel words
    | _ => disjunction s fuel words
  if rest.words.isEmpty then return answer else throw (.unexpectedOperator rest.last)

end Condition

end RouteLens.Shell
