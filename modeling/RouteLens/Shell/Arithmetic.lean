import RouteLens.Shell.Word

/-!
# Arithmetic

Integer expressions of scripts, with 64 bits, and with variables that they may change.
-/

namespace RouteLens.Shell

/-- Why an expression has no value. -/
inductive ArithmeticError
  | expectingPrimary
  | expectingEnd
  | expectingParenthesis
  | divisionByZero
  | illegalNumber (text : Chars)
  deriving DecidableEq, Repr

namespace ArithmeticError

/-- The wording of an error in an expression. -/
def message (expression : Chars) : ArithmeticError → Chars
  | expectingPrimary => within "expecting primary"
  | expectingEnd => within "expecting EOF"
  | expectingParenthesis => within "expecting ')'"
  | divisionByZero => within "division by zero"
  | illegalNumber text => "Illegal number: ".toList ++ text
where
  within (cause : String) : Chars :=
    ("arithmetic expression: " ++ cause ++ ": \"").toList ++ expression ++ [quotation]

end ArithmeticError

/-- An expression. -/
inductive Expression
  | number (n : Int)
  | content (name : Chars)
  | unary (sign : Char) (operand : Expression)
  | binary (sign : String) (left right : Expression)
  /-- An assignment; with a sign, of the variable combined with the value. -/
  | assign (name : Chars) (sign : String) (value : Expression)
  | choice (test yes no : Expression)

namespace Expression

/-- How many integers 64 bits hold. -/
def modulus : Nat := 0x10000000000000000

/-- An integer as 64 bits hold it. -/
def wrap (n : Int) : Int :=
  n.bmod modulus

/-- The value of digits in a base, and the text after them. -/
def digits (base : Nat) (value : Nat) : Chars → Nat × Chars
  | [] => (value, [])
  | c :: rest =>
    let digit :=
      if c.isDigit then c.toNat - '0'.toNat
      else if c.isLower then c.toNat - 'a'.toNat + 10
      else if c.isUpper then c.toNat - 'A'.toNat + 10
      else base
    if digit < base then digits base (value * base + digit) rest else (value, c :: rest)

/-- The number at the start of a text, which starts with a digit: `0x` and `0` tell its base. -/
def readNumber (text : Chars) : Nat × Chars :=
  match text with
  | '0' :: 'x' :: rest => digits 16 0 rest
  | '0' :: 'X' :: rest => digits 16 0 rest
  | '0' :: rest => digits 8 0 rest
  | _ => digits 10 0 text

/-- The greatest integer of 64 bits. -/
def greatest : Int := 0x7fffffffffffffff

/-- The least integer of 64 bits. -/
def least : Int := -greatest - 1

/-- Whether numbers may stand after the character, and before it. -/
def isSpace (c : Char) : Bool :=
  " \t\n\x0b\x0c\x0d".toList.contains c

/-- The integer of 64 bits that all of a text is, apart from its sign and spaces around it, with
the number at the start of its digits as `readDigits` reads it. -/
def integer? (readDigits : Chars → Nat × Chars) (text : Chars) : Option Int :=
  let text := text.dropWhile isSpace
  let (negative, text) := match text with
    | '-' :: rest => (true, rest)
    | '+' :: rest => (false, rest)
    | _ => (false, text)
  let (n, after) := readDigits text
  let value : Int := if negative then -(n : Int) else n
  if (text.head?.map Char.isDigit).getD false && after.all isSpace && least ≤ value &&
      value ≤ greatest then some value
  else none

/-- The integer that a text is, in the base that it tells; nothing but spaces is zero. -/
def ofText? (text : Chars) : Option Int :=
  if text.all isSpace then some 0 else integer? readNumber text

/-- The integer that a text is in base ten. -/
def decimal? (text : Chars) : Option Int :=
  integer? (digits 10 0) text

/-- The text without the blanks that it starts with. -/
def skipBlanks (text : Chars) : Chars :=
  text.dropWhile fun c => " \t\n".toList.contains c

/-- The binary signs by how tightly they bind, loosest first. -/
def levels : List (List String) :=
  [["||"], ["&&"], ["|"], ["^"], ["&"], ["==", "!="], ["<=", ">=", "<", ">"], ["<<", ">>"],
    ["+", "-"], ["*", "/", "%"]]

/-- The signs that assign. -/
def assigning : List String :=
  ["=", "+=", "-=", "*=", "/=", "%=", "<<=", ">>=", "&=", "^=", "|="]

/-- All signs of more than one character, longer ones first. -/
def longSigns : List String :=
  ["<<=", ">>=", "||", "&&", "==", "!=", "<=", ">=", "<<", ">>", "+=", "-=", "*=", "/=", "%=",
    "&=", "^=", "|="]

/-- The sign at the start of a text, the longest that there is. -/
def sign (text : Chars) : String :=
  match longSigns.find? fun sign => sign.toList.isPrefixOf text with
  | some sign => sign
  | none => String.ofList (text.take 1)

mutual

/-- Reads an operand. -/
def readOperand (fuel : Nat) (text : Chars) : Except ArithmeticError (Expression × Chars) :=
  match fuel with
  | 0 => .error .expectingPrimary
  | fuel + 1 => match skipBlanks text with
    | [] => .error .expectingPrimary
    | c :: rest =>
      if c == '(' then do
        let (inside, after) ← readChoice fuel rest
        match skipBlanks after with
        | ')' :: after => .ok (inside, after)
        | _ => .error .expectingParenthesis
      else if ['-', '+', '!', '~'].contains c then do
        let (operand, after) ← readOperand fuel rest
        .ok (.unary c operand, after)
      else if c.isDigit then
        let (n, after) := readNumber (c :: rest)
        .ok (.number (min n greatest), after)
      else if isNameStart c then
        let name := (c :: rest).takeWhile isNameChar
        let after := (c :: rest).dropWhile isNameChar
        let sign := sign (skipBlanks after)
        if assigning.contains sign then do
          let (value, after) ← readChoice fuel ((skipBlanks after).drop sign.length)
          .ok (.assign name (String.ofList sign.toList.dropLast) value, after)
        else .ok (.content name, after)
      else .error .expectingPrimary

/-- Reads operands with binary signs of the levels. -/
def readLevel (fuel : Nat) (levels : List (List String)) (text : Chars) :
    Except ArithmeticError (Expression × Chars) :=
  match fuel with
  | 0 => .error .expectingPrimary
  | fuel + 1 => match levels with
    | [] => readOperand fuel text
    | signs :: tighter => do
      let (left, after) ← readLevel fuel tighter text
      readRest fuel signs tighter left after

/-- Reads the signs of a level and the operands behind them. -/
def readRest (fuel : Nat) (signs : List String) (tighter : List (List String))
    (left : Expression) (text : Chars) : Except ArithmeticError (Expression × Chars) :=
  match fuel with
  | 0 => .error .expectingPrimary
  | fuel + 1 =>
    let sign := sign (skipBlanks text)
    if signs.contains sign then do
      let (right, after) ← readLevel fuel tighter ((skipBlanks text).drop sign.length)
      readRest fuel signs tighter (.binary sign left right) after
    else .ok (left, text)

/-- Reads an expression. -/
def readChoice (fuel : Nat) (text : Chars) : Except ArithmeticError (Expression × Chars) :=
  match fuel with
  | 0 => .error .expectingPrimary
  | fuel + 1 => do
    let (test, after) ← readLevel fuel levels text
    match skipBlanks after with
    | '?' :: rest =>
      let (yes, after) ← readChoice fuel rest
      match skipBlanks after with
      | ':' :: rest =>
        let (no, after) ← readChoice fuel rest
        .ok (.choice test yes no, after)
      | _ => .error .expectingPrimary
    | _ => .ok (test, after)

end

/-- The expression that all of a text is. -/
def read (text : Chars) : Except ArithmeticError Expression := do
  let (expression, after) ← readChoice (16 * text.length + 32) text
  if (skipBlanks after).isEmpty then .ok expression else .error .expectingEnd

/-- A truth value as a number. -/
def ofBool (b : Bool) : Int :=
  if b then 1 else 0

/-- The result of a binary sign. -/
def combine (sign : String) (a b : Int) : Except ArithmeticError Int :=
  match sign with
  | "|" => .ok (bits (· ||| ·))
  | "^" => .ok (bits (· ^^^ ·))
  | "&" => .ok (bits (· &&& ·))
  | "==" => .ok (ofBool (a == b))
  | "!=" => .ok (ofBool (a != b))
  | "<" => .ok (ofBool (a < b))
  | ">" => .ok (ofBool (a > b))
  | "<=" => .ok (ofBool (a ≤ b))
  | ">=" => .ok (ofBool (a ≥ b))
  | "<<" => .ok (wrap (a * Nat.pow 2 (b % 64).toNat))
  | ">>" => .ok (a / Nat.pow 2 (b % 64).toNat)
  | "+" => .ok (wrap (a + b))
  | "-" => .ok (wrap (a - b))
  | "*" => .ok (wrap (a * b))
  | "/" => if b = 0 then .error .divisionByZero else .ok (wrap (a.tdiv b))
  | _ => if b = 0 then .error .divisionByZero else .ok (a.tmod b)
where
  bits (f : BitVec 64 → BitVec 64 → BitVec 64) : Int :=
    (f (BitVec.ofInt 64 a) (BitVec.ofInt 64 b)).toInt

/-- The values that variables have been given, newest first, and what they are otherwise. -/
structure Values where
  assigned : List (Chars × Int) := []
  texts : Chars → Chars

/-- The value of a variable. -/
def Values.get (values : Values) (name : Chars) : Except ArithmeticError Int :=
  match values.assigned.lookup name with
  | some n => .ok n
  | none =>
    let text := values.texts name
    match ofText? text with
    | some n => .ok n
    | none => .error (.illegalNumber text)

/-- The value of an expression. -/
def eval : Expression → StateT Values (Except ArithmeticError) Int
  | number n => pure n
  | content name => do (← get).get name
  | unary sign operand => do
    let n ← eval operand
    return match sign with
      | '-' => wrap (-n)
      | '!' => ofBool (n == 0)
      | '~' => wrap (-n - 1)
      | _ => n
  | binary sign left right => do
    let a ← eval left
    if sign == "||" then
      if a != 0 then return 1
      else return ofBool ((← eval right) != 0)
    else if sign == "&&" then
      if a == 0 then return 0
      else return ofBool ((← eval right) != 0)
    else combine sign a (← eval right)
  | assign name sign value => do
    let n ← eval value
    let n ← if sign.isEmpty then pure n else do
      combine sign (← (← get).get name) n
    modify fun values => { values with assigned := (name, n) :: values.assigned }
    return n
  | choice test yes no => do
    if (← eval test) != 0 then eval yes else eval no

end Expression

end RouteLens.Shell
