import RouteLens.Shell.Script

/-!
# Reading words

How the characters of a script form words: quotes, parameters, the output of scripts, arithmetic.
-/

namespace RouteLens.Shell

/-- The letters that names start with. -/
def isNameStart (c : Char) : Bool :=
  c.isAlpha || c == '_'

/-- The characters of names. -/
def isNameChar (c : Char) : Bool :=
  c.isAlphanum || c == '_'

/-- Whether characters are a name. -/
def isName : Chars → Bool
  | c :: rest => isNameStart c && rest.all isNameChar
  | [] => false

/-- The parameters with a sign for a name. -/
def isSpecialParameter (c : Char) : Bool :=
  "@*#?-$!".toList.contains c

/-- Whether a word ends before the character. -/
def endsWord (c : Char) : Bool :=
  " \t\n;&|<>()".toList.contains c

/-- What a nested text is inside of. -/
inductive Nest
  | parentheses
  | braces
  | quotes
  deriving DecidableEq, Repr

/-- Splits a text behind the end of everything it is inside of, innermost first. `single` tells
that it is inside apostrophes, `escaped` that a backslash stands before it, and `dollar` that a
dollar sign does. -/
def splitNested (single escaped dollar : Bool) (done : Chars) :
    List Nest → Chars → Option (Chars × Chars)
  | [], rest => some ((done.drop 1).reverse, rest)
  | _ :: _, [] => none
  | top :: outer, c :: rest =>
    let go (single escaped dollar : Bool) (nests : List Nest) :=
      splitNested single escaped dollar (c :: done) nests rest
    if single then go (c != apostrophe) false false (top :: outer)
    else if escaped then go false false false (top :: outer)
    else if c == backslash then go false true false (top :: outer)
    else if c == '$' then go false false true (top :: outer)
    else match top with
      | .quotes =>
        if c == quotation then go false false false outer
        else if dollar && c == '(' then go false false false (.parentheses :: top :: outer)
        else if dollar && c == '{' then go false false false (.braces :: top :: outer)
        else go false false false (top :: outer)
      | _ =>
        if c == apostrophe then go true false false (top :: outer)
        else if c == quotation then go false false false (.quotes :: top :: outer)
        else if c == '(' && (dollar || top == .parentheses) then
          go false false false (.parentheses :: top :: outer)
        else if dollar && c == '{' then go false false false (.braces :: top :: outer)
        else if c == ')' && top == .parentheses then go false false false outer
        else if c == '}' && top == .braces then go false false false outer
        else go false false false (top :: outer)

/-- Splits a text at the next grave accent without a backslash before it; a backslash is dropped
before a grave accent, a dollar sign and another backslash, and inside quotes before a quotation
mark. -/
def splitGrave (quoted : Bool) (done : Chars) : Chars → Option (Chars × Chars)
  | [] => none
  | [c] => if c == grave then some (done.reverse, []) else none
  | c :: d :: rest =>
    if c == grave then some (done.reverse, d :: rest)
    else if c == backslash then
      if d == grave || d == '$' || d == backslash || (quoted && d == quotation) then
        splitGrave quoted (d :: done) rest
      else splitGrave quoted (d :: c :: done) rest
    else splitGrave quoted (c :: done) (d :: rest)

/-- The use of a parameter, from what follows its name in braces. -/
def ParameterUse.ofChars : Chars → ParameterUse
  | [] => .value
  | ':' :: '-' :: word => .default true word
  | '-' :: word => .default false word
  | ':' :: '=' :: word => .assign true word
  | '=' :: word => .assign false word
  | ':' :: '+' :: word => .alternative true word
  | '+' :: word => .alternative false word
  | ':' :: '?' :: word => .required true word
  | '?' :: word => .required false word
  | '%' :: '%' :: pattern => .trim true true pattern
  | '%' :: pattern => .trim true false pattern
  | '#' :: '#' :: pattern => .trim false true pattern
  | '#' :: pattern => .trim false false pattern
  | _ => .bad

/-- Splits the name of a parameter off a text. -/
def splitParameterName (text : Chars) : Chars × Chars :=
  match text with
  | [] => ([], [])
  | c :: rest =>
    if isNameStart c then (text.takeWhile isNameChar, text.dropWhile isNameChar)
    else if c.isDigit then (text.takeWhile Char.isDigit, text.dropWhile Char.isDigit)
    else if isSpecialParameter c then ([c], rest)
    else ([], text)

/-- The parameter that a text in braces means. -/
def bracedParameter (quoted : Bool) (text : Chars) : Part :=
  match text with
  | '#' :: c :: rest =>
    let (name, after) := splitParameterName (c :: rest)
    if !name.isEmpty && after.isEmpty then .parameter quoted name .length
    else .parameter quoted ['#'] (.ofChars (c :: rest))
  | _ =>
    let (name, after) := splitParameterName text
    if name.isEmpty then .parameter quoted [] .bad
    else .parameter quoted name (.ofChars after)

/-- How characters are read. -/
inductive Reading
  /-- Up to the end of a word. -/
  | word
  /-- All of a text, in which blanks and signs mean nothing. -/
  | whole
  /-- Up to the next quotation mark, inside quotes. -/
  | quoted
  /-- All of a text as if inside quotes, in which quotation marks mean nothing. -/
  | document
  /-- All of a text that stands in braces inside quotes; quotation marks in it are dropped. -/
  | braces
  deriving DecidableEq, Repr

namespace Reading

/-- Whether expansions are inside quotes. -/
def isQuoted : Reading → Bool
  | word => false
  | whole => false
  | quoted => true
  | document => true
  | braces => true

end Reading

/-- Puts a character behind parts, the last of which stands first and backwards. -/
def pushChar (quoted : Bool) (c : Char) : Word → Word
  | .text q chars :: rest =>
    if q = quoted then .text q (c :: chars) :: rest else .text quoted [c] :: .text q chars :: rest
  | parts => .text quoted [c] :: parts

/-- Parts in order from parts that stand backwards. -/
def inOrder (parts : Word) : Word :=
  parts.reverse.map fun
    | .text quoted chars => .text quoted chars.reverse
    | part => part

/-- The line that a text has come to, of which only `after` is left. -/
def lineBefore (after : Chars) (line : Nat) (text : Chars) : Nat :=
  line + (text.take (text.length - after.length)).count '\n'

/-- The part that starts with a dollar sign on a line, and the text after it; none where the dollar
sign stands for itself. -/
def readDollar (quoted : Bool) (line : Nat) (text : Chars) :
    Except ScriptError (Option (Part × Chars)) :=
  match text with
  | '{' :: rest => match splitNested false false false [] [.braces] rest with
    | some (inside, after) => .ok (some (bracedParameter quoted inside, after))
    | none => .error (if quoted then .unterminatedQuote else .missingBrace)
  | '(' :: '(' :: rest =>
    match splitNested false false false [] [.parentheses, .parentheses] rest with
    | some (inside, after) => match inside.getLast? with
      | some ')' => .ok (some (.arithmetic quoted inside.dropLast, after))
      | _ => .error .missingParentheses
    | none => .error .missingParentheses
  | '(' :: rest => match splitNested false false false [] [.parentheses] rest with
    | some (inside, after) => .ok (some (.output quoted line inside, after))
    | none => .error (.unexpected "end of file" (some "\")\""))
  | c :: rest =>
    if isNameStart c then
      .ok (some (.parameter quoted (text.takeWhile isNameChar) .value,
        text.dropWhile isNameChar))
    else if c.isDigit || isSpecialParameter c then
      .ok (some (.parameter quoted [c] .value, rest))
    else .ok none
  | [] => .ok none

/-- Reads the parts of a word that goes on at a line: the parts, and the text after them. The lines
of a script between grave accents are counted for themselves. -/
def readParts (fuel : Nat) (reading : Reading) (line : Nat) (done : Word) (text : Chars) :
    Except ScriptError (Word × Chars) :=
  match fuel with
  | 0 => .ok (inOrder done, [])
  | fuel + 1 =>
    let go (line : Nat) (done : Word) (after : Chars) := readParts fuel reading line done after
    let pass (parts done : Word) (after : Chars) :=
      go (lineBefore after line text) (parts ++ done) after
    match text with
    | [] => if reading = .quoted then .error .unterminatedQuote else .ok (inOrder done, [])
    | c :: rest =>
      let inQuotes := reading.isQuoted
      if reading = .word && endsWord c then .ok (inOrder done, c :: rest)
      else if c == quotation && reading = .quoted then .ok (inOrder done, rest)
      else if c == quotation && reading = .braces then go line done rest
      else if c == backslash then match rest with
        | [] => .ok (inOrder (pushChar inQuotes c done), [])
        | d :: after =>
          if d == '\n' then go (line + 1) done after
          else if inQuotes &&
              !(d == '$' || d == grave || d == backslash || (d == quotation && reading != .document))
            then go line (pushChar true d (pushChar true c done)) after
          else go line (pushChar true d done) after
      else if c == '$' then do
        match ← readDollar inQuotes line rest with
        | some (part, after) => pass [part] done after
        | none => go line (pushChar inQuotes c done) rest
      else if c == grave then
        match splitGrave inQuotes [] rest with
        | some (script, after) => pass [.output inQuotes 1 script] done after
        | none => .error .unterminatedGrave
      else if c == apostrophe && !inQuotes then
        let inside := rest.takeWhile (· != apostrophe)
        match rest.dropWhile (· != apostrophe) with
        | [] => .error .unterminatedQuote
        | _ :: after => pass [.text true inside.reverse] done after
      else if c == quotation && !inQuotes then do
        let (parts, after) ← readParts fuel .quoted line [] rest
        let parts := if parts.isEmpty then [.text true []] else parts
        pass (parts.map fun
          | .text quoted chars => .text quoted chars.reverse
          | part => part).reverse done after
      else go (if c == '\n' then line + 1 else line) (pushChar inQuotes c done) rest

/-- All of a text that starts on a line as a word. -/
def wordOf (reading : Reading) (line : Nat) (text : Chars) : Except ScriptError Word :=
  (readParts (text.length + 1) reading line [] text).map (·.1)

/-- The name and the value of an assignment that a word is. -/
def Word.assignment? (word : Word) : Option (Chars × Word) :=
  match word with
  | .text false chars :: rest =>
    let name := chars.takeWhile isNameChar
    match chars.dropWhile isNameChar with
    | '=' :: value =>
      if isName name then
        some (name, if value.isEmpty then rest else .text false value :: rest)
      else none
    | _ => none
  | _ => none

end RouteLens.Shell
