import RouteLens.Shell.Word

/-!
# Tokens

What a script is made of one step above characters: words, signs and the ends of lines. Texts that
stand on the lines after the one they are announced on are taken out of the script as they are met.
-/

namespace RouteLens.Shell

/-- What is left of a script, and the number of the line that it starts on. -/
structure Source where
  rest : Chars
  line : Nat := 1
  /-- How many lines have been taken out below this one. -/
  skipped : Nat := 0

/-- A token. -/
inductive Token
  | word (parts : Word)
  | reserved (name : String)
  /-- The number of a descriptor, right before a sign of redirection. -/
  | descriptor (number : Nat)
  | sign (text : String)
  | newline
  | fileEnd

namespace Token

/-- The signs, longer ones first. -/
def signs : List String :=
  ["<<-", "&&", "||", ";;", "<<", "<&", "<>", ">>", ">&", ">|", "&", ";", "|", "<", ">", "(", ")"]

/-- The words that mean something at the start of a statement. -/
def reservedWords : List String :=
  ["!", "case", "do", "done", "elif", "else", "esac", "fi", "for", "if", "in", "then", "until",
    "while", "\x7b", "\x7d"]

/-- Whether a sign starts a redirection. -/
def isRedirection (sign : String) : Bool :=
  sign.toList.head? == some '<' || sign.toList.head? == some '>'

/-- How a token is called. -/
def description : Token → String
  | word _ => "word"
  | reserved name => "\"" ++ name ++ "\""
  | descriptor _ => "redirection"
  | sign text => if isRedirection text then "redirection" else "\"" ++ text ++ "\""
  | newline => "newline"
  | fileEnd => "end of file"

/-- The token where reserved words have their meaning. -/
def asReserved : Token → Token
  | word parts => match parts with
    | [.text false chars] =>
      if reservedWords.contains (String.ofList chars) then reserved (String.ofList chars)
      else word parts
    | _ => word parts
  | token => token

/-- Whether the token is a sign. -/
def isSign (text : String) : Token → Bool
  | sign s => s == text
  | _ => false

/-- Whether the token is a reserved word. -/
def isReserved (name : String) : Token → Bool
  | reserved w => w == name
  | _ => false

/-- Whether a list of statements ends before the token. -/
def endsList : Token → Bool
  | fileEnd => true
  | sign text => [")", ";;"].contains text
  | reserved name => ["do", "done", "elif", "else", "esac", "fi", "then", "\x7d"].contains name
  | _ => false

end Token

namespace Source

/-- The number of the line after some characters. -/
def lineAfter (line : Nat) (chars : Chars) : Nat :=
  line + chars.count '\n'

/-- Skips blanks, comments, and with `newlines` the ends of lines. -/
def skip (newlines inComment : Bool) (line skipped : Nat) : Chars → Source
  | [] => ⟨[], line, skipped⟩
  | c :: rest =>
    if c == '\n' then
      if newlines then skip newlines false (line + 1 + skipped) 0 rest
      else ⟨c :: rest, line, skipped⟩
    else if inComment then skip newlines true line skipped rest
    else if c == ' ' || c == '\t' then skip newlines false line skipped rest
    else if c == '#' then skip newlines true line skipped rest
    else if c == backslash then match rest with
      | '\n' :: after => skip newlines false (line + 1) skipped after
      | _ => ⟨c :: rest, line, skipped⟩
    else ⟨c :: rest, line, skipped⟩

/-- The next token of a script that starts with no blanks, and what is left. -/
def token (s : Source) : Except ScriptError (Token × Source) :=
  match s.rest with
  | [] => .ok (.fileEnd, s)
  | '\n' :: after => .ok (.newline, ⟨after, s.line + 1 + s.skipped, 0⟩)
  | text => match Token.signs.find? fun sign => sign.toList.isPrefixOf text with
    | some sign => .ok (.sign sign, { s with rest := text.drop sign.length })
    | none => do
      let (parts, after) ← readParts (text.length + 1) .word s.line [] text
      let left := { s with
        rest := after
        line := lineAfter s.line (text.take (text.length - after.length)) }
      match parts, after with
      | [.text false digits], c :: _ =>
        if digits.all Char.isDigit && (c == '<' || c == '>') then
          return (.descriptor ((String.ofList digits).toNat?.getD 0), left)
        else return (.word parts, left)
      | _, _ => return (.word parts, left)

/-- Takes the text that stands below the current line up to a line with a delimiter, or up to the
end: the text, and what is left without it. With `tabs`, tabs at the starts of lines are dropped. -/
def takeDocument (tabs : Bool) (delimiter : Chars) (s : Source) : Chars × Source :=
  let lines := (s.rest.dropWhile (· != '\n')).drop 1 |>.splitOn '\n'
  let lines := if tabs then lines.map (·.dropWhile (· == '\t')) else lines
  let body := lines.takeWhile (· != delimiter)
  match lines.dropWhile (· != delimiter) with
  | [] => (List.intercalate ['\n'] body, ⟨s.rest.takeWhile (· != '\n'), s.line, s.skipped⟩)
  | _ :: after =>
    (body.flatMap (· ++ ['\n']),
      ⟨s.rest.takeWhile (· != '\n') ++ '\n' :: List.intercalate ['\n'] after, s.line,
        s.skipped + body.length + 1⟩)

end Source

end RouteLens.Shell
