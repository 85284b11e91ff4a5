import RouteLens.Shell.Real

/-!
# Formatted output

The texts that `echo` and `printf` write: escapes with a backslash, and formats with directives
that arguments are put in place of.
-/

namespace RouteLens.Shell

/-- The characters that single letters behind a backslash stand for. -/
def escapeLetters : List (Char × Char) :=
  [('a', '\x07'), ('b', '\x08'), ('e', '\x1b'), ('f', '\x0c'), ('n', '\n'), ('r', '\x0d'),
    ('t', '\t'), ('v', '\x0b'), ('\\', '\\')]

/-- Whether a character is a digit of base eight. -/
def isOctal (c : Char) : Bool :=
  '0' ≤ c && c ≤ '7'

/-- The octet that octal digits stand for. -/
def octalChar (digits : Chars) : Char :=
  Char.ofNat ((Expression.digits 8 0 digits).1 % 256)

/-- How escapes are read: how many octal digits there are at most behind a leading zero, whether
`\c` ends the output, and whether `\x` is followed by hexadecimal digits. -/
structure EscapeRules where
  afterZero : Nat
  otherOctal : Bool
  stops : Bool
  hexadecimal : Bool

/-- The escapes in formats. -/
def EscapeRules.format : EscapeRules := ⟨2, true, false, false⟩

/-- The escapes in arguments, where a zero comes in front of the octal digits. -/
def EscapeRules.argument : EscapeRules := ⟨3, true, true, false⟩

/-- The escapes of the `echo` that is a program of its own. -/
def EscapeRules.program : EscapeRules := ⟨3, true, true, true⟩

/-- A text with its escapes put in place, and whether it ended the output. -/
def unescape (rules : EscapeRules) (fuel : Nat) (text : Chars) : Chars × Bool :=
  match fuel, text with
  | 0, _ => ([], false)
  | _, [] => ([], false)
  | fuel + 1, c :: rest =>
    let put (d : Char) (rest : Chars) :=
      let (after, stopped) := unescape rules fuel rest
      (d :: after, stopped)
    if c != backslash then put c rest
    else match rest with
      | [] => ([c], false)
      | d :: after =>
        if d == 'c' && rules.stops then ([], true)
        else if d == '0' then
          let digits := (after.take rules.afterZero).takeWhile isOctal
          put (octalChar digits) (after.drop digits.length)
        else if isOctal d && rules.otherOctal then
          let digits := (rest.take 3).takeWhile isOctal
          put (octalChar digits) (rest.drop digits.length)
        else if d == 'x' && rules.hexadecimal then
          let digits := (after.take 2).takeWhile Char.isAlphanum
          match Expression.digits 16 0 digits with
          | (n, left) =>
            let used := digits.length - left.length
            if used = 0 then put c rest else put (Char.ofNat n) (after.drop used)
        else match escapeLetters.lookup d with
          | some e => put e after
          | none => put c rest

/-- A text with its escapes put in place, and whether it ended the output. -/
def unescaped (rules : EscapeRules) (text : Chars) : Chars × Bool :=
  unescape rules (text.length + 1) text

/-- What `echo` writes as a part of the shell. -/
def echoText (args : List Chars) : Chars :=
  let (newline, args) := match args with
    | ['-', 'n'] :: rest => (false, rest)
    | _ => (true, args)
  match unescaped .argument (List.intercalate [' '] args) with
  | (text, stopped) => if newline && !stopped then text ++ ['\n'] else text

/-- What `echo` writes as a program of its own, with its options so far. -/
def echoProgramText (newline escapes : Bool) : List Chars → Chars
  | [] => if newline then ['\n'] else []
  | arg :: rest =>
    let isOptions := match arg with
      | '-' :: c :: letters => (c :: letters).all ['n', 'e', 'E'].contains
      | _ => false
    if isOptions then
      let letters := arg.filter fun c => c == 'e' || c == 'E'
      echoProgramText (newline && !arg.contains 'n')
        (match letters.getLast? with
          | some c => c == 'e'
          | none => escapes) rest
    else
      let text := List.intercalate [' '] (arg :: rest)
      let (text, stopped) := if escapes then unescaped .program text else (text, false)
      if newline && !stopped then text ++ ['\n'] else text

/-- A directive of a format. -/
structure Directive where
  flags : Chars
  width : Nat
  precision : Option Nat
  letter : Char

namespace Directive

/-- A text in the width of the directive. -/
def pad (d : Directive) (zeros : Bool) (sign body : Chars) : Chars :=
  let missing := d.width - (sign.length + body.length)
  if d.flags.contains '-' then sign ++ body ++ List.replicate missing ' '
  else if zeros then sign ++ List.replicate missing '0' ++ body
  else List.replicate missing ' ' ++ sign ++ body

/-- A text as the directive writes it. -/
def textOf (d : Directive) (text : Chars) : Chars :=
  d.pad false [] (match d.precision with
    | some n => text.take n
    | none => text)

/-- The digits of a number in the base of the directive. -/
def digitsOf (d : Directive) (n : Nat) : Chars :=
  match d.letter with
  | 'o' => Nat.toDigits 8 n
  | 'x' => Nat.toDigits 16 n
  | 'X' => (Nat.toDigits 16 n).map Char.toUpper
  | _ => Nat.toDigits 10 n

/-- A number as the directive writes it. -/
def numberOf (d : Directive) (n : Int) : Chars :=
  let signed := d.letter == 'd' || d.letter == 'i'
  let magnitude := if signed then n.natAbs else (n % Expression.modulus).toNat
  let digits := d.digitsOf magnitude
  let digits := match d.precision with
    | some p => List.replicate (p - digits.length) '0' ++ digits
    | none => digits
  let sign :=
    if signed && n < 0 then ['-']
    else if signed && d.flags.contains '+' then ['+']
    else if signed && d.flags.contains ' ' then [' ']
    else if d.flags.contains '#' && magnitude != 0 then match d.letter with
      | 'o' => ['0']
      | 'x' => ['0', 'x']
      | 'X' => ['0', 'X']
      | _ => []
    else []
  d.pad (d.flags.contains '0' && d.precision.isNone) sign digits

/-- A real number as the directive writes it. -/
def realOf (d : Directive) (n : Real) : Chars :=
  let sign :=
    if n.isNegative then ['-']
    else if d.flags.contains '+' then ['+']
    else if d.flags.contains ' ' then [' ']
    else []
  d.pad (d.flags.contains '0' && n.isFinite) sign
    (n.text (d.flags.contains '#') d.letter (d.precision.getD 6))

end Directive

/-- What is wrong with formatted output. -/
inductive FormatError
  | missingLetter
  | invalidDirective (text : Chars)
  | expectedNumber (text : Chars)
  | partialNumber (text : Chars)
  | outOfRange (text : Chars)

namespace FormatError

/-- The wording of an error. -/
def message : FormatError → Chars
  | missingLetter => "missing format character".toList
  | invalidDirective text => text ++ ": invalid directive".toList
  | expectedNumber text => text ++ ": expected numeric value".toList
  | partialNumber text => text ++ ": not completely converted".toList
  | outOfRange text => text ++ ": Numerical result out of range".toList

/-- Whether the output ends with the error. -/
def isFatal : FormatError → Bool
  | missingLetter => true
  | invalidDirective _ => true
  | _ => false

end FormatError

/-- The number that an argument is, and what is wrong with it. -/
def argumentNumber (signed : Bool) (arg : Chars) : Int × List FormatError :=
  match arg with
  | [] => (0, [])
  | c :: rest =>
    if c == quotation || c == apostrophe then ((rest.head?.map Char.toNat).getD 0, [])
    else
      let text := arg.dropWhile Expression.isSpace
      let (negative, digits) := match text with
        | '-' :: rest => (true, rest)
        | '+' :: rest => (false, rest)
        | _ => (false, text)
      if (digits.head?.map Char.isDigit).getD false then
        let (n, after) := Expression.readNumber digits
        let value : Int := if negative then -(n : Int) else n
        let most : Int := if signed then Expression.greatest else Expression.modulus - 1
        let least : Int := if signed then Expression.least else -Expression.modulus
        if value > most then (most, [.outOfRange arg])
        else if value < least then (least, [.outOfRange arg])
        else (value, if after.isEmpty then [] else [.partialNumber arg])
      else (0, [.expectedNumber arg])

/-- The real number that an argument is, and what is wrong with it. -/
def argumentReal (arg : Chars) : Real × List FormatError :=
  let zero := Real.finite false 0 0
  match arg with
  | [] => (zero, [])
  | c :: rest =>
    if c == quotation || c == apostrophe then
      (.finite false ((rest.head?.map Char.toNat).getD 0) 0, [])
    else match Real.read? arg with
      | none => (zero, [.expectedNumber arg])
      | some (n, fits, after) =>
        (n, if !after.isEmpty then [.partialNumber arg]
          else if !fits then [.outOfRange arg]
          else [])

/-- Formatted output so far: the text, the arguments left, the errors, and whether it has ended. -/
structure Formatted where
  text : Chars := []
  args : List Chars
  errors : List FormatError := []
  ended : Bool := false

namespace Formatted

/-- The next argument, if there is one. -/
def shift (f : Formatted) : Option Chars × Formatted :=
  (f.args.head?, { f with args := f.args.tail })

/-- Writes a text. -/
def write (f : Formatted) (text : Chars) : Formatted :=
  { f with text := f.text ++ text }

/-- The number that stands in a format, or comes from an argument for a `*`. -/
def readCount (f : Formatted) (text : Chars) : Int × Chars × Formatted :=
  match text with
  | '*' :: rest =>
    let (arg, f) := f.shift
    ((argumentNumber true (arg.getD [])).1, rest, f)
  | _ =>
    let (n, rest) := Expression.digits 10 0 text
    (n, rest, f)

/-- Carries out a directive. -/
def direct (f : Formatted) (d : Directive) (text : Chars) : Formatted :=
  match d.letter with
  | 's' =>
    let (arg, f) := f.shift
    f.write (d.textOf (arg.getD []))
  | 'b' =>
    let (arg, f) := f.shift
    let (text, stopped) := unescaped .argument (arg.getD [])
    { f.write (d.textOf text) with ended := stopped }
  | 'c' =>
    let (arg, f) := f.shift
    f.write (d.pad false [] [((arg.getD []).head?).getD '\x00'])
  | _ =>
    if "diouxX".toList.contains d.letter then
      let (arg, f) := f.shift
      let (n, errors) := argumentNumber (d.letter == 'd' || d.letter == 'i') (arg.getD [])
      { f.write (d.numberOf n) with errors := f.errors ++ errors }
    else if "eEfFgG".toList.contains d.letter then
      let (arg, f) := f.shift
      let (n, errors) := argumentReal (arg.getD [])
      { f.write (d.realOf n) with errors := f.errors ++ errors }
    else
      { f with ended := true, errors := f.errors ++ [.invalidDirective text] }

/-- Goes through a format once. -/
def once (fuel : Nat) (f : Formatted) (format : Chars) : Formatted :=
  match fuel with
  | 0 => f
  | fuel + 1 =>
    if f.ended then f
    else match format.dropWhile (· != '%') with
      | [] => f.write (unescaped .format format).1
      | _ :: rest =>
        let f := f.write (unescaped .format (format.takeWhile (· != '%'))).1
        match rest with
        | '%' :: rest => once fuel (f.write ['%']) rest
        | _ =>
          let isFlag (c : Char) := "#-+ 0".toList.contains c
          let flags := rest.takeWhile isFlag
          let (width, afterWidth, f) := f.readCount (rest.dropWhile isFlag)
          let flags := if width < 0 then '-' :: flags else flags
          let (precision, afterPrecision, f) := match afterWidth with
            | '.' :: digits =>
              let (n, after, f) := f.readCount digits
              (some n.toNat, after, f)
            | _ => (none, afterWidth, f)
          match afterPrecision with
          | [] => { f with ended := true, errors := f.errors ++ [.missingLetter] }
          | letter :: after =>
            let text := '%' :: rest.take (rest.length - after.length)
            once fuel (f.direct ⟨flags, width.natAbs, precision, letter⟩ text) after

/-- Goes through a format again as long as it takes arguments and some are left. -/
def again (fuel : Nat) (f : Formatted) (format : Chars) : Formatted :=
  match fuel with
  | 0 => f
  | fuel + 1 =>
    let next := f.once (format.length + 1) format
    if next.ended || next.args.isEmpty || next.args.length == f.args.length then next
    else again fuel next format

end Formatted

/-- What `printf` writes for a format and arguments. -/
def formatted (format : Chars) (args : List Chars) : Formatted :=
  Formatted.again (args.length + 1) { args } format

end RouteLens.Shell
