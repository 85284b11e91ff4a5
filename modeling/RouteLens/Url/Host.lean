import RouteLens.Domain.Basic
import RouteLens.Url.Percent

/-!
# Hosts of URLs

The host of a URL in its normal text: a domain name in its ASCII form, an IPv4 address with four
decimal parts, an IPv6 address in brackets with its longest run of zeros left out, or, for schemes
without special rules, any text with control characters escaped.
-/

namespace RouteLens

/-- Why a text is no URL. -/
inductive UrlError
  | emptyHost
  | invalidDomain
  | invalidPort
  | invalidIpv4
  | invalidIpv6
  | invalidDomainCharacter
  | noScheme
  deriving DecidableEq, Repr

namespace UrlError

/-- The wording of an error. -/
def message : UrlError → String
  | emptyHost => "empty host"
  | invalidDomain => "invalid international domain name"
  | invalidPort => "invalid port number"
  | invalidIpv4 => "invalid IPv4 address"
  | invalidIpv6 => "invalid IPv6 address"
  | invalidDomainCharacter => "invalid domain character"
  | noScheme => "relative URL without a base"

end UrlError

namespace Url

/-- Appends a digit to a value in a base. -/
def addDigit? (base : Nat) (value : Option Nat) (digit : Char) : Option Nat :=
  match value, Text.hexValue? digit with
  | some value, some digit => if digit < base then some (value * base + digit) else none
  | _, _ => none

/-- The value of digits in a base, if there is a digit and all of them belong to the base. -/
def digitsIn? (base : Nat) (digits : List Char) : Option Nat :=
  if digits.isEmpty then none
  else digits.foldl (addDigit? base) (some 0)

/-- The value of a part of an IPv4 address: hexadecimal, octal or decimal by how it starts. -/
def ipv4Part? : List Char → Option Nat
  | '0' :: x :: rest =>
    if x == 'x' || x == 'X' then if rest.isEmpty then some 0 else digitsIn? 16 rest
    else digitsIn? 8 (x :: rest)
  | part => digitsIn? 10 part

/-- The parts of a domain between dots, without an empty one at the end. -/
def dottedParts (domain : List Char) : List (List Char) :=
  let parts := domain.splitOn '.'
  if parts.length > 1 ∧ parts.getLast? = some [] then parts.dropLast else parts

/-- Whether the last part of a domain is a number, so that it must be an IPv4 address. -/
def endsInNumber (domain : List Char) : Bool :=
  match (dottedParts domain).getLast? with
  | some part => (!part.isEmpty && part.all Char.isDigit) || (ipv4Part? part).isSome
  | none => false

/-- The number of an address of parts: every part but the last is an octet, and the last one fills
what is left. -/
def ipv4OfParts? : List Nat → Nat → Option Nat
  | [], _ => none
  | [last], room => if last < room then some last else none
  | part :: rest, room =>
    if part < 256 then (ipv4OfParts? rest (room / 256)).map (part * (room / 256) + ·) else none

/-- The number of an IPv4 address. -/
def ipv4? (domain : List Char) : Option Nat :=
  let parts := dottedParts domain
  if parts.length > 4 then none
  else (parts.mapM ipv4Part?).bind (ipv4OfParts? · 0x100000000)

/-- The text of an IPv4 address. -/
def ipv4Text (address : Nat) : String :=
  ".".intercalate ([0x1000000, 0x10000, 0x100, 1].map fun unit => toString (address / unit % 256))

/-- A decimal octet without needless zeros. -/
def decimalOctet? (digits : List Char) : Option Nat :=
  match digits with
  | '0' :: _ :: _ => none
  | _ => if digits.all Char.isDigit then (digitsIn? 10 digits).filter (· < 256) else none

/-- The two units of an IPv6 address that an IPv4 address stands for. -/
def ipv4Units? (text : List Char) : Option (List Nat) :=
  match (text.splitOn '.').mapM decimalOctet? with
  | some [a, b, c, d] => some [a * 256 + b, c * 256 + d]
  | _ => none

/-- The units of an IPv6 address between colons; the last may be written as an IPv4 address. -/
def ipv6Units? : List (List Char) → Option (List Nat)
  | [] => some []
  | [last] =>
    if last.contains '.' then ipv4Units? last
    else if last.length ≤ 4 then (digitsIn? 16 last).map ([·]) else none
  | unit :: rest =>
    if unit.length ≤ 4 then do
      let value ← digitsIn? 16 unit
      (ipv6Units? rest).map (value :: ·)
    else none

/-- Splits a text at the first double colon. -/
def splitDoubleColon : List Char → Option (List Char × List Char)
  | ':' :: ':' :: rest => some ([], rest)
  | c :: rest => (splitDoubleColon rest).map fun (before, after) => (c :: before, after)
  | [] => none

/-- The units of a side of a double colon. -/
def ipv6Side? (text : List Char) : Option (List Nat) :=
  if text.isEmpty then some [] else ipv6Units? (text.splitOn ':')

/-- The eight units of an IPv6 address. -/
def ipv6? (text : List Char) : Option (List Nat) :=
  match splitDoubleColon text with
  | none => (ipv6Side? text).filter (·.length == 8)
  | some (before, after) => do
    let first ← ipv6Side? before
    let last ← ipv6Side? after
    if before.contains '.' || first.length + last.length > 7 then none
    else some (first ++ List.replicate (8 - first.length - last.length) 0 ++ last)

/-- Where the longest run of zeros starts, and its length; the first of equal ones. -/
def longestZeros (index : Nat) : List Nat → Nat × Nat
  | [] => (0, 0)
  | unit :: rest =>
    let run := ((unit :: rest).takeWhile (· == 0)).length
    let (start, length) := longestZeros (index + 1) rest
    if run ≥ length ∧ run > 0 then (index, run) else (start, length)

/-- The text of units between colons. -/
def unitsText (units : List Nat) : String :=
  ":".intercalate (units.map fun unit => String.ofList (Nat.toDigits 16 unit))

/-- The text of an IPv6 address in brackets. -/
def ipv6Text (units : List Nat) : String :=
  let (start, length) := longestZeros 0 units
  if length < 2 then "[" ++ unitsText units ++ "]"
  else "[" ++ unitsText (units.take start) ++ "::" ++ unitsText (units.drop (start + length)) ++ "]"

/-- The characters that no domain may hold. -/
def isForbiddenInDomain (c : Char) : Bool :=
  c.toNat ≤ 0x20 || c.toNat = 0x7f ||
    c ∈ ['#', '%', '/', ':', '<', '>', '?', '@', '[', '\\', ']', '^', '|']

/-- The characters that no host may hold. -/
def isForbiddenInHost (c : Char) : Bool :=
  c ∈ ['\x00', '\t', '\n', '\r', ' ', '#', '/', ':', '<', '>', '?', '@', '[', '\\', ']', '^', '|']

/-- The host inside brackets. -/
def bracketedHost (text : List Char) : Except UrlError String :=
  match text.drop 1 |>.reverse with
  | ']' :: inside => match ipv6? inside.reverse with
    | some units => .ok (ipv6Text units)
    | none => .error .invalidIpv6
  | _ => .error .invalidIpv6

/-- The host of a scheme with special rules. -/
def specialHost (text : List Char) : Except UrlError String :=
  if text.head? = some '[' then bracketedHost text
  else match Utf8.decode? (percentDecode text) with
    | none => .error .invalidDomain
    | some domain => match Domain.ascii? domain.toList with
      | none => .error .invalidDomain
      | some domain =>
        if domain.any isForbiddenInDomain then .error .invalidDomain
        else if domain.isEmpty then .error .emptyHost
        else if endsInNumber domain then
          match ipv4? domain with
          | some address => .ok (ipv4Text address)
          | none => .error .invalidIpv4
        else .ok (String.ofList domain)

/-- The host of any other scheme. -/
def plainHost (text : List Char) : Except UrlError String :=
  if text.head? = some '[' then bracketedHost text
  else if text.any isForbiddenInHost then .error .invalidDomainCharacter
  else .ok (String.ofList (percentEncode isControl text))

end Url

end RouteLens
