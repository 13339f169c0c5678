import PublishGate.Text.Decimal
import PublishGate.Text.Hex
import PublishGate.Text.Pieces
import PublishGate.Text.Utf8

/-! # Hosts in addresses

Between the slashes of an address and its path stand a user, if there is one, then the host and the
number of its socket. A host is a name or an address of one of the two versions of IP. -/

namespace PublishGate

inductive AddressError where
  | relative
  | emptyHost
  | socketNumber
  | domain
  | ipv4
  | ipv6
  | scheme (url : String)
  deriving DecidableEq, Repr

def AddressError.message : AddressError → String
  | .relative => "builder error: relative URL without a base"
  | .emptyHost => "builder error: empty host"
  | .socketNumber => "builder error: invalid port number"
  | .domain => "builder error: invalid international domain name"
  | .ipv4 => "builder error: invalid IPv4 address"
  | .ipv6 => "builder error: invalid IPv6 address"
  | .scheme url => "builder error for url (" ++ url ++ "): URL scheme is not allowed"

namespace Authority

/-- The digits of a number in a base up to 16, none at all standing for 0. -/
def number? (base : Nat) (s : List Char) : Option Nat :=
  (s.mapM fun c => (Text.hexValue? c).filter (· < base)).map fun digits =>
    digits.foldl (fun n d => base * n + d) 0

/-! ## Version 4 -/

/-- A part of an address: decimal, octal behind a zero, or hexadecimal behind `0x`. -/
def ipv4Part? : List Char → Option Nat
  | [] => none
  | '0' :: 'x' :: s => number? 16 s
  | '0' :: c :: s => number? 8 (c :: s)
  | s => number? 10 s

def withoutEmptyEnd (parts : List (List Char)) : List (List Char) :=
  if parts.getLast? = some [] then parts.dropLast else parts

/-- Whether a host is meant as an address: its last part is a number. -/
def endsInNumber (host : List Char) : Bool :=
  match (withoutEmptyEnd (host.splitOn '.')).getLast? with
  | none => false
  | some part => Text.isNatural part || (ipv4Part? part).isSome

/-- The four bytes in one number. The last of one to four parts fills what the others leave free. -/
def ipv4? (host : List Char) : Option Nat := do
  let parts ← (withoutEmptyEnd (host.splitOn '.')).mapM ipv4Part?
  let last ← parts.getLast?
  let front := parts.dropLast
  let free ← [0x100000000, 0x1000000, 0x10000, 0x100][front.length]?
  if front.any (255 < ·) ∨ free ≤ last then none
  else some (front.foldl (256 * · + ·) 0 * free + last)

def ipv4Text (address : Nat) : List Char :=
  ['.'].intercalate <|
    [0x1000000, 0x10000, 0x100, 1].map fun unit => Text.decimal (address / unit % 256)

/-! ## Version 6 -/

def group? (s : List Char) : Option (List Nat) :=
  if s.isEmpty ∨ 4 < s.length then none else (number? 16 s).map ([·])

def octet? (s : List Char) : Option Nat :=
  if Text.isNatural s ∧ (s.length = 1 ∨ s.head? ≠ some '0') ∧ Text.digitsValue s < 256 then
    some (Text.digitsValue s)
  else none

def octets? (s : List Char) : Option (List Nat) :=
  match (s.splitOn '.').mapM octet? with
  | some [a, b, c, d] => some [256 * a + b, 256 * c + d]
  | _ => none

/-- The groups between colons. Only the last may be written as four bytes. -/
def groups? : List (List Char) → Option (List Nat)
  | [] => some []
  | [s] => group? s <|> octets? s
  | s :: rest => do return (← group? s) ++ (← groups? rest)

/-- The eight groups of an address. A double colon stands for all the zeros that are left out, at
least one. -/
def ipv6? (s : List Char) : Option (List Nat) :=
  match Text.cutFirst? [':', ':'] s with
  | none => (groups? (s.splitOn ':')).filter (·.length = 8)
  | some (front, back) => do
    let front ← if front.isEmpty then some [] else (front.splitOn ':').mapM group?
    let back ← if back.isEmpty then some [] else groups? (back.splitOn ':')
    let groups := front.flatten ++ List.replicate (8 - front.flatten.length - back.length) 0 ++ back
    if front.flatten.length + back.length < 8 then some groups else none

def zeros (groups : List Nat) : Nat :=
  (groups.takeWhile (· = 0)).length

def groupsText (groups : List Nat) : List Char :=
  [':'].intercalate (groups.map (Nat.toDigits 16))

/-- The groups with a double colon for the first of the longest runs of zeros, if that has two. -/
def ipv6Text (groups : List Nat) : List Char :=
  let runs := (List.range groups.length).map fun k => zeros (groups.drop k)
  let longest := runs.foldl max 0
  if longest < 2 then groupsText groups
  else
    let start := runs.idxOf longest
    groupsText (groups.take start) ++ [':', ':'] ++ groupsText (groups.drop (start + longest))

/-! ## Names -/

def unescaped : List Char → List UInt8
  | [] => []
  | '%' :: a :: b :: s =>
    match Text.hexValue? a, Text.hexValue? b with
    | some high, some low => UInt8.ofNat (16 * high + low) :: unescaped s
    | _, _ => 0x25 :: unescaped (a :: b :: s)
  | c :: s => String.utf8EncodeChar c ++ unescaped s

def isForbidden (c : Char) : Bool :=
  decide (c.toNat ≤ 0x20) || c == '\x7f' ||
    ['#', '%', '/', ':', '<', '>', '?', '@', '[', '\\', ']', '^', '|'].contains c

/-- The name of a host, in lower case. Names beyond ASCII are not put into their form for ASCII. -/
def name? (s : List Char) : Except AddressError (List Char) :=
  match Text.decode? (unescaped s) with
  | none => .error .domain
  | some name =>
    if name.toList.any isForbidden then .error .domain else .ok (name.toList.map Char.toLower)

def host? (s : List Char) : Except AddressError (List Char) :=
  match s with
  | [] => .error .emptyHost
  | '[' :: s =>
    if s.getLast? ≠ some ']' then .error .ipv6
    else match ipv6? s.dropLast with
      | some groups => .ok ('[' :: ipv6Text groups ++ [']'])
      | none => .error .ipv6
  | s => do
    let name ← name? s
    if name.isEmpty then .error .emptyHost
    else if endsInNumber name then
      match ipv4? name with
      | some address => return ipv4Text address
      | none => .error .ipv4
    else return name

/-- What stands in front of the first colon that is not in brackets, and what follows from there. -/
def cutHost (inside : Bool) : List Char → List Char × List Char
  | [] => ([], [])
  | c :: s =>
    if c = ':' ∧ inside = false then ([], c :: s)
    else
      let (host, rest) := cutHost (c = '[' || (inside && c != ']')) s
      (c :: host, rest)

/-- The host, with the number of its socket unless that is the usual one of the scheme. The user does
not count. -/
def read (usual : Nat) (s : List Char) : Except AddressError (List Char) := do
  let s := match Text.cutLast? '@' s with
    | some (_, s) => s
    | none => s
  let (host, rest) := cutHost false s
  let host ← host? host
  let number := rest.drop 1
  if number.isEmpty then return host
  else if number.all Char.isDigit ∧ Text.digitsValue number < 65536 then
    if Text.digitsValue number = usual then return host
    else return host ++ ':' :: Text.decimal (Text.digitsValue number)
  else .error .socketNumber

end Authority

end PublishGate
