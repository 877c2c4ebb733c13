import SessionGateway.Text.Blank
import SessionGateway.Url.Basic
import SessionGateway.Url.Domain

/-!
Hosts: names, and the addresses that are written as numbers.
-/

namespace SessionGateway.Url

inductive ParseError where
  | relative
  | emptyHost
  | portNumber
  | ipv4
  | ipv6
  | domainCharacter
  | international
  deriving DecidableEq, Repr

def ParseError.message : ParseError → String
  | relative => "relative URL without a base"
  | emptyHost => "empty host"
  | portNumber => "invalid port number"
  | ipv4 => "invalid IPv4 address"
  | ipv6 => "invalid IPv6 address"
  | domainCharacter => "invalid domain character"
  | international => "invalid international domain name"

namespace Host

def inBase? (base : Nat) (cs : List Char) : Option Nat :=
  cs.foldlM
    (fun n c => do
      let d ← Text.hexValue? c
      if d < base then some (base * n + d) else none) 0

/-- A part of a numeric address: decimal, octal after `0`, hexadecimal after `0x`. -/
def part? : List Char → Option Nat
  | [] => none
  | '0' :: 'x' :: rest | '0' :: 'X' :: rest => inBase? 16 rest
  | '0' :: c :: rest => inBase? 8 (c :: rest)
  | cs => inBase? 10 cs

/-- The parts of a name, without the empty one after a final dot. -/
def dottedParts (cs : List Char) : List (List Char) :=
  let parts := Text.pieces (· == '.') cs
  if 1 < parts.length ∧ parts.getLast? = some [] then parts.dropLast else parts

def endsInNumber (cs : List Char) : Bool :=
  match (dottedParts cs).getLast? with
  | none | some [] => false
  | some last => last.all Char.isDigit || (part? last).isSome

/-- The last part fills the bytes that the parts before it leave. -/
def ipv4? (cs : List Char) : Option Nat := do
  let numbers ← (dottedParts cs).mapM part?
  let last ← numbers.getLast?
  let before := numbers.dropLast
  if 3 < before.length ∨ before.any (255 < ·) ∨ Nat.pow 256 (4 - before.length) ≤ last then none
  else
    some (before.zipIdx.foldl (fun sum (n, i) => sum + n * Nat.pow 256 (3 - i)) last)

def group? (cs : List Char) : Option Nat :=
  if cs.isEmpty || 4 < cs.length then none else inBase? 16 cs

def byte? (cs : List Char) : Option Nat :=
  if cs.isEmpty || ! cs.all Char.isDigit || (1 < cs.length && cs.head? == some '0') then none
  else (inBase? 10 cs).filter (· ≤ 255)

def dottedGroups? (cs : List Char) : Option (List Nat) :=
  match (Text.pieces (· == '.') cs).mapM byte? with
  | some [a, b, c, d] => some [a * 256 + b, c * 256 + d]
  | _ => none

/-- Groups between colons; the last may be four bytes between dots where `dotted` allows. -/
def groups? (dotted : Bool) (cs : List Char) : Option (List Nat) :=
  if cs.isEmpty then some []
  else
    let parts := Text.pieces (· == ':') cs
    match parts.getLast? with
    | none => none
    | some last =>
      if dotted && last.contains '.' then do
        let before ← parts.dropLast.mapM group?
        let tail ← dottedGroups? last
        return before ++ tail
      else parts.mapM group?

def splitDouble : List Char → Option (List Char × List Char)
  | ':' :: ':' :: rest => some ([], rest)
  | c :: rest => (splitDouble rest).map fun (a, b) => (c :: a, b)
  | [] => none

/-- Eight groups; a double colon stands for one zero group or more. -/
def ipv6? (cs : List Char) : Option (List Nat) :=
  match splitDouble cs with
  | none => (groups? true cs).filter (·.length == 8)
  | some (a, b) => do
    let a ← groups? false a
    let b ← groups? true b
    if a.length + b.length ≤ 7 then
      some (a ++ List.replicate (8 - a.length - b.length) 0 ++ b)
    else none

def isForbidden (c : Char) : Bool :=
  c.toNat ≤ 0x20 || c.toNat == 0x7F
    || ['%', '#', '/', ':', '<', '>', '?', '@', '[', '\\', ']', '^', '|'].contains c

def isForbiddenOpaque (c : Char) : Bool :=
  [0, 9, 0xA, 0xD, 0x20].contains c.toNat
    || ['#', '/', ':', '<', '>', '?', '@', '[', '\\', ']', '^', '|'].contains c

def bracketed (cs : List Char) : Except ParseError Host :=
  if cs.getLast? = some ']' then
    match ipv6? (cs.drop 1).dropLast with
    | some groups => .ok (.ipv6 groups)
    | none => .error .ipv6
  else .error .ipv6

def ofSpecial (cs : List Char) : Except ParseError Host :=
  if cs.head? = some '[' then bracketed cs
  else
    match (Text.Utf8.decode? (Text.Percent.decode cs)).bind Domain.toAscii? with
    | none => .error .international
    | some text =>
      if text.any isForbidden then .error .international
      else if text.isEmpty then .error .emptyHost
      else if endsInNumber text then
        match ipv4? text with
        | some n => .ok (.ipv4 n)
        | none => .error .ipv4
      else .ok (.name (String.ofList text))

def ofOther (cs : List Char) : Except ParseError Host :=
  if cs.head? = some '[' then bracketed cs
  else if cs.any isForbiddenOpaque then .error .domainCharacter
  else .ok (.name (String.ofList (Text.Percent.encode inControlSet cs)))

end Host
end SessionGateway.Url
