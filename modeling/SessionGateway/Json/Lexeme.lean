import SessionGateway.Json.Basic
import SessionGateway.Text.Percent

/-!
The parts of JSON text below values: blanks, strings, numbers. Scanning checks the grammar alone;
what a string or number stands for is decided afterwards, and may fail.
-/

namespace SessionGateway.Json

inductive Found where
  | null
  | bool (value : Bool)
  | int (value : Int)
  | float (value : Binary64)
  | str (value : String)
  | sequence
  | map

/-- What is wrong with text that was to be read. A value of the wrong shape is told apart from
text that is no JSON. -/
inductive ReadError where
  | malformed
  | wrongType (found : Found) (expected : String)
  | outOfRange (value : Int) (expected : String)
  | missingField (name : String)
  | repeatedField (name : String)
  | tooShort (length : Nat) (expected : String)

abbrev Read (α : Type) := Except ReadError α

def isBlank (c : Char) : Bool :=
  c == ' ' || c == '\t' || c == '\n' || c == '\r'

def skipBlank (input : List Char) : List Char := input.dropWhile isBlank

/-- A piece of a string as written: a character, or a 16-bit unit given by its number. -/
inductive Piece where
  | char (c : Char)
  | unit (n : Nat)
  deriving DecidableEq, Repr

def escapeMeaning? (c : Char) : Option Char :=
  if c = '"' ∨ c = '\\' ∨ c = '/' then some c
  else if c = 'b' then some '\x08'
  else if c = 'f' then some '\x0C'
  else if c = 'n' then some '\n'
  else if c = 'r' then some '\r'
  else if c = 't' then some '\t'
  else none

def hexUnit? (a b c d : Char) : Option Nat := do
  let a ← Text.hexValue? a
  let b ← Text.hexValue? b
  let c ← Text.hexValue? c
  let d ← Text.hexValue? d
  return ((a * 16 + b) * 16 + c) * 16 + d

def scanString : List Char → Option (List Piece × List Char)
  | [] => none
  | '"' :: rest => some ([], rest)
  | '\\' :: 'u' :: a :: b :: c :: d :: rest => do
    let n ← hexUnit? a b c d
    let (pieces, rest) ← scanString rest
    return (.unit n :: pieces, rest)
  | '\\' :: c :: rest => do
    let c ← escapeMeaning? c
    let (pieces, rest) ← scanString rest
    return (.char c :: pieces, rest)
  | c :: rest =>
    if c.toNat < 0x20 ∨ c = '\\' then none
    else do
      let (pieces, rest) ← scanString rest
      return (.char c :: pieces, rest)

/-- The characters of a string. A unit from the surrogate ranges must be the first of a pair or
come second in one. -/
def pieceChars? : List Piece → Option (List Char)
  | [] => some []
  | .char c :: rest => do
    let cs ← pieceChars? rest
    return c :: cs
  | .unit n :: rest =>
    if n < 0xD800 ∨ 0xDFFF < n then do
      let cs ← pieceChars? rest
      return Char.ofNat n :: cs
    else
      match rest with
      | .unit m :: rest =>
        if n < 0xDC00 ∧ 0xDC00 ≤ m ∧ m ≤ 0xDFFF then do
          let cs ← pieceChars? rest
          return Char.ofNat (0x10000 + (n - 0xD800) * 0x400 + (m - 0xDC00)) :: cs
        else none
      | _ => none

def readStringTail (input : List Char) : Read (String × List Char) :=
  match scanString input with
  | none => .error .malformed
  | some (pieces, rest) =>
    match pieceChars? pieces with
    | none => .error .malformed
    | some cs => .ok (String.ofList cs, rest)

structure NumberText where
  negative : Bool
  whole : List Char
  fraction : Option (List Char)
  exponent : Option (Bool × List Char)
  deriving DecidableEq, Repr

def isDigit (c : Char) : Bool := '0' ≤ c && c ≤ '9'

def scanDigits (input : List Char) : Option (List Char × List Char) :=
  let digits := input.takeWhile isDigit
  if digits.isEmpty then none else some (digits, input.dropWhile isDigit)

def scanWhole : List Char → Option (List Char × List Char)
  | '0' :: c :: rest => if isDigit c then none else some (['0'], c :: rest)
  | input => scanDigits input

def scanFraction : List Char → Option (Option (List Char) × List Char)
  | '.' :: rest => do
    let (digits, rest) ← scanDigits rest
    return (some digits, rest)
  | input => some (none, input)

def scanSigned : List Char → Option ((Bool × List Char) × List Char)
  | '+' :: rest => do
    let (digits, rest) ← scanDigits rest
    return ((false, digits), rest)
  | '-' :: rest => do
    let (digits, rest) ← scanDigits rest
    return ((true, digits), rest)
  | input => do
    let (digits, rest) ← scanDigits input
    return ((false, digits), rest)

def scanExponent : List Char → Option (Option (Bool × List Char) × List Char)
  | c :: rest =>
    if c = 'e' ∨ c = 'E' then do
      let (exponent, rest) ← scanSigned rest
      return (some exponent, rest)
    else some (none, c :: rest)
  | [] => some (none, [])

def scanUnsigned (negative : Bool) (input : List Char) : Option (NumberText × List Char) := do
  let (whole, input) ← scanWhole input
  let (fraction, input) ← scanFraction input
  let (exponent, input) ← scanExponent input
  return (⟨negative, whole, fraction, exponent⟩, input)

def scanNumber : List Char → Option (NumberText × List Char)
  | '-' :: rest => scanUnsigned true rest
  | input => scanUnsigned false input

def digitsValue (digits : List Char) : Nat :=
  digits.foldl (fun n c => 10 * n + (c.toNat - 0x30)) 0

def NumberText.exponentValue (t : NumberText) : Int :=
  match t.exponent with
  | none => 0
  | some (negative, digits) => if negative then -(digitsValue digits : Int) else digitsValue digits

/-- A whole number in the range of signed or unsigned 64-bit words is an integer, except minus
zero; any other is the nearest floating-point number, if there is one. -/
def NumberText.value? (t : NumberText) : Option Json :=
  let float? :=
    let fraction := t.fraction.getD []
    (Binary64.ofDecimal? t.negative (digitsValue (t.whole ++ fraction))
      (t.exponentValue - fraction.length)).map Json.float
  if t.fraction.isSome || t.exponent.isSome then float?
  else
    let n := digitsValue t.whole
    if t.negative then
      if 0 < n ∧ n ≤ Nat.pow 2 63 then some (.int (-n)) else float?
    else if n < UInt64.size then some (.int n)
    else float?

end SessionGateway.Json
