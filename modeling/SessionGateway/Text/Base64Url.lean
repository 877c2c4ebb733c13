/-!
Base64 with the URL alphabet and without padding. `decode` accepts exactly what `encode` writes.
-/

namespace SessionGateway.Text.Base64Url

inductive DecodeError where
  | symbol (byte : UInt8) (offset : Nat)
  | length (length : Nat)
  | lastSymbol (byte : UInt8) (offset : Nat)
  deriving DecidableEq, Repr

def DecodeError.message : DecodeError → String
  | symbol byte offset => s!"Invalid symbol {byte.toNat}, offset {offset}."
  | length n => s!"Invalid input length: {n}"
  | lastSymbol byte offset => s!"Invalid last symbol {byte.toNat}, offset {offset}."

def symbol (n : Nat) : UInt8 :=
  if n < 26 then (0x41 + n).toUInt8
  else if n < 52 then (0x61 + (n - 26)).toUInt8
  else if n < 62 then (0x30 + (n - 52)).toUInt8
  else if n = 62 then 0x2D else 0x5F

def value? (b : UInt8) : Option Nat :=
  let n := b.toNat
  if 0x41 ≤ n && n ≤ 0x5A then some (n - 0x41)
  else if 0x61 ≤ n && n ≤ 0x7A then some (n - 0x61 + 26)
  else if 0x30 ≤ n && n ≤ 0x39 then some (n - 0x30 + 52)
  else if n = 0x2D then some 62
  else if n = 0x5F then some 63
  else none

def encode : List UInt8 → List UInt8
  | [] => []
  | [a] =>
    let a := a.toNat
    [symbol (a / 4), symbol (a % 4 * 16)]
  | [a, b] =>
    let a := a.toNat
    let b := b.toNat
    [symbol (a / 4), symbol (a % 4 * 16 + b / 16), symbol (b % 16 * 4)]
  | a :: b :: c :: rest =>
    let a := a.toNat
    let b := b.toNat
    let c := c.toNat
    symbol (a / 4) :: symbol (a % 4 * 16 + b / 16) :: symbol (b % 16 * 4 + c / 64)
      :: symbol (c % 64) :: encode rest

/-- The bytes of numbers below 64, or `none` where bits are left over that are not zero. -/
def unpack : List Nat → Option (List UInt8)
  | [] => some []
  | [_] => none
  | [a, b] => if b % 16 = 0 then some [(a * 4 + b / 16).toUInt8] else none
  | [a, b, c] =>
    if c % 4 = 0 then some [(a * 4 + b / 16).toUInt8, (b % 16 * 16 + c / 4).toUInt8] else none
  | a :: b :: c :: d :: rest => do
    let bytes ← unpack rest
    return (a * 4 + b / 16).toUInt8 :: (b % 16 * 16 + c / 4).toUInt8
      :: (c % 4 * 64 + d).toUInt8 :: bytes

def strange? (bytes : List UInt8) : Option (UInt8 × Nat) :=
  bytes.zipIdx.find? fun (b, _) => (value? b).isNone

/-- The first fault is reported, except that a last byte which is no symbol goes first where the
length is one that no encoding has. -/
def decode (bytes : List UInt8) : Except DecodeError (List UInt8) :=
  let n := bytes.length
  let last := bytes.getLastD 0
  if n % 4 = 1 ∧ (value? last).isNone then .error (.symbol last (n - 1))
  else
    match strange? bytes with
    | some (b, i) => .error (.symbol b i)
    | none =>
      if n % 4 = 1 then .error (.length n)
      else
        match unpack (bytes.filterMap value?) with
        | some out => .ok out
        | none => .error (.lastSymbol last (n - 1))

end SessionGateway.Text.Base64Url
