import SessionGateway.Number.Binary64

/-!
The fewest decimal digits that read back as a given binary number, and of those the nearest.
-/

namespace SessionGateway.Binary64

structure Decimal where
  digits : Nat
  exponent : Int
  deriving DecidableEq, Repr

def onOneScale (a : Nat) (k : Int) (b : Nat) (e : Int) : Nat × Nat :=
  (a * Nat.pow 10 k.toNat * Nat.pow 2 (-e).toNat, b * Nat.pow 2 e.toNat * Nat.pow 10 (-k).toNat)

/-- Whether `a * 10 ^ k` rounds to `x`: it lies between the points halfway to the neighbours of
`x`, which themselves round to `x` when its mantissa is even. The lower neighbour of a power of
two is twice as near. -/
def roundsTo (x : Binary64) (a : Nat) (k : Int) : Bool :=
  let e := x.exponent - 2
  let below := if x.mantissa = Nat.pow 2 52 ∧ leastExponent < x.exponent then 1 else 2
  let (p, low) := onOneScale a k (4 * x.mantissa - below) e
  let (q, high) := onOneScale a k (4 * x.mantissa + 2) e
  if x.mantissa % 2 = 0 then low ≤ p && q ≤ high else low < p && q < high

def floorAt (x : Binary64) (k : Int) : Nat :=
  let (unit, value) := onOneScale 1 k x.mantissa x.exponent
  value / unit

/-- Of the multiples of `10 ^ k` just below and above `x`, the nearer one that rounds to `x`; the
even one at equal distance. -/
def atUnit? (x : Binary64) (k : Int) : Option Decimal :=
  let a := floorAt x k
  let (unit, value) := onOneScale 1 k x.mantissa x.exponent
  let twice := 2 * (value % unit)
  let downFirst := twice < unit || (twice == unit && a % 2 == 0)
  let (first, second) := if downFirst then (a, a + 1) else (a + 1, a)
  if roundsTo x first k then some ⟨first, k⟩
  else if roundsTo x second k then some ⟨second, k⟩
  else none

def highDigit (x : Binary64) : Int :=
  let guess := ((x.mantissa.log2 + x.exponent) * 30103).fdiv 100000
  if 1 ≤ floorAt x (guess + 1) then guess + 1
  else if 1 ≤ floorAt x guess then guess
  else guess - 1

def Decimal.strip : Nat → Decimal → Decimal
  | 0, d => d
  | fuel + 1, d =>
    if d.digits ≠ 0 ∧ d.digits % 10 = 0 then strip fuel ⟨d.digits / 10, d.exponent + 1⟩ else d

/-- The shortest decimal that rounds to `x`; seventeen digits always suffice. -/
def shortest (x : Binary64) : Decimal :=
  let high := highDigit x
  let found := (List.range 17).findSome? fun (n : Nat) => atUnit? x (high - n)
  Decimal.strip 20 (found.getD ⟨floorAt x (high - 17), high - 17⟩)

end SessionGateway.Binary64
