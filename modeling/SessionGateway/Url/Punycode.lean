/-!
The ASCII form of labels with other characters: the ASCII characters first, then where and which
the others are, as numbers in base 36 with digits of varying weight. Both ways.
-/

namespace SessionGateway.Url.Punycode

def digit (n : Nat) : Char := Char.ofNat (if n < 26 then 0x61 + n else 0x30 + (n - 26))

def digitValue? (c : Char) : Option Nat :=
  let n := c.toNat
  if 0x61 ≤ n && n ≤ 0x7A then some (n - 0x61)
  else if 0x41 ≤ n && n ≤ 0x5A then some (n - 0x41)
  else if 0x30 ≤ n && n ≤ 0x39 then some (n - 0x30 + 26)
  else none

/-- The value at which a digit at position `k` is the last of its number. -/
def threshold (k bias : Nat) : Nat :=
  if k ≤ bias then 1 else if bias + 26 ≤ k then 26 else k - bias

def number (bias : Nat) : Nat → Nat → Nat → List Char
  | 0, _, _ => []
  | fuel + 1, k, q =>
    let t := threshold k bias
    if q < t then [digit q]
    else digit (t + (q - t) % (36 - t)) :: number bias fuel (k + 36) ((q - t) / (36 - t))

/-- Divides by 35 until the number is small; counts in steps of 36. -/
def settle : Nat → Nat → Nat → Nat
  | 0, _, k => k
  | fuel + 1, delta, k =>
    if 455 < delta then settle fuel (delta / 35) (k + 36) else k + 36 * delta / (delta + 38)

def adapt (delta points : Nat) (isFirst : Bool) : Nat :=
  let delta := if isFirst then delta / 700 else delta / 2
  settle 64 (delta + delta / points) 0

structure State where
  delta : Nat
  bias : Nat
  handled : Nat
  out : List Char

/-- Goes over the label for the character `m`: characters below it are counted, and each `m` is
written as the count since the last one. -/
def pass (basic m : Nat) (label : List Char) (s : State) : State :=
  label.foldl
    (fun s c =>
      let n := c.toNat
      if n < m then { s with delta := s.delta + 1 }
      else if n = m then
        { delta := 0
          bias := adapt s.delta (s.handled + 1) (s.handled == basic)
          handled := s.handled + 1
          out := s.out ++ number s.bias 64 36 s.delta }
      else s) s

def others (label : List Char) : List Nat :=
  let codes := ((label.filter (0x80 ≤ ·.toNat)).map Char.toNat).mergeSort (· ≤ ·)
  codes.foldr (fun n rest => if rest.head? = some n then rest else n :: rest) []

def encode (label : List Char) : List Char :=
  let basic := label.filter (·.toNat < 0x80)
  let start : State :=
    ⟨0, 72, basic.length, if basic.isEmpty then [] else basic ++ ['-']⟩
  let (s, _) := (others label).foldl
    (fun ((s, n) : State × Nat) m =>
      let s := pass basic.length m label { s with delta := s.delta + (m - n) * (s.handled + 1) }
      ({ s with delta := s.delta + 1 }, m + 1)) (start, 0x80)
  s.out

/-- Reads a number, least digit first, and what follows it. Weights stay below 2^32. -/
def readNumber (bias : Nat) : Nat → Nat → List Char → Option (Nat × List Char)
  | _, _, [] => none
  | k, weight, c :: rest => do
    let d ← digitValue? c
    let t := threshold k bias
    if d < t then some (d * weight, rest)
    else if Nat.pow 2 32 ≤ weight * (36 - t) then none
    else
      let (n, rest) ← readNumber bias (k + 36) (weight * (36 - t)) rest
      some (d * weight + n, rest)

/-- Puts the other characters into the label. Each comes after `n` or is the same, and each number
says how many places are passed since `place`, going round the label once for every character code.
The fuel bounds how many numbers are read. -/
def insertAll : Nat → List Char → Nat → Nat → Nat → List Char → Option (List Char)
  | _, label, _, _, _, [] => some label
  | 0, _, _, _, _, _ :: _ => none
  | fuel + 1, label, n, place, bias, c :: rest => do
    let (delta, rest) ← readNumber bias 36 1 (c :: rest)
    let size := label.length + 1
    let n := n + (place + delta) / size
    let spot := (place + delta) % size
    if n.isValidChar then
      insertAll fuel (label.insertIdx spot (Char.ofNat n)) n (spot + 1)
        (adapt delta size (place == 0)) rest
    else none

/-- The characters before the last hyphen and the text after it. Without a hyphen, or with only the
first character one, all is text. -/
def splitLastHyphen (cs : List Char) : List Char × List Char :=
  match cs.reverse.dropWhile (· != '-') with
  | [] | [_] => ([], cs)
  | _ :: before => (before.reverse, (cs.reverse.takeWhile (· != '-')).reverse)

def decode? (cs : List Char) : Option (List Char) :=
  let (basic, text) := splitLastHyphen cs
  insertAll text.length basic 0x80 0 72 text

end SessionGateway.Url.Punycode
