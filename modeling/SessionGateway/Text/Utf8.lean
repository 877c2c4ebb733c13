/-!
UTF-8. `encode` writes characters as bytes; `units` reads bytes as characters and ill-formed
runs, from which the strict, the longest-valid and the forgiving reading are taken.
-/

namespace SessionGateway.Text.Utf8

def encodeChar (c : Char) : List UInt8 :=
  let n := c.toNat
  if n < 0x80 then [n.toUInt8]
  else if n < 0x800 then [(0xC0 + n / 0x40).toUInt8, (0x80 + n % 0x40).toUInt8]
  else if n < 0x10000 then
    [(0xE0 + n / 0x1000).toUInt8, (0x80 + n / 0x40 % 0x40).toUInt8, (0x80 + n % 0x40).toUInt8]
  else
    [(0xF0 + n / 0x40000).toUInt8, (0x80 + n / 0x1000 % 0x40).toUInt8,
      (0x80 + n / 0x40 % 0x40).toUInt8, (0x80 + n % 0x40).toUInt8]

def encode (cs : List Char) : List UInt8 := cs.flatMap encodeChar

def isContinuation (b : UInt8) : Bool := 0x80 ≤ b && b ≤ 0xBF

/-- The second bytes that may follow the first byte of a character of three or four bytes: they
rule out longer spellings than needed, surrogates, and code points past the last. -/
def isSecond (first second : UInt8) : Bool :=
  if first == 0xE0 then 0xA0 ≤ second && second ≤ 0xBF
  else if first == 0xED then 0x80 ≤ second && second ≤ 0x9F
  else if first == 0xF0 then 0x90 ≤ second && second ≤ 0xBF
  else if first == 0xF4 then 0x80 ≤ second && second ≤ 0x8F
  else isContinuation second

def low (b : UInt8) : Nat := b.toNat % 0x40

/-- The characters of `bytes`, with `none` for each longest run that begins a character and does
not finish it, and for each byte that begins none. -/
def units : List UInt8 → List (Option Char)
  | [] => []
  | a :: r =>
    if a < 0x80 then some (Char.ofNat a.toNat) :: units r
    else if 0xC2 ≤ a && a ≤ 0xDF then
      match r with
      | b :: r' =>
        if isContinuation b then some (Char.ofNat (a.toNat % 0x20 * 0x40 + low b)) :: units r'
        else none :: units (b :: r')
      | [] => [none]
    else if 0xE0 ≤ a && a ≤ 0xEF then
      match r with
      | b :: r' =>
        if isSecond a b then
          match r' with
          | c :: r'' =>
            if isContinuation c then
              some (Char.ofNat (a.toNat % 0x10 * 0x1000 + low b * 0x40 + low c)) :: units r''
            else none :: units (c :: r'')
          | [] => [none]
        else none :: units (b :: r')
      | [] => [none]
    else if 0xF0 ≤ a && a ≤ 0xF4 then
      match r with
      | b :: r' =>
        if isSecond a b then
          match r' with
          | c :: r'' =>
            if isContinuation c then
              match r'' with
              | d :: r''' =>
                if isContinuation d then
                  some (Char.ofNat
                    (a.toNat % 8 * 0x40000 + low b * 0x1000 + low c * 0x40 + low d))
                    :: units r'''
                else none :: units (d :: r''')
              | [] => [none]
            else none :: units (c :: r'')
          | [] => [none]
        else none :: units (b :: r')
      | [] => [none]
    else none :: units r

def validStart (bytes : List UInt8) : List Char :=
  ((units bytes).takeWhile Option.isSome).filterMap id

def isValid (bytes : List UInt8) : Bool := (units bytes).all Option.isSome

def decode? (bytes : List UInt8) : Option (List Char) :=
  if isValid bytes then some (validStart bytes) else none

def decodeLossy (bytes : List UInt8) : List Char :=
  (units bytes).map (·.getD '\uFFFD')

end SessionGateway.Text.Utf8
