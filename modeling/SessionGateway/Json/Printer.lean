import SessionGateway.Json.Basic
import SessionGateway.Number.Shortest
import SessionGateway.Text.Percent

/-!
Compact JSON text: no blanks, members in their listed order, only what must be escaped escaped.
-/

namespace SessionGateway.Json

def decimalChars (n : Nat) : List Char := Nat.toDigits 10 n

def intChars (n : Int) : List Char :=
  if n < 0 then '-' :: decimalChars n.natAbs else decimalChars n.natAbs

/-- How a floating-point number is laid out: with a point among its digits when the exponent of
the first digit is from `least` to `greatest`, and with an exponent otherwise. -/
structure Layout where
  least : Int
  greatest : Int

def layout : Layout := ⟨-5, 15⟩

def positionalChars (digits : List Char) (exponent : Int) : List Char :=
  if exponent < 0 then
    '0' :: '.' :: List.replicate (-exponent - 1).toNat '0' ++ digits
  else
    let whole := exponent.toNat + 1
    let shown := digits ++ List.replicate (whole - digits.length) '0'
    let fraction := shown.drop whole
    shown.take whole ++ '.' :: (if fraction.isEmpty then ['0'] else fraction)

def scientificChars (digits : List Char) (exponent : Int) : List Char :=
  let point := if digits.length ≤ 1 then [] else '.' :: digits.drop 1
  let sign := if exponent < 0 then '-' else '+'
  digits.take 1 ++ point ++ 'e' :: sign :: decimalChars exponent.natAbs

def floatChars (x : Binary64) : List Char :=
  let sign := if x.negative then ['-'] else []
  if x.mantissa = 0 then sign ++ ['0', '.', '0']
  else
    let d := x.shortest
    let digits := decimalChars d.digits
    let exponent := d.exponent + digits.length - 1
    if layout.least ≤ exponent ∧ exponent ≤ layout.greatest then
      sign ++ positionalChars digits exponent
    else sign ++ scientificChars digits exponent

def escapedChar (c : Char) : List Char :=
  if c = '"' then ['\\', '"']
  else if c = '\\' then ['\\', '\\']
  else if c.toNat = 0x08 then ['\\', 'b']
  else if c.toNat = 0x0C then ['\\', 'f']
  else if c = '\n' then ['\\', 'n']
  else if c = '\r' then ['\\', 'r']
  else if c = '\t' then ['\\', 't']
  else if c.toNat < 0x20 then
    ['\\', 'u', '0', '0', Text.hexLower (c.toNat / 16), Text.hexLower (c.toNat % 16)]
  else [c]

def stringChars (s : String) : List Char :=
  '"' :: s.toList.flatMap escapedChar ++ ['"']

mutual

def chars : Json → List Char
  | null => ['n', 'u', 'l', 'l']
  | bool true => ['t', 'r', 'u', 'e']
  | bool false => ['f', 'a', 'l', 's', 'e']
  | int n => intChars n
  | float x => floatChars x
  | str s => stringChars s
  | arr items => '[' :: itemsChars items ++ [']']
  | obj members => '{' :: membersChars members ++ ['}']
termination_by structural v => v

def itemsChars : List Json → List Char
  | [] => []
  | [v] => chars v
  | v :: w :: rest => chars v ++ ',' :: itemsChars (w :: rest)
termination_by structural vs => vs

def membersChars : List (String × Json) → List Char
  | [] => []
  | [(k, v)] => stringChars k ++ ':' :: chars v
  | (k, v) :: m :: rest => stringChars k ++ ':' :: chars v ++ ',' :: membersChars (m :: rest)
termination_by structural ms => ms

end

def render (v : Json) : String := String.ofList (chars v)

end SessionGateway.Json
