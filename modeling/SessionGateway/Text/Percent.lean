import SessionGateway.Text.Hex
import SessionGateway.Text.Utf8

/-!
Percent-encoding of the UTF-8 bytes of characters, and its reading.
-/

namespace SessionGateway.Text.Percent

def encodeByte (b : UInt8) : List Char :=
  ['%', hexUpper (b.toNat / 16), hexUpper (b.toNat % 16)]

def encodeChar (inSet : Char → Bool) (c : Char) : List Char :=
  if c.toNat < 0x80 && ! inSet c then [c] else (Utf8.encodeChar c).flatMap encodeByte

def encode (inSet : Char → Bool) (cs : List Char) : List Char :=
  cs.flatMap (encodeChar inSet)

/-- A percent sign that two hexadecimal digits do not follow stands for itself. -/
def decode : List Char → List UInt8
  | [] => []
  | '%' :: a :: b :: rest =>
    match hexValue? a, hexValue? b with
    | some x, some y => (16 * x + y).toUInt8 :: decode rest
    | _, _ => 0x25 :: decode (a :: b :: rest)
  | c :: rest => Utf8.encodeChar c ++ decode rest

end SessionGateway.Text.Percent
