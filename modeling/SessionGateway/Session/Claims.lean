import SessionGateway.Cache.Entry
import SessionGateway.Json.Field

/-!
The claims of a session token: five that are known by name, and whatever else the token carries.
-/

namespace SessionGateway

structure Claims where
  sub : Option String
  /-- Expiry, in seconds since the start of 1970. -/
  exp : Option Int64
  iat : Option Int64
  email : Option String
  name : Option String
  extra : Json.Members
  deriving BEq, Repr

namespace Claims

def isExpiredAt (c : Claims) (now : Instant) : Bool :=
  match c.exp with
  | none => false
  | some exp => Int64.ofIntClamp (exp.toInt * 1000) ≤ now

def textMember (key : String) (value : Option String) : Json.Members :=
  (value.map fun s => (key, Json.str s)).toList

def instantMember (key : String) (value : Option Int64) : Json.Members :=
  (value.map fun n => (key, Json.int n.toInt)).toList

def toJson (c : Claims) : Json :=
  .obj (textMember "sub" c.sub ++ instantMember "exp" c.exp ++ instantMember "iat" c.iat
    ++ textMember "email" c.email ++ textMember "name" c.name ++ c.extra)

/-- Claims while they are read: what has been seen of each known name, null included. -/
structure Draft where
  sub : Option (Option String) := none
  exp : Option (Option Int64) := none
  iat : Option (Option Int64) := none
  email : Option (Option String) := none
  name : Option (Option String) := none
  extra : Json.Members := []

def Draft.finish (d : Draft) : Claims :=
  ⟨d.sub.join, d.exp.join, d.iat.join, d.email.join, d.name.join, d.extra⟩

open Json in
def Draft.readMember (d : Draft) (key : String) (input : List Char) :
    Read (Draft × List Char) :=
  if key = "sub" then do
    let (v, rest) ← readField key d.sub (readOptional readText) input
    return ({ d with sub := some v }, rest)
  else if key = "exp" then do
    let (v, rest) ← readField key d.exp (readOptional readInt64) input
    return ({ d with exp := some v }, rest)
  else if key = "iat" then do
    let (v, rest) ← readField key d.iat (readOptional readInt64) input
    return ({ d with iat := some v }, rest)
  else if key = "email" then do
    let (v, rest) ← readField key d.email (readOptional readText) input
    return ({ d with email := some v }, rest)
  else if key = "name" then do
    let (v, rest) ← readField key d.name (readOptional readText) input
    return ({ d with name := some v }, rest)
  else do
    let rest ← readColon input
    let (v, rest) ← readValue (maxDepth - 1) rest
    return ({ d with extra := insertMember key v d.extra }, rest)

/-- Reads an object in which null stands for a known claim that is absent, and no known claim
stands twice. -/
def read (input : List Char) : Json.Read (Claims × List Char) :=
  match Json.skipBlank input with
  | '{' :: rest => do
    let (d, rest) ← Json.readObjectTail Json.readStringTail Draft.readMember {} rest
    return (d.finish, rest)
  | _ => .error (Json.mismatch "struct JwtClaims" input)

end Claims
end SessionGateway
