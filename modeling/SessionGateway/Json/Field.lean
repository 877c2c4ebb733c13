import SessionGateway.Json.Printer
import SessionGateway.Json.Reader
import SessionGateway.Text.Quoted

/-!
Reading values of a known shape, and the wording of what is wrong with them.
-/

namespace SessionGateway.Json

def Found.describe : Found → String
  | null => "null"
  | bool b => if b then "boolean `true`" else "boolean `false`"
  | int n => "integer `" ++ String.ofList (intChars n) ++ "`"
  | float x => "floating point `" ++ String.ofList (floatChars x) ++ "`"
  | str s => "string " ++ Text.quoted s
  | sequence => "sequence"
  | map => "map"

def ReadError.message : ReadError → String
  | malformed => "<syntax>"
  | wrongType found expected => "invalid type: " ++ found.describe ++ ", expected " ++ expected
  | outOfRange n expected =>
    "invalid value: integer `" ++ String.ofList (intChars n) ++ "`, expected " ++ expected
  | missingField name => "missing field `" ++ name ++ "`"
  | repeatedField name => "duplicate field `" ++ name ++ "`"
  | tooShort n expected => s!"invalid length {n}, expected " ++ expected

def ReadError.isMalformed : ReadError → Bool
  | malformed => true
  | _ => false

def Found.ofJson : Json → Found
  | .null => null
  | .bool b => bool b
  | .int n => int n
  | .float x => float x
  | .str s => str s
  | .arr _ => sequence
  | .obj _ => map

/-- The fault of a value that is not what is expected. A scalar is read to its end first; an array
or object is reported as soon as it opens. -/
def mismatch (expected : String) (input : List Char) : ReadError :=
  match skipBlank input with
  | '[' :: _ => .wrongType .sequence expected
  | '{' :: _ => .wrongType .map expected
  | input =>
    match readValue 0 input with
    | .ok (v, _) => .wrongType (.ofJson v) expected
    | .error e => e

def readText (input : List Char) : Read (String × List Char) :=
  match skipBlank input with
  | '"' :: rest => readStringTail rest
  | _ => .error (mismatch "a string" input)

def readInteger (least greatest : Int) (expected : String) (input : List Char) :
    Read (Int × List Char) :=
  match readValue 0 input with
  | .ok (.int n, rest) =>
    if least ≤ n ∧ n ≤ greatest then .ok (n, rest) else .error (.outOfRange n expected)
  | _ => .error (mismatch expected input)

def readInt64 (input : List Char) : Read (Int64 × List Char) := do
  let (n, rest) ← readInteger Int64.minValue.toInt Int64.maxValue.toInt "i64" input
  return (Int64.ofInt n, rest)

def readUInt64 (input : List Char) : Read (UInt64 × List Char) := do
  let (n, rest) ← readInteger 0 (UInt64.size - 1) "u64" input
  return (UInt64.ofNat n.toNat, rest)

def readOptional {α : Type} (read : List Char → Read (α × List Char)) (input : List Char) :
    Read (Option α × List Char) :=
  match skipBlank input with
  | 'n' :: rest =>
    match rest with
    | 'u' :: 'l' :: 'l' :: rest => .ok (none, rest)
    | _ => .error .malformed
  | _ => do
    let (v, rest) ← read input
    return (some v, rest)

def readField {α : Type} (name : String) (seen : Option α)
    (read : List Char → Read (α × List Char)) (input : List Char) : Read (α × List Char) :=
  match seen with
  | some _ => .error (.repeatedField name)
  | none => do
    let rest ← readColon input
    read rest

def skipField (input : List Char) : Read (List Char) := do
  let rest ← readColon input
  skipValue rest

/-- Reads the elements of a tuple whose opening bracket has been read: each of `elements` in turn,
as far as the array goes. An array that goes on longer is malformed. -/
def readTuple {σ : Type} : List (σ → List Char → Read (σ × List Char)) → Bool → σ →
    List Char → Read ((σ × Nat) × List Char)
  | elements, isFirst, s, input =>
    match skipBlank input, elements with
    | ']' :: rest, _ => .ok ((s, 0), rest)
    | _, [] => .error .malformed
    | ahead, element :: elements => do
      let ahead ←
        if isFirst then pure ahead
        else
          match ahead with
          | ',' :: rest => pure rest
          | _ => .error .malformed
      let (s, rest) ← element s ahead
      let ((s, n), rest) ← readTuple elements false s rest
      return ((s, n + 1), rest)

/-- A record that is written as an object of named members or as an array of its fields in order.
`finish` makes the record of what was read, or names a field that is missing. -/
structure RecordForm (σ α : Type) where
  name : String
  start : σ
  member : σ → String → List Char → Read (σ × List Char)
  elements : List (σ → List Char → Read (σ × List Char))
  finish : σ → Except String α

def RecordForm.readMembers {σ α : Type} (form : RecordForm σ α) (input : List Char) :
    Read (α × List Char) := do
  let (s, rest) ← readObjectTail readStringTail form.member form.start input
  match form.finish s with
  | .ok v => return (v, rest)
  | .error field => .error (.missingField field)

def RecordForm.readElements {σ α : Type} (form : RecordForm σ α) (input : List Char) :
    Read (α × List Char) := do
  let ((s, n), rest) ← readTuple form.elements true form.start input
  match form.finish s with
  | .ok v => return (v, rest)
  | .error _ =>
    let all := form.elements.length
    let unit := if all = 1 then " element" else " elements"
    .error (.tooShort n (form.name ++ s!" with {all}" ++ unit))

def RecordForm.read {σ α : Type} (form : RecordForm σ α) (input : List Char) :
    Read (α × List Char) :=
  match skipBlank input with
  | '{' :: rest => form.readMembers rest
  | '[' :: rest => form.readElements rest
  | _ => .error (mismatch form.name input)

end SessionGateway.Json
