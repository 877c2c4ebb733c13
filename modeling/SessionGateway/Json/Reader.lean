import SessionGateway.Json.Lexeme
import SessionGateway.Text.Utf8

/-!
Reading JSON text. Each reader takes the text ahead and returns what it read with the text that
follows; the first fault from the left is the answer.
-/

namespace SessionGateway

section

variable {ε α β : Type}

theorem eq_ok_of_toOption {x : Except ε α} {a : α} (h : x.toOption = some a) : x = .ok a := by
  cases x with
  | error e => cases h
  | ok b => exact congrArg Except.ok (Option.some.inj h)

theorem Json.exists_of_bind_eq_ok {x : Except ε α} {f : α → Except ε β} {b : β}
    (h : (x >>= f) = .ok b) : ∃ a, x = .ok a ∧ f a = .ok b := by
  cases x with
  | error e => cases h
  | ok a => exact ⟨a, rfl, h⟩

theorem Json.toOption_bind (x : Except ε α) (f : α → Except ε β) :
    (x >>= f).toOption = x.toOption.bind fun a => (f a).toOption := by
  cases x <;> rfl

end

namespace Json

def maxDepth : Nat := 127

/-- Reads items and commas up to the closing bracket. The first argument bounds the items. -/
def readItems {α : Type} (item : List Char → Read (α × List Char)) :
    Nat → List Char → Read (List α × List Char)
  | 0, _ => .error .malformed
  | fuel + 1, input => do
    let (v, rest) ← item input
    match skipBlank rest with
    | ']' :: rest => return ([v], rest)
    | ',' :: rest =>
      let (vs, rest) ← readItems item fuel rest
      return (v :: vs, rest)
    | _ => .error .malformed

def readArrayTail {α : Type} (item : List Char → Read (α × List Char)) (input : List Char) :
    Read (List α × List Char) :=
  match skipBlank input with
  | ']' :: rest => .ok ([], rest)
  | _ => readItems item input.length input

/-- Reads members and commas up to the closing brace. `member` is called after each key, and reads
the colon and the value. The first argument bounds the members. -/
def foldMembers {κ σ : Type} (key : List Char → Read (κ × List Char))
    (member : σ → κ → List Char → Read (σ × List Char)) :
    Nat → σ → List Char → Read (σ × List Char)
  | 0, _, _ => .error .malformed
  | fuel + 1, s, input =>
    match skipBlank input with
    | '"' :: rest => do
      let (k, rest) ← key rest
      let (s, rest) ← member s k rest
      match skipBlank rest with
      | '}' :: rest => return (s, rest)
      | ',' :: rest => foldMembers key member fuel s rest
      | _ => .error .malformed
    | _ => .error .malformed

def readObjectTail {κ σ : Type} (key : List Char → Read (κ × List Char))
    (member : σ → κ → List Char → Read (σ × List Char)) (s : σ) (input : List Char) :
    Read (σ × List Char) :=
  match skipBlank input with
  | '}' :: rest => .ok (s, rest)
  | _ => foldMembers key member input.length s input

def readColon (input : List Char) : Read (List Char) :=
  match skipBlank input with
  | ':' :: rest => .ok rest
  | _ => .error .malformed

def readNumber (input : List Char) : Read (Json × List Char) :=
  match scanNumber input with
  | none => .error .malformed
  | some (text, rest) =>
    match text.value? with
    | none => .error .malformed
    | some v => .ok (v, rest)

def readValue (depth : Nat) (input : List Char) : Read (Json × List Char) :=
  match skipBlank input with
  | 'n' :: 'u' :: 'l' :: 'l' :: rest => .ok (null, rest)
  | 't' :: 'r' :: 'u' :: 'e' :: rest => .ok (bool true, rest)
  | 'f' :: 'a' :: 'l' :: 's' :: 'e' :: rest => .ok (bool false, rest)
  | '"' :: rest => do
    let (s, rest) ← readStringTail rest
    return (str s, rest)
  | '[' :: rest =>
    match depth with
    | 0 => .error .malformed
    | depth + 1 => do
      let (items, rest) ← readArrayTail (readValue depth) rest
      return (arr items, rest)
  | '{' :: rest =>
    match depth with
    | 0 => .error .malformed
    | depth + 1 => do
      let (members, rest) ← readObjectTail readStringTail (fun members key rest => do
        let rest ← readColon rest
        let (v, rest) ← readValue depth rest
        return (insertMember key v members, rest)) [] rest
      return (obj members, rest)
  | input => readNumber input
termination_by structural depth

def scanKey (input : List Char) : Read (Unit × List Char) :=
  match scanString input with
  | none => .error .malformed
  | some (_, rest) => .ok ((), rest)

/-- Skips a value: only its grammar is checked, not what its strings and numbers stand for. -/
def skipNested (depth : Nat) (input : List Char) : Read (Unit × List Char) :=
  match skipBlank input with
  | 'n' :: 'u' :: 'l' :: 'l' :: rest => .ok ((), rest)
  | 't' :: 'r' :: 'u' :: 'e' :: rest => .ok ((), rest)
  | 'f' :: 'a' :: 'l' :: 's' :: 'e' :: rest => .ok ((), rest)
  | '"' :: rest => scanKey rest
  | '[' :: rest =>
    match depth with
    | 0 => .error .malformed
    | depth + 1 => do
      let (_, rest) ← readArrayTail (skipNested depth) rest
      return ((), rest)
  | '{' :: rest =>
    match depth with
    | 0 => .error .malformed
    | depth + 1 =>
      readObjectTail scanKey (fun _ _ rest => do
        let rest ← readColon rest
        skipNested depth rest) () rest
  | input =>
    match scanNumber input with
    | none => .error .malformed
    | some (_, rest) => .ok ((), rest)
termination_by structural depth

/-- The text cannot nest deeper than it is long, so the depth is not limited. -/
def skipValue (input : List Char) : Read (List Char) := do
  let (_, rest) ← skipNested input.length input
  return rest

def readWhole {α : Type} (read : List Char → Read (α × List Char)) (input : List Char) :
    Read α := do
  let (v, rest) ← read input
  if (skipBlank rest).isEmpty then return v else .error .malformed

def readFirst {α : Type} (read : List Char → Read (α × List Char)) (input : List Char) :
    Read α := do
  let (v, _) ← read input
  return v

/-- Reads bytes up to the first that is not UTF-8, which is a fault unless one came before it. -/
def readBytes {α : Type} (read : List Char → Read (α × List Char)) (bytes : List UInt8) :
    Read α :=
  let input := Text.Utf8.validStart bytes
  if Text.Utf8.isValid bytes then readWhole read input
  else do
    let _ ← read input
    .error .malformed

def parse (s : String) : Read Json := readWhole (readValue maxDepth) s.toList

end Json
end SessionGateway
