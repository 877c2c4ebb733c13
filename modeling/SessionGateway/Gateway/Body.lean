import SessionGateway.Json.Field
import SessionGateway.Cache.Entry
import SessionGateway.Text.Blank
import SessionGateway.Text.Whole

/-!
What requests carry in their bodies and queries, how it is read, and which values are refused.
-/

namespace SessionGateway

open Json (Read RecordForm readField readOptional readText readInt64 readUInt64 skipField)

structure Login where
  token : String
  deriving DecidableEq, Repr

def Login.form : RecordForm (Option String) Login where
  name := "struct LoginRequest"
  start := none
  member seen key input :=
    if key = "token" then do
      let (v, rest) ← readField key seen readText input
      return (some v, rest)
    else do
      let rest ← skipField input
      return (seen, rest)
  elements := [fun _ input => do
    let (v, rest) ← readText input
    return (some v, rest)]
  finish
    | some token => .ok ⟨token⟩
    | none => .error "token"

def Login.problem? (l : Login) : Option String :=
  if (Text.trim l.token).isEmpty then some "Token cannot be empty" else none

structure RouteChoice where
  route : String
  deriving DecidableEq, Repr

def RouteChoice.form : RecordForm (Option String) RouteChoice where
  name := "struct RouteRequest"
  start := none
  member seen key input :=
    if key = "route" then do
      let (v, rest) ← readField key seen readText input
      return (some v, rest)
    else do
      let rest ← skipField input
      return (seen, rest)
  elements := [fun _ input => do
    let (v, rest) ← readText input
    return (some v, rest)]
  finish
    | some route => .ok ⟨route⟩
    | none => .error "route"

def RouteChoice.problem? (r : RouteChoice) : Option String :=
  if r.route.toList.head? = some '/' then none else some "Route must be an absolute path"

structure CacheWrite where
  data : Json
  timestamp : Option Instant
  deriving BEq, Repr

def CacheWrite.form : RecordForm (Option Json × Option (Option Instant)) CacheWrite where
  name := "struct CacheSetRequest"
  start := (none, none)
  member seen key input :=
    if key = "data" then do
      let (v, rest) ← readField key seen.1 (Json.readValue (Json.maxDepth - 1)) input
      return ((some v, seen.2), rest)
    else if key = "timestamp" then do
      let (v, rest) ← readField key seen.2 (readOptional readInt64) input
      return ((seen.1, some v), rest)
    else do
      let rest ← skipField input
      return (seen, rest)
  elements := [
    fun seen input => do
      let (v, rest) ← Json.readValue (Json.maxDepth - 1) input
      return ((some v, seen.2), rest),
    fun seen input => do
      let (v, rest) ← readOptional readInt64 input
      return ((seen.1, some v), rest)]
  finish
    | (some data, timestamp) => .ok ⟨data, timestamp.join⟩
    | (none, _) => .error "data"

structure FreshnessQuery where
  window : Option Window
  now : Option Instant
  deriving DecidableEq, Repr

def FreshnessQuery.form :
    RecordForm (Option (Option Window) × Option (Option Instant)) FreshnessQuery where
  name := "struct ValidityQuery"
  start := (none, none)
  member seen key input :=
    if key = "interval_ms" then do
      let (v, rest) ← readField key seen.1 (readOptional readUInt64) input
      return ((some v, seen.2), rest)
    else if key = "now" then do
      let (v, rest) ← readField key seen.2 (readOptional readInt64) input
      return ((seen.1, some v), rest)
    else do
      let rest ← skipField input
      return (seen, rest)
  elements := [
    fun seen input => do
      let (v, rest) ← readOptional readUInt64 input
      return ((some v, seen.2), rest),
    fun seen input => do
      let (v, rest) ← readOptional readInt64 input
      return ((seen.1, some v), rest)]
  finish seen := .ok ⟨seen.1.join, seen.2.join⟩

structure SuggestionQuery where
  query : String
  deriving DecidableEq, Repr

def SuggestionQuery.form : RecordForm (Option String) SuggestionQuery where
  name := "struct TypeaheadQuery"
  start := none
  member seen key input :=
    if key = "query" then do
      let (v, rest) ← readField key seen readText input
      return (some v, rest)
    else do
      let rest ← skipField input
      return (seen, rest)
  elements := [fun _ input => do
    let (v, rest) ← readText input
    return (some v, rest)]
  finish seen := .ok ⟨seen.getD ""⟩

/-- The value of a name in a query: `some none` if it is absent, `none` if it stands twice. -/
def single? (pairs : List (String × String)) (name : String) : Option (Option String) :=
  match pairs.filter (·.1 == name) with
  | [] => some none
  | [(_, value)] => some (some value)
  | _ => none

def FreshnessQuery.ofPairs? (pairs : List (String × String)) : Option FreshnessQuery := do
  let window ← single? pairs "interval_ms"
  let now ← single? pairs "now"
  let window ← window.mapM (Text.natural? (UInt64.size - 1))
  let now ← now.mapM (Text.integer? Int64.minValue.toInt Int64.maxValue.toInt)
  return ⟨window.map UInt64.ofNat, now.map Int64.ofInt⟩

def SuggestionQuery.ofPairs? (pairs : List (String × String)) : Option SuggestionQuery := do
  let query ← single? pairs "query"
  return ⟨query.getD ""⟩

/-- The greatest length of a category, key, id or kind, in bytes. -/
def maxKeyLength : Nat := 256

def keyProblem? (label value : String) : Option String :=
  if value.isEmpty then some (label ++ " cannot be empty")
  else if maxKeyLength < value.utf8ByteSize then
    some (label ++ s!" exceeds maximum length of {maxKeyLength} bytes")
  else none

def segmentProblem? (label value : String) : Option String :=
  match keyProblem? label value with
  | some problem => some problem
  | none =>
    if value.toList.contains '/' ∨ value = "." ∨ value = ".." then
      some (label ++ " must be a single path segment")
    else none

end SessionGateway
