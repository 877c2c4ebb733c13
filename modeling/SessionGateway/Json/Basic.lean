import SessionGateway.Number.Binary64

/-!
JSON values. Numbers are integers or binary floating-point numbers, and the two stay apart. The
members of an object keep the order in which they are listed; `insertMember` keeps a list sorted.
-/

namespace SessionGateway

inductive Json where
  | null
  | bool (value : Bool)
  | int (value : Int)
  | float (value : Binary64)
  | str (value : String)
  | arr (items : List Json)
  | obj (members : List (String × Json))
  deriving Repr, BEq, Inhabited

namespace Json

/-- Members sorted by key, each key once. -/
abbrev Members := List (String × Json)

def insertMember (key : String) (value : Json) : Members → Members
  | [] => [(key, value)]
  | (k, v) :: rest =>
    if key = k then (key, value) :: rest
    else if key < k then (key, value) :: (k, v) :: rest
    else (k, v) :: insertMember key value rest

def get? (key : String) : Json → Option Json
  | obj members => members.lookup key
  | _ => none

def asString? : Json → Option String
  | str s => some s
  | _ => none

def isObject : Json → Bool
  | obj _ => true
  | _ => false

end Json
end SessionGateway
