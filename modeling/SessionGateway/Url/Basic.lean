import SessionGateway.Text.Percent

/-!
URLs in their parts, and their text. The parts are kept as they are written in the text, already
percent-encoded.
-/

namespace SessionGateway

namespace Url

inductive Host where
  /-- A name; the empty one stands for no host. -/
  | name (text : String)
  | ipv4 (address : Nat)
  | ipv6 (groups : List Nat)
  deriving DecidableEq, Repr

structure Authority where
  user : String
  password : Option String
  host : Host
  portNumber : Option Nat
  deriving DecidableEq, Repr

inductive Path where
  /-- Text that has no segments, as in `mailto:a@b`. -/
  | flat (text : String)
  | segments (list : List String)
  deriving DecidableEq, Repr

end Url

structure Url where
  scheme : String
  authority : Option Url.Authority
  path : Url.Path
  query : Option String
  fragment : Option String
  /-- Whether `/.` is written before the path, so that two slashes at its start are not read as the
  start of an authority. -/
  isMarked : Bool := false
  deriving DecidableEq, Repr

namespace Url

def usualPorts : List (String × Nat) :=
  [("http", 80), ("https", 443), ("ws", 80), ("wss", 443), ("ftp", 21)]

def isSpecialScheme (scheme : String) : Bool :=
  scheme == "file" || (usualPorts.lookup scheme).isSome

def hexText (n : Nat) : String := String.ofList (Nat.toDigits 16 n)

/-- Where the longest run of two or more zero groups starts, the first of equals, and its length. -/
def longestZeros (groups : List Nat) : Nat × Nat :=
  let runAt (i : Nat) := ((groups.drop i).takeWhile (· == 0)).length
  (List.range groups.length).foldl
    (fun (best : Nat × Nat) i => if best.2 < runAt i then (i, runAt i) else best) (0, 1)

def colonJoined (groups : List Nat) : String := ":".intercalate (groups.map hexText)

def Host.render : Host → String
  | name text => text
  | ipv4 n =>
    let part (k : Nat) := toString (n / Nat.pow 256 k % 256)
    ".".intercalate [part 3, part 2, part 1, part 0]
  | ipv6 groups =>
    let (start, length) := longestZeros groups
    if length < 2 then "[" ++ colonJoined groups ++ "]"
    else
      "[" ++ colonJoined (groups.take start) ++ "::" ++ colonJoined (groups.drop (start + length))
        ++ "]"

def Authority.render (a : Authority) : String :=
  let user :=
    match a.password with
    | some password => a.user ++ ":" ++ password ++ "@"
    | none => if a.user.isEmpty then "" else a.user ++ "@"
  let portText :=
    match a.portNumber with
    | some n => s!":{n}"
    | none => ""
  "//" ++ user ++ a.host.render ++ portText

def Path.render : Path → String
  | flat text => text
  | segments list => String.join (list.map ("/" ++ ·))

def render (u : Url) : String :=
  let authority :=
    match u.authority with
    | some a => a.render
    | none => ""
  let query :=
    match u.query with
    | some q => "?" ++ q
    | none => ""
  let fragment :=
    match u.fragment with
    | some f => "#" ++ f
    | none => ""
  let mark := if u.isMarked then "/." else ""
  u.scheme ++ ":" ++ authority ++ mark ++ u.path.render ++ query ++ fragment

def hasHost (u : Url) : Bool :=
  match u.authority with
  | none => false
  | some a => a.host != .name ""

def hasSegments (u : Url) : Bool :=
  match u.path with
  | .flat _ => false
  | .segments _ => true

/-! The characters that are percent-encoded in each part, besides those past ASCII. -/

def inControlSet (c : Char) : Bool := c.toNat < 0x20 || c.toNat == 0x7F

def inFragmentSet (c : Char) : Bool :=
  inControlSet c || [' ', '"', '<', '>', '`'].contains c

def inPathSet (c : Char) : Bool :=
  inFragmentSet c || ['#', '?', '{', '}'].contains c

def inSegmentSet (special : Bool) (c : Char) : Bool :=
  inPathSet c || c == '/' || c == '%' || (special && c == '\\')

def inQuerySet (special : Bool) (c : Char) : Bool :=
  inControlSet c || [' ', '"', '#', '<', '>'].contains c || (special && c.toNat == 0x27)

def inUserSet (c : Char) : Bool :=
  inPathSet c || ['/', ':', ';', '=', '@', '[', '\\', ']', '^', '|'].contains c

end Url
end SessionGateway
