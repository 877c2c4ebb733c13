import SessionGateway.Config
import SessionGateway.Portal.Reply
import SessionGateway.Text.Form
import SessionGateway.Url.Parser

/-!
Calls to the portal: where each goes, what it carries, and whether it can be sent at all.
-/

namespace SessionGateway.Portal

inductive Call where
  | profile
  | suggestions (kind query : String)
  | submission (body : Json)
  | dataRequest (id : String)
  deriving BEq, Repr

def baseOf (config : Config) : Except GatewayError Url :=
  let configured := config.apiBaseUrl
  let trimmed := String.ofList (Text.dropEndWhile (· == '/') configured.toList)
  match Url.parse trimmed with
  | .error e =>
    .error (.internal ("invalid API base URL '" ++ configured ++ "': " ++ e.message))
  | .ok url =>
    if url.hasSegments then .ok url
    else .error (.internal ("API base URL '" ++ configured ++ "' cannot carry a path"))

def Call.segments : Call → List String
  | profile => ["users", "me"]
  | suggestions kind _ => ["typeahead", kind]
  | submission _ => ["data-requests"]
  | dataRequest id => ["data-requests", id]

def Call.queryPair? : Call → Option String
  | suggestions _ query =>
    some (String.ofList ("query=".toList ++ Text.Form.encode query.toList))
  | _ => none

def Call.endpoint (base : Url) (call : Call) : Url := base.extend call.segments

def withPair (query : Option String) (pair : String) : String :=
  match query with
  | none => pair
  | some q => if q.isEmpty then pair else q ++ "&" ++ pair

/-- A URL without user and password, which are not sent in it. -/
def withoutUser (url : Url) : Url :=
  { url with authority := url.authority.map fun a => { a with user := "", password := none } }

def Call.url (base : Url) (call : Call) : Url :=
  let url := withoutUser (call.endpoint base)
  match call.queryPair? with
  | none => url
  | some pair => { url with query := some (withPair url.query pair) }

/-- A request as it is sent. The base is taken to have no user and password: from those a client
would make a second authorization, which stands beside the one here. -/
structure Outgoing where
  method : String
  url : Url
  authorization : Option String
  contentType : Option String
  body : String
  deriving DecidableEq, Repr

def userAgent : String := "portal-cache/0.1.0"

def Outgoing.target (o : Outgoing) : String :=
  let path := o.url.path.render
  let query :=
    match o.url.query with
    | some q => "?" ++ q
    | none => ""
  (if path.isEmpty then "/" else path) ++ query

/-- A header with the token as it arrives: blanks at the end are lost on the way. -/
def Outgoing.arrivingAuthorization (o : Outgoing) : Option String :=
  o.authorization.map fun s =>
    String.ofList (Text.dropEndWhile (fun c => c == ' ' || c == '\t') s.toList)

def fitsHeader (c : Char) : Bool := c == '\t' || (0x20 ≤ c.toNat && c.toNat != 0x7F)

def fitsInHeader (token : String) : Bool := token.toList.all fitsHeader

def isHttp (url : Url) : Bool := url.scheme == "http" || url.scheme == "https"

def longestAddress : Nat := 65534

def fitsRequest (url : Url) : Bool :=
  (url.authority.all fun a => a.host.render.toList.all (! ['"', '`', '{', '}'].contains ·))
    && url.render.utf8ByteSize ≤ longestAddress

/-- The request for a call, or why it cannot be sent. An address without host is found out before
the token is looked at, other faults of the address after. -/
def Call.outgoing (base : Url) (call : Call) (token : Option String) :
    Except NetworkError Outgoing :=
  let endpoint := call.endpoint base
  let url := call.url base
  if ! endpoint.hasHost then .error (.address endpoint.render)
  else if ! token.all fitsInHeader then .error .header
  else if ! (isHttp url && fitsRequest url) then .error (.address url.render)
  else
    let authorization := token.map ("Bearer " ++ ·)
    match call with
    | .submission body =>
      .ok ⟨"POST", url, authorization, some "application/json", body.render⟩
    | _ => .ok ⟨"GET", url, authorization, none, ""⟩

def Outgoing.value (o : Outgoing) : Outcome → Except GatewayError Json
  | .unreachable => .error (.network (.unreachable o.url.render))
  | .replied reply => reply.value

end SessionGateway.Portal
