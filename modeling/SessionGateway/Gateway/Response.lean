import SessionGateway.Gateway.Answer
import SessionGateway.Gateway.Route

/-!
Requests as they reach the gateway and responses as they leave it.
-/

namespace SessionGateway

structure Request where
  method : Method
  target : String
  contentType : Option String
  body : List UInt8
  deriving DecidableEq, Repr

def afterScheme? : List Char → Option (List Char)
  | ':' :: '/' :: '/' :: rest => some rest
  | _ :: rest => afterScheme? rest
  | [] => none

def endsTargetPath (c : Char) : Bool := c == '?' || c == '#'

/-- The path of the target. One that names a scheme and an authority has the path after them, by
default the root; an authority alone has none. -/
def Request.path (r : Request) : List Char :=
  let text := r.target.toList
  if text.head? == some '/' || text == ['*'] then text.takeWhile (! endsTargetPath ·)
  else
    match afterScheme? text with
    | none => []
    | some rest =>
      let path := rest.dropWhile fun c => c != '/' && ! endsTargetPath c
      match path.takeWhile (! endsTargetPath ·) with
      | [] => ['/']
      | path => path

def Request.query (r : Request) : List Char :=
  let text := r.target.toList.takeWhile (· != '#')
  (text.dropWhile (· != '?')).drop 1

/-- Requests that do not have the form their route asks for. -/
inductive Rejection where
  | parameter
  | query
  | mediaType
  | tooLarge
  | malformedBody
  | mismatchedBody
  deriving DecidableEq, Repr

def Rejection.status : Rejection → Nat
  | parameter | query | malformedBody => 400
  | tooLarge => 413
  | mediaType => 415
  | mismatchedBody => 422

/-- The beginning of what a rejection says. For a parameter, a query and a body that cannot be read
the response goes on with the cause. -/
def Rejection.message : Rejection → String
  | parameter => "Invalid URL: Invalid UTF-8"
  | query => "Failed to deserialize query string"
  | mediaType => "Expected request with `Content-Type: application/json`"
  | tooLarge => "Failed to buffer the request body: length limit exceeded"
  | malformedBody => "Failed to parse the request body as JSON"
  | mismatchedBody => "Failed to deserialize the JSON body into the target type"

inductive Body where
  | empty
  | json (value : Json)
  | plain (text : String)

structure Response where
  status : Nat
  body : Body
  allow : List Method := []
  /-- Whether methods and headers are allowed to any origin, as the origin itself always is. -/
  isPreflight : Bool := false

namespace Response

def ofAnswer (a : Answer) : Response := ⟨200, .json a.toJson, [], false⟩

def ofError (e : GatewayError) : Response :=
  match e.body? with
  | none => ⟨e.status, .empty, [], false⟩
  | some v => ⟨e.status, .json v, [], false⟩

def ofRejection (r : Rejection) : Response := ⟨r.status, .plain r.message, [], false⟩

def notFound : Response := ⟨404, .empty, [], false⟩

def methodNotAllowed (allow : List Method) : Response := ⟨405, .empty, allow, false⟩

def preflight (allow : List Method) : Response := ⟨200, .empty, allow, true⟩

def withoutBody (r : Response) : Response := { r with body := .empty }

end Response
end SessionGateway
