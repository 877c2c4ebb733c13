import SessionGateway.Json.Printer

/-!
What can go wrong in answering a request, and how each failure is worded and answered.
-/

namespace SessionGateway

inductive NetworkError where
  /-- The token has characters that no header may carry. -/
  | header
  /-- No request can be made for the address. -/
  | address (url : String)
  | unreachable (url : String)
  /-- A successful answer whose body is not one JSON value. -/
  | body
  deriving DecidableEq, Repr

def NetworkError.message : NetworkError → String
  | header => "builder error"
  | address url => "builder error for url (" ++ url ++ ")"
  | unreachable url => "error sending request for url (" ++ url ++ ")"
  | body => "error decoding response body"

inductive GatewayError where
  | notFound (message : String)
  | invalidRequest (message : String)
  | invalidToken (message : String)
  | unauthorized (message : String)
  | refused (status : Nat) (message : String)
  | network (cause : NetworkError)
  | ignorable (message : String)
  | internal (message : String)
  deriving DecidableEq, Repr

namespace GatewayError

def message : GatewayError → String
  | notFound m | invalidRequest m | invalidToken m | unauthorized m | refused _ m
  | ignorable m | internal m => m
  | network cause => cause.message

/-- The message with the kind of the failure before it. -/
def display : GatewayError → String
  | notFound m => "Not found: " ++ m
  | invalidRequest m => "Invalid request: " ++ m
  | invalidToken m => "Invalid token: " ++ m
  | unauthorized m => "Unauthorized: " ++ m
  | refused status m => s!"Upstream returned {status}: " ++ m
  | network cause => "Network error: " ++ cause.message
  | ignorable m => "Ignored: " ++ m
  | internal m => "Internal error: " ++ m

def isIgnorable : GatewayError → Bool
  | ignorable _ => true
  | _ => false

def status : GatewayError → Nat
  | notFound _ => 404
  | invalidRequest _ | invalidToken _ => 400
  | unauthorized _ => 401
  | refused status _ => if 100 ≤ status ∧ status ≤ 999 then status else 502
  | network _ => 502
  | ignorable _ => 204
  | internal _ => 500

def body? (e : GatewayError) : Option Json :=
  if e.isIgnorable then none else some (.obj [("error", .str e.message)])

end GatewayError
end SessionGateway
