import SessionGateway.Error
import SessionGateway.Json.Reader
import SessionGateway.Portal.Status

/-!
Answers of the portal, and what they mean to the gateway: a JSON value, or a refusal with the
portal's own explanation.
-/

namespace SessionGateway.Portal

structure Reply where
  status : Nat
  body : List UInt8
  deriving DecidableEq, Repr

/-- What one sending of a request comes to. Redirects are followed within the sending, so that a
call is one sending and the reply is the last one. Replies are whole: there is no case for a body
that breaks off, nor for redirects that lead nowhere. -/
inductive Outcome where
  | unreachable
  | replied (reply : Reply)
  deriving DecidableEq, Repr

/-- The explanation in a JSON body: the text under `error`, or under `message` where there is no
`error`. -/
def explanation? (body : String) : Option String :=
  match Json.parse body with
  | .error _ => none
  | .ok v => ((v.get? "error").or (v.get? "message")).bind Json.asString?

def refusalMessage (reply : Reply) : String :=
  let body := String.ofList (Text.Utf8.decodeLossy reply.body)
  match explanation? body with
  | some message => message
  | none => if body.isEmpty then phrase reply.status else body

def Reply.value (reply : Reply) : Except GatewayError Json :=
  if isSuccess reply.status then
    match Json.readBytes (Json.readValue Json.maxDepth) reply.body with
    | .ok v => .ok v
    | .error _ => .error (.network .body)
  else .error (.refused reply.status (refusalMessage reply))

end SessionGateway.Portal
