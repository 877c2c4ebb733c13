import SessionGateway.Gateway.Handler

/-!
The gateway as a machine with two kinds of steps: a request arrives, and a call to the portal comes
back. Between the two any number of other steps may happen. Each step has its own clock reading.
-/

namespace SessionGateway

structure Gateway where
  base : Url
  context : Context

structure Waiting where
  pending : Pending
  headOnly : Bool
  deriving BEq, Repr

inductive Progress where
  | finished (response : Response)
  | waiting (w : Waiting)

namespace Gateway

def ofConfig (config : Config) : Except GatewayError Gateway := do
  let base ← Portal.baseOf config
  return ⟨base, .new config⟩

def respond (headOnly : Bool) (response : Response) : Response :=
  if headOnly then response.withoutBody else response

def arrive (g : Gateway) (now : Instant) (r : Request) : Gateway × Progress :=
  let route? := Route.ofPath? r.path
  if r.method = .options then
    (g, .finished (.preflight ((route?.map Route.methods).getD [])))
  else
    match route? with
    | none => (g, .finished .notFound)
    | some route =>
      if ! route.methods.contains r.method then
        (g, .finished (.methodNotAllowed route.methods))
      else
        let headOnly := r.method == .head
        let (context, reaction) := Handler.react g.context now r route r.method
        let g := { g with context }
        match reaction with
        | .answer a => (g, .finished (respond headOnly (.ofAnswer a)))
        | .fail e => (g, .finished (respond headOnly (.ofError e)))
        | .reject x => (g, .finished (respond headOnly (.ofRejection x)))
        | .call p => (g, .waiting ⟨p, headOnly⟩)

def outgoing (g : Gateway) (w : Waiting) : Except NetworkError Portal.Outgoing :=
  w.pending.call.outgoing g.base w.pending.token

def value (g : Gateway) (w : Waiting) (outcome : Portal.Outcome) : Except GatewayError Json :=
  match g.outgoing w with
  | .error e => .error (.network e)
  | .ok out => out.value outcome

def complete (g : Gateway) (now : Instant) (w : Waiting) (outcome : Portal.Outcome) :
    Gateway × Response :=
  match g.value w outcome with
  | .error e => (g, respond w.headOnly (.ofError e))
  | .ok v =>
    let (context, a) := Handler.settle g.context now w.pending v
    ({ g with context }, respond w.headOnly (.ofAnswer a))

end Gateway
end SessionGateway
