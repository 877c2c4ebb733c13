import SessionGateway.Gateway.Run

/-!
A gateway with any number of calls under way. Requests arrive and their calls come back in any
order. A request has a ticket, by which its call is known when it comes back.
-/

namespace SessionGateway

structure Traffic where
  gateway : Gateway
  underWay : List (Nat × Waiting)

inductive Event where
  | arrival (ticket : Nat) (now : Instant) (request : Request)
  | completion (ticket : Nat) (now : Instant) (outcome : Portal.Outcome)

namespace Traffic

def quiet (g : Gateway) : Traffic := ⟨g, []⟩

def start (base : Url) (config : Config) : Traffic := quiet ⟨base, .new config⟩

/-- The call of a ticket; of two requests with one ticket, that of the later. -/
def waiting? (t : Traffic) (ticket : Nat) : Option Waiting := t.underWay.lookup ticket

def forget (t : Traffic) (ticket : Nat) : List (Nat × Waiting) :=
  t.underWay.eraseP (·.1 == ticket)

def step (t : Traffic) : Event → Traffic × Option Response
  | .arrival ticket now r =>
    match t.gateway.arrive now r with
    | (g, .finished response) => (⟨g, t.underWay⟩, some response)
    | (g, .waiting w) => (⟨g, (ticket, w) :: t.underWay⟩, none)
  | .completion ticket now outcome =>
    match t.waiting? ticket with
    | none => (t, none)
    | some w =>
      let (g, response) := t.gateway.complete now w outcome
      (⟨g, t.forget ticket⟩, some response)

def run (t : Traffic) : List Event → Traffic × List (Option Response)
  | [] => (t, [])
  | e :: es =>
    let (t, response) := t.step e
    let (t, responses) := run t es
    (t, response :: responses)

theorem run_nil (t : Traffic) : (t.run []).1 = t := rfl

theorem run_cons (t : Traffic) (e : Event) (es : List Event) :
    (t.run (e :: es)).1 = ((t.step e).1.run es).1 := rfl

theorem run_append (t : Traffic) (es fs : List Event) :
    t.run (es ++ fs)
      = (((t.run es).1.run fs).1, (t.run es).2 ++ ((t.run es).1.run fs).2) := by
  induction es generalizing t with
  | nil => rfl
  | cons e es ih => simp only [List.cons_append, run, ih]

def moments (t : Traffic) : List Event → List (Traffic × Event)
  | [] => []
  | e :: es => (t, e) :: (t.step e).1.moments es

end Traffic
end SessionGateway
