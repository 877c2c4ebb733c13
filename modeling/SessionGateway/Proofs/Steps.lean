import SessionGateway.Gateway.Traffic
import SessionGateway.Proofs.Requests

/-!
What one event does to the session, to the entries in memory and to the calls under way.
-/

namespace SessionGateway

def Reaction.progress (headOnly : Bool) : Reaction → Progress
  | .answer a => .finished (Gateway.respond headOnly (.ofAnswer a))
  | .fail e => .finished (Gateway.respond headOnly (.ofError e))
  | .reject x => .finished (Gateway.respond headOnly (.ofRejection x))
  | .call p => .waiting ⟨p, headOnly⟩

def Progress.response? : Progress → Option Response
  | .finished response => some response
  | .waiting _ => none

theorem Gateway.respond_ne_data {response : Response} {cached : Bool} {v : Json}
    (h : response.body ≠ .json (Answer.data cached v).toJson) (headOnly : Bool) :
    respond headOnly response ≠ .ofAnswer (.data cached v) := by
  intro he
  cases headOnly with
  | true => cases congrArg Response.body he
  | false => exact h (congrArg Response.body he)

theorem Reaction.IsLocal.progress {x : Reaction} (h : x.IsLocal) (headOnly : Bool) :
    ∃ response, x.progress headOnly = .finished response
      ∧ ∀ cached v, response ≠ .ofAnswer (.data cached v) := by
  cases x with
  | call p => exact h.elim
  | reject r =>
    exact ⟨_, rfl, fun _ _ => Gateway.respond_ne_data (by simp [Response.ofRejection]) headOnly⟩
  | fail e =>
    refine ⟨_, rfl, fun _ _ => Gateway.respond_ne_data ?_ headOnly⟩
    cases e <;> simp [Response.ofError, GatewayError.body?, GatewayError.isIgnorable, Answer.toJson]
  | answer a =>
    refine ⟨_, rfl, fun _ _ => Gateway.respond_ne_data ?_ headOnly⟩
    cases a with
    | data cached v => exact h.elim
    | submitted v => exact h.elim
    | previousRoute route => cases route <;> simp [Response.ofAnswer, Answer.toJson]
    | _ => simp [Response.ofAnswer, Answer.toJson]

theorem Reaction.eq_of_response {headOnly : Bool} {v v' : Json}
    (h : ((Reaction.answer (.data true v)).progress headOnly).response?
      = some (.ofAnswer (.data true v'))) : v = v' := by
  have hb := congrArg Response.body (Option.some.inj h)
  cases headOnly with
  | true => cases hb
  | false =>
    cases hb
    rfl

theorem Reaction.progress_eq_waiting_iff {x : Reaction} {headOnly : Bool} {w : Waiting} :
    x.progress headOnly = .waiting w ↔ x = .call w.pending ∧ w.headOnly = headOnly := by
  obtain ⟨p, h⟩ := w
  cases x <;> simp [progress, eq_comm]

namespace Gateway

variable {g : Gateway} {now : Instant} {r : Request}

theorem arrive_of_route {route : Route} (h : r.route? = some route) :
    g.arrive now r
      = (⟨g.base, (Handler.react g.context now r route r.method).1⟩,
        (Handler.react g.context now r route r.method).2.progress (r.method == .head)) := by
  unfold Request.route? at h
  split at h
  · cases h
  · rename_i hm
    obtain ⟨hr, hc⟩ := Option.filter_eq_some_iff.mp h
    simp only [arrive, hm, hr, hc, Bool.not_true, Bool.false_eq_true, ↓reduceIte]
    cases (Handler.react g.context now r route r.method).2 <;> rfl

theorem arrive_of_no_route (h : r.route? = none) :
    ∃ response, response.body = .empty ∧ ∀ g now, arrive g now r = (g, .finished response) := by
  unfold Request.route? at h
  unfold arrive
  split at h
  · rename_i hm
    exact ⟨_, rfl, fun _ _ => by simp only [hm, ↓reduceIte]; rfl⟩
  · rename_i hm
    cases hr : Route.ofPath? r.path with
    | none => exact ⟨_, rfl, fun _ _ => by simp only [hm, ↓reduceIte]; rfl⟩
    | some route =>
      have hc : route.methods.contains r.method = false := by simpa [hr] using h
      exact ⟨_, rfl, fun _ _ => by simp only [hm, hc, ↓reduceIte, Bool.not_false]; rfl⟩

theorem arrive_context (g : Gateway) (now : Instant) (r : Request) :
    (g.arrive now r).1 = ⟨g.base, (r.change now).apply g.context⟩ := by
  cases h : r.route? with
  | none =>
    obtain ⟨response, -, he⟩ := arrive_of_no_route h
    rw [he, Request.change, h]
    rfl
  | some route =>
    rw [arrive_of_route h, (Handler.react_does ..).fst_eq, Request.change, h]
    rfl

theorem arrive_of_asks (g : Gateway) (now : Instant) {call : Portal.Call}
    (h : r.asks? = some call) :
    (g.arrive now r).2 = (g.context.inquire now call).progress (r.method == .head) := by
  obtain ⟨route, hr, hc⟩ := Option.bind_eq_some_iff.mp h
  rw [arrive_of_route hr, (Handler.react_does ..).snd_eq call hc]

theorem arrive_of_not_asks (g : Gateway) (now : Instant) (h : r.asks? = none) :
    ∃ response, (g.arrive now r).2 = .finished response
      ∧ ∀ cached v, response ≠ .ofAnswer (.data cached v) := by
  cases hr : r.route? with
  | none =>
    obtain ⟨response, hb, he⟩ := arrive_of_no_route hr
    refine ⟨response, by rw [he], ?_⟩
    rintro cached v rfl
    cases hb
  | some route =>
    have hn : r.asksAt? route = none := by simpa [Request.asks?, hr] using h
    rw [arrive_of_route hr]
    exact ((Handler.react_does ..).isLocal hn).progress _

theorem arrive_stats (h : r.route? = some .stats) :
    g.arrive now r = (g, .finished (respond (r.method == .head) (.ofAnswer
      (.stats g.context.typeahead.stats g.context.dataRequests.stats g.context.cache.size)))) := by
  rw [arrive_of_route h]
  rfl

end Gateway

def Event.change : Event → Change
  | .arrival _ now r => r.change now
  | .completion _ _ _ => .keep

structure Write where
  pending : Pending
  slot : Slot
  entry : Entry

namespace Traffic

variable {t : Traffic} {e : Event}

def session? (t : Traffic) : Option Session := t.gateway.context.auth.session

def token? (t : Traffic) : Option String := t.session?.map (·.token)

def held? (t : Traffic) (s : Slot) : Option Entry := t.gateway.context.held? s

theorem mem_of_waiting? {ticket : Nat} {w : Waiting} (h : t.waiting? ticket = some w) :
    (ticket, w) ∈ t.underWay := by
  obtain ⟨l₁, l₂, hl, -⟩ := List.lookup_eq_some_iff.mp h
  simp [hl]

/-- The write of an event: the value of a call that comes back, unless its token is out of date. -/
def write? (t : Traffic) : Event → Option Write
  | .arrival _ _ _ => none
  | .completion ticket now outcome =>
    match t.waiting? ticket with
    | none => none
    | some w =>
      match t.gateway.value w outcome with
      | .error _ => none
      | .ok v =>
        if w.pending.token.all t.gateway.context.auth.holdsToken then
          (w.pending.call.slot? v).map fun s => ⟨w.pending, s, ⟨v, now⟩⟩
        else none

theorem step_gateway (t : Traffic) (e : Event) :
    (t.step e).1.gateway = ⟨t.gateway.base, (t.write? e).elim (e.change.apply t.gateway.context)
      fun w => t.gateway.context.put w.entry w.slot⟩ := by
  cases e with
  | arrival ticket now r =>
    have h := Gateway.arrive_context t.gateway now r
    rw [step]
    split <;> simp_all [write?, Event.change]
  | completion ticket now outcome =>
    rw [step, write?]
    cases t.waiting? ticket with
    | none => rfl
    | some w =>
      simp only [Gateway.complete]
      cases t.gateway.value w outcome with
      | error x => rfl
      | ok v =>
        simp only [Handler.settle_fst]
        split
        · cases w.pending.call.slot? v <;> rfl
        · rfl

theorem base_run (t : Traffic) (es : List Event) :
    (t.run es).1.gateway.base = t.gateway.base := by
  induction es generalizing t with
  | nil => rfl
  | cons e es ih => rw [run_cons, ih, step_gateway]

theorem write?_eq_some {w : Write} (h : t.write? e = some w) :
    ∃ ticket outcome x, e = .completion ticket w.entry.timestamp outcome
      ∧ t.waiting? ticket = some x ∧ x.pending = w.pending
      ∧ t.gateway.value x outcome = .ok w.entry.data
      ∧ w.pending.call.slot? w.entry.data = some w.slot
      ∧ ∀ token, w.pending.token = some token → t.token? = some token := by
  cases e with
  | arrival ticket now r => cases h
  | completion ticket now outcome =>
    rw [write?] at h
    split at h
    · cases h
    · rename_i x hx
      split at h
      · cases h
      · rename_i v hv
        split at h
        · rename_i hall
          obtain ⟨s, hs, rfl⟩ := Option.map_eq_some_iff.mp h
          refine ⟨ticket, outcome, x, rfl, hx, rfl, hv, hs, fun token htoken => ?_⟩
          rw [show x.pending.token = some token from htoken, Option.all_some] at hall
          exact Auth.holdsToken_iff.mp hall
        · cases h

theorem token?_eq_of_write? {w : Write} {token : String} (h : t.write? e = some w)
    (hp : w.pending.token = some token) : t.token? = some token := by
  obtain ⟨-, -, -, -, -, -, -, -, current⟩ := write?_eq_some h
  exact current token hp

theorem change_of_write? {w : Write} (h : t.write? e = some w) : e.change = .keep := by
  cases e with
  | arrival ticket now r => cases h
  | completion ticket now outcome => rfl

theorem session?_step (t : Traffic) (e : Event) :
    (t.step e).1.session? = e.change.session? t.session? := by
  rw [session?, step_gateway]
  cases h : t.write? e with
  | none => exact Change.session_apply ..
  | some w => rw [change_of_write? h]; exact Context.session_put ..

theorem held?_step (t : Traffic) (e : Event) (s : Slot) :
    (t.step e).1.held? s
      = if (t.write? e).map (·.slot) = some s then (t.write? e).map (·.entry)
        else if e.change.clears s then none else t.held? s := by
  rw [held?, step_gateway]
  cases h : t.write? e with
  | none => simpa [held?] using Change.held?_apply ..
  | some w => simp [change_of_write? h, Context.held?_put, Change.clears, eq_comm, held?]

theorem response_step (t : Traffic) (ticket : Nat) (now : Instant) (r : Request) :
    (t.step (.arrival ticket now r)).2 = (t.gateway.arrive now r).2.response? := by
  rw [step]
  split <;> simp_all [Progress.response?]

theorem step_stats {ticket : Nat} {now : Instant} {r : Request} (h : r.route? = some .stats) :
    t.step (.arrival ticket now r) = (t, some (Gateway.respond (r.method == .head) (.ofAnswer
      (.stats t.gateway.context.typeahead.stats t.gateway.context.dataRequests.stats
        t.gateway.context.cache.size)))) := by
  rw [step, Gateway.arrive_stats h]

theorem served_of_response {ticket : Nat} {now : Instant} {r : Request} {v : Json}
    (h : (t.step (.arrival ticket now r)).2 = some (.ofAnswer (.data true v))) :
    ∃ call s, r.asks? = some call ∧ call.place? = some s
      ∧ t.gateway.context.served? now s = some v := by
  rw [response_step] at h
  cases hr : r.asks? with
  | none =>
    obtain ⟨response, he, hne⟩ := Gateway.arrive_of_not_asks t.gateway now hr
    rw [he] at h
    exact absurd (Option.some.inj h) (hne true v)
  | some call =>
    rw [Gateway.arrive_of_asks _ _ hr, Context.inquire] at h
    split at h
    · rename_i v' hv
      obtain ⟨s, hp, hs⟩ := Option.bind_eq_some_iff.mp hv
      rw [Reaction.eq_of_response h] at hs
      exact ⟨call, s, rfl, hp, hs⟩
    · rcases Context.ask_cases t.gateway.context now call with ⟨p, hp⟩ | ⟨e, he⟩
      · rw [hp] at h
        cases h
      · rw [he] at h
        obtain ⟨response, hr, hne⟩ := Reaction.IsLocal.progress (x := .fail e) trivial _
        rw [hr] at h
        exact absurd (Option.some.inj h) (hne true v)

theorem response_of_served {ticket : Nat} {now : Instant} {r : Request} {call : Portal.Call}
    {s : Slot} {v : Json} (hr : r.asks? = some call) (hm : r.method = .get)
    (hp : call.place? = some s) (hv : t.gateway.context.served? now s = some v) :
    (t.step (.arrival ticket now r)).2 = some (.ofAnswer (.data true v)) := by
  rw [response_step, Gateway.arrive_of_asks _ _ hr, Context.inquire, hp, Option.bind_some, hv, hm]
  rfl

theorem mem_underWay_step {x : Nat × Waiting} (h : x ∈ (t.step e).1.underWay) :
    x ∈ t.underWay ∨ ∃ now r call, e = .arrival x.1 now r ∧ r.asks? = some call
      ∧ t.gateway.context.inquire now call = .call x.2.pending := by
  cases e with
  | arrival ticket now r =>
    rw [step] at h
    split at h
    · exact .inl h
    · rename_i g w hw
      rcases List.mem_cons.mp h with rfl | h
      · right
        -- a request that asks for nothing is finished at once, so it cannot wait
        cases ha : r.asks? with
        | none =>
          obtain ⟨response, he, -⟩ := Gateway.arrive_of_not_asks t.gateway now ha
          rw [hw] at he
          cases he
        | some call =>
          have he := Gateway.arrive_of_asks t.gateway now ha
          rw [hw] at he
          exact ⟨now, r, call, rfl, ha, (Reaction.progress_eq_waiting_iff.mp he.symm).1⟩
      · exact .inl h
  | completion ticket now outcome =>
    rw [step] at h
    split at h
    · exact .inl h
    · exact .inl (List.mem_of_mem_eraseP h)

end Traffic
end SessionGateway
