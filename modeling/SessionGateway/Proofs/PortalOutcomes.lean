import SessionGateway.Proofs.JsonForm
import SessionGateway.Proofs.Ownership
import SessionGateway.Proofs.ServedFromMemory

/-!
A caller is told how its call to the portal came out, whatever happened while the call was under
way. Main statement: `Traffic.portal_outcomes_reach_caller`.
-/

namespace SessionGateway

namespace Json

variable {α : Type} {read : List Char → Read (α × List Char)} {v : α}

theorem readWhole_eq_ok_iff {input : List Char} :
    readWhole read input = .ok v ↔ ∃ rest, read input = .ok (v, rest) ∧ skipBlank rest = [] := by
  unfold readWhole
  constructor
  · intro h
    obtain ⟨⟨v', rest⟩, hread, h⟩ := exists_of_bind_eq_ok h
    cases hblank : (skipBlank rest).isEmpty with
    | true =>
      simp only [hblank, ↓reduceIte] at h
      cases h
      exact ⟨rest, hread, List.isEmpty_iff.mp hblank⟩
    | false => simp [hblank] at h
  · rintro ⟨rest, hread, hblank⟩
    rw [hread]
    simp [bind, Except.bind, pure, Except.pure, hblank]

theorem readBytes_eq_ok_iff {bytes : List UInt8} :
    readBytes read bytes = .ok v
      ↔ Text.Utf8.isValid bytes ∧ ∃ rest, read (Text.Utf8.validStart bytes) = .ok (v, rest)
        ∧ skipBlank rest = [] := by
  rw [← readWhole_eq_ok_iff]
  cases hvalid : Text.Utf8.isValid bytes with
  | true => simp [readBytes, hvalid]
  | false =>
    simp only [readBytes, hvalid]
    cases read (Text.Utf8.validStart bytes) <;> simp [bind, Except.bind]

end Json

def Portal.Call.shown (v : Json) : Call → Json
  | submission _ => v
  | _ => .obj [("cached", .bool false), ("data", v)]

def Response.ofValue (v : Json) : Response := ⟨200, .json v, [], false⟩

def Response.ofMessage (status : Nat) (message : String) : Response :=
  ⟨status, .json (.obj [("error", .str message)]), [], false⟩

inductive Waiting.Relays (w : Waiting) (base : Url) : Portal.Outcome → Response → Prop where
  | value {out : Portal.Outgoing} {reply : Portal.Reply} {v : Json}
      (sent : w.pending.call.outgoing base w.pending.token = .ok out)
      (success : Portal.isSuccess reply.status)
      (read : Json.readBytes (Json.readValue Json.maxDepth) reply.body = .ok v) :
      w.Relays base (.replied reply) (.ofValue (w.pending.call.shown v))
  | unreadable {out : Portal.Outgoing} {reply : Portal.Reply} {e : Json.ReadError}
      (sent : w.pending.call.outgoing base w.pending.token = .ok out)
      (success : Portal.isSuccess reply.status)
      (read : Json.readBytes (Json.readValue Json.maxDepth) reply.body = .error e) :
      w.Relays base (.replied reply) (.ofMessage 502 "error decoding response body")
  | refused {out : Portal.Outgoing} {reply : Portal.Reply}
      (sent : w.pending.call.outgoing base w.pending.token = .ok out)
      (refused : Portal.isSuccess reply.status = false)
      (isStatus : 100 ≤ reply.status ∧ reply.status ≤ 999) :
      w.Relays base (.replied reply) (.ofMessage reply.status (Portal.refusalMessage reply))
  /-- A number that is no status cannot be passed on. -/
  | notStatus {out : Portal.Outgoing} {reply : Portal.Reply}
      (sent : w.pending.call.outgoing base w.pending.token = .ok out)
      (notStatus : ¬ (100 ≤ reply.status ∧ reply.status ≤ 999)) :
      w.Relays base (.replied reply) (.ofMessage 502 (Portal.refusalMessage reply))
  | unreachable {out : Portal.Outgoing}
      (sent : w.pending.call.outgoing base w.pending.token = .ok out) :
      w.Relays base .unreachable
        (.ofMessage 502 ("error sending request for url (" ++ out.url.render ++ ")"))
  | unsent {e : NetworkError} (outcome : Portal.Outcome)
      (unsent : w.pending.call.outgoing base w.pending.token = .error e) :
      w.Relays base outcome (.ofMessage 502 e.message)

namespace Waiting

variable {w : Waiting} {base : Url} {outcome : Portal.Outcome} {response : Response}

theorem exists_relays (w : Waiting) (base : Url) (outcome : Portal.Outcome) :
    ∃ response, w.Relays base outcome response := by
  cases hsent : w.pending.call.outgoing base w.pending.token with
  | error e => exact ⟨_, .unsent outcome hsent⟩
  | ok out =>
    cases outcome with
    | unreachable => exact ⟨_, .unreachable hsent⟩
    | replied reply =>
      by_cases hstatus : 100 ≤ reply.status ∧ reply.status ≤ 999
      · cases hsuccess : Portal.isSuccess reply.status with
        | false => exact ⟨_, .refused hsent hsuccess hstatus⟩
        | true =>
          cases hread : Json.readBytes (Json.readValue Json.maxDepth) reply.body with
          | ok v => exact ⟨_, .value hsent hsuccess hread⟩
          | error e => exact ⟨_, .unreadable hsent hsuccess hread⟩
      · exact ⟨_, .notStatus hsent hstatus⟩

theorem Relays.value_of_status (h : w.Relays base outcome response)
    (hstatus : response.status = 200) :
    ∃ reply v, outcome = .replied reply ∧ Portal.isSuccess reply.status
      ∧ Json.readBytes (Json.readValue Json.maxDepth) reply.body = .ok v
      ∧ response = .ofValue (w.pending.call.shown v) := by
  cases h with
  | value sent success read => exact ⟨_, _, rfl, success, read, rfl⟩
  | @refused out reply sent refused isStatus =>
    have hstatus : reply.status = 200 := hstatus
    rw [hstatus] at refused
    cases refused
  | _ => cases hstatus

end Waiting

theorem Handler.settle_snd (c : Context) (now : Instant) (p : Pending) (v : Json) :
    .ofAnswer (settle c now p v).2 = Response.ofValue (p.call.shown v) := by
  obtain ⟨call, token⟩ := p
  cases call <;> rfl

theorem Response.ofError_refused (status : Nat) (message : String) :
    ofError (.refused status message)
      = ofMessage (if 100 ≤ status ∧ status ≤ 999 then status else 502) message := rfl

theorem Portal.isSuccess_of_not_status {status : Nat} (h : ¬ (100 ≤ status ∧ status ≤ 999)) :
    isSuccess status = false := by
  rw [isSuccess, Bool.and_eq_false_iff, decide_eq_false_iff_not, decide_eq_false_iff_not]
  omega

namespace Gateway

variable {g : Gateway} {now : Instant} {w : Waiting} {outcome : Portal.Outcome}

theorem complete_of_value {v : Json} (h : g.value w outcome = .ok v) :
    (g.complete now w outcome).2
      = respond w.headOnly (.ofValue (w.pending.call.shown v)) := by
  rw [complete, h]
  simp only [Handler.settle_snd]

theorem complete_of_error {e : GatewayError} (h : g.value w outcome = .error e) :
    (g.complete now w outcome).2 = respond w.headOnly (.ofError e) := by
  rw [complete, h]

theorem value_of_sent {out : Portal.Outgoing}
    (h : w.pending.call.outgoing g.base w.pending.token = .ok out) :
    g.value w outcome = out.value outcome := by
  rw [value, outgoing, h]

theorem value_of_refused {out : Portal.Outgoing} {reply : Portal.Reply}
    (h : w.pending.call.outgoing g.base w.pending.token = .ok out)
    (hrefused : Portal.isSuccess reply.status = false) :
    g.value w (.replied reply)
      = .error (.refused reply.status (Portal.refusalMessage reply)) := by
  rw [value_of_sent h, Portal.Outgoing.value, Portal.Reply.value, hrefused]
  rfl

/-- The response depends on how the call came out, and not on what the gateway has become. -/
theorem complete_of_relays {response : Response} (h : w.Relays g.base outcome response) :
    (g.complete now w outcome).2 = respond w.headOnly response := by
  cases h with
  | value sent success read =>
    apply complete_of_value
    rw [value_of_sent sent, Portal.Outgoing.value, Portal.Reply.value, if_pos success, read]
  | unreadable sent success read =>
    refine complete_of_error (e := .network .body) ?_
    rw [value_of_sent sent, Portal.Outgoing.value, Portal.Reply.value, if_pos success, read]
  | refused sent refused isStatus =>
    rw [complete_of_error (value_of_refused sent refused), Response.ofError_refused,
      if_pos isStatus]
  | notStatus sent notStatus =>
    have refused : Portal.isSuccess _ = false := Portal.isSuccess_of_not_status notStatus
    rw [complete_of_error (value_of_refused sent refused), Response.ofError_refused,
      if_neg notStatus]
  | unreachable sent =>
    refine complete_of_error (e := .network (.unreachable _)) ?_
    rw [value_of_sent sent]
    rfl
  | unsent outcome unsent =>
    refine complete_of_error (e := .network _) ?_
    rw [value, outgoing, unsent]

end Gateway

/-! ## Values that are marked as fetched -/

def Response.IsFetched (response : Response) : Prop :=
  ∃ v, response.body = .json v ∧ v.get? "cached" = some (.bool false)

theorem Response.not_isFetched_respond {response : Response} (h : ¬ response.IsFetched)
    (headOnly : Bool) : ¬ (Gateway.respond headOnly response).IsFetched := by
  cases headOnly with
  | false => exact h
  | true =>
    rintro ⟨v, hbody, -⟩
    cases hbody

theorem Response.not_isFetched_ofError (e : GatewayError) : ¬ (ofError e).IsFetched := by
  rintro ⟨v, hbody, hcached⟩
  cases herror : e.body? with
  | none =>
    rw [ofError, herror] at hbody
    cases hbody
  | some error =>
    rw [ofError, herror] at hbody
    cases hbody
    rw [GatewayError.body?] at herror
    split at herror <;> cases herror
    cases hcached

theorem Response.not_isFetched_ofAnswer {a : Answer}
    (h : (Reaction.answer a).IsLocal ∨ ∃ v, a = .data true v) : ¬ (ofAnswer a).IsFetched := by
  rintro ⟨v, hbody, hcached⟩
  cases hbody
  cases a with
  | data cached v =>
    obtain ⟨v', hv'⟩ := h.resolve_left id
    cases hv'
    cases hcached
  | submitted v => rcases h with h | ⟨v', hv'⟩ <;> contradiction
  | previousRoute route => cases route <;> cases hcached
  | _ => cases hcached

theorem Reaction.not_isFetched {x : Reaction} {headOnly : Bool} {response : Response}
    (h : x.IsLocal ∨ ∃ v, x = .answer (.data true v))
    (hp : x.progress headOnly = .finished response) : ¬ response.IsFetched := by
  cases x with
  | call p => cases hp
  | fail e =>
    cases hp
    exact Response.not_isFetched_respond (Response.not_isFetched_ofError e) _
  | reject r =>
    cases hp
    refine Response.not_isFetched_respond ?_ _
    rintro ⟨v, hbody, -⟩
    cases hbody
  | answer a =>
    cases hp
    have hanswer : (Reaction.answer a).IsLocal ∨ ∃ v, a = .data true v := by
      simpa only [answer.injEq] using h
    exact Response.not_isFetched_respond (Response.not_isFetched_ofAnswer hanswer) _

theorem Gateway.not_isFetched_of_arrive {g : Gateway} {now : Instant} {r : Request}
    {response : Response} (h : (g.arrive now r).2 = .finished response) :
    ¬ response.IsFetched := by
  cases hr : r.route? with
  | none =>
    obtain ⟨response', hbody, he⟩ := arrive_of_no_route hr
    rw [he] at h
    cases h
    rintro ⟨v, hv, -⟩
    rw [hbody] at hv
    cases hv
  | some route =>
    have hdoes := Handler.react_does g.context now r route r.method
    rw [arrive_of_route hr] at h
    cases hcall : r.asksAt? route with
    | none => exact Reaction.not_isFetched (.inl (hdoes.isLocal hcall)) h
    | some call =>
      rw [hdoes.snd_eq call hcall, Context.inquire] at h
      split at h
      · exact Reaction.not_isFetched (.inr ⟨_, rfl⟩) h
      · rcases g.context.ask_cases now call with ⟨p, hp⟩ | ⟨e, he⟩
        · rw [hp] at h
          cases h
        · rw [he] at h
          exact Reaction.not_isFetched (x := .fail e) (.inl trivial) h

/-! ## Calls under way -/

def Event.ticket : Event → Nat
  | arrival ticket _ _ => ticket
  | completion ticket _ _ => ticket

theorem lookup_eraseP_of_ne {α : Type} (l : List (Nat × α)) {k k' : Nat} (h : k ≠ k') :
    (l.eraseP (·.1 == k)).lookup k' = l.lookup k' := by
  induction l with
  | nil => rfl
  | cons p l ih =>
    obtain ⟨n, a⟩ := p
    by_cases hn : n = k
    · subst hn
      have hne : (k' == n) = false := by simpa using Ne.symm h
      simp [List.lookup_cons, hne]
    · have hkeep : (n == k) = false := by simpa using hn
      simp only [List.eraseP_cons, hkeep, cond_false, List.lookup_cons, ih]

namespace Sample

def aliceIn : List Event := [.arrival 1 0 (login alice)]

def aliceWaits : List Event := aliceIn ++ [.arrival 2 0 (get "/session/profile")]

def goneReply : Portal.Reply := ⟨404, Text.Utf8.encode "\x7b\"error\":\"gone\"\x7d".toList⟩

def gone : Portal.Outcome := .replied goneReply

end Sample

namespace Traffic

variable {t : Traffic} {e : Event} {es : List Event} {ticket : Nat}

theorem waiting?_step_of_ne (h : e.ticket ≠ ticket) :
    (t.step e).1.waiting? ticket = t.waiting? ticket := by
  cases e with
  | arrival ticket' now r =>
    rw [step]
    split
    · rfl
    · have hne : (ticket == ticket') = false := beq_false_of_ne (Ne.symm h)
      simp only [waiting?, List.lookup_cons, hne]
  | completion ticket' now outcome =>
    rw [step]
    split
    · rfl
    · exact lookup_eraseP_of_ne t.underWay h

theorem waiting?_run_of_ne (h : ∀ e ∈ es, e.ticket ≠ ticket) :
    (t.run es).1.waiting? ticket = t.waiting? ticket := by
  induction es generalizing t with
  | nil => rfl
  | cons e es ih =>
    rw [run_cons, ih fun e' he' => h e' (List.mem_cons_of_mem _ he'),
      waiting?_step_of_ne (h e List.mem_cons_self)]

theorem response_completion (t : Traffic) (ticket : Nat) (now : Instant)
    (outcome : Portal.Outcome) :
    (t.step (.completion ticket now outcome)).2
      = (t.waiting? ticket).map fun w => (t.gateway.complete now w outcome).2 := by
  rw [step]
  cases t.waiting? ticket <;> rfl

theorem response_of_relays {now now' : Instant} {r : Request} {w : Waiting} {between : List Event}
    {outcome : Portal.Outcome} {response : Response}
    (hw : (t.gateway.arrive now r).2 = .waiting w) (hbetween : ∀ e ∈ between, e.ticket ≠ ticket)
    (h : w.Relays t.gateway.base outcome response) :
    (((t.step (.arrival ticket now r)).1.run between).1.step (.completion ticket now' outcome)).2
      = some (Gateway.respond w.headOnly response) := by
  have hwaiting : ((t.step (.arrival ticket now r)).1.run between).1.waiting? ticket = some w := by
    rw [waiting?_run_of_ne hbetween, waiting?_of_waiting hw]
  have hbase : ((t.step (.arrival ticket now r)).1.run between).1.gateway.base
      = t.gateway.base := by
    rw [base_run, step_gateway]
  rw [← hbase] at h
  rw [response_completion, hwaiting, Option.map_some, Gateway.complete_of_relays h]

theorem value_of_isFetched {response : Response} (hresponse : (t.step e).2 = some response)
    (hstatus : response.status = 200)
    (h : response.IsFetched ∨ ∃ ticket now outcome, e = .completion ticket now outcome) :
    ∃ ticket now reply w v, e = .completion ticket now (.replied reply)
      ∧ t.waiting? ticket = some w ∧ Portal.isSuccess reply.status
      ∧ Json.readBytes (Json.readValue Json.maxDepth) reply.body = .ok v
      ∧ response = Gateway.respond w.headOnly (.ofValue (w.pending.call.shown v)) := by
  cases e with
  | arrival ticket now r =>
    rw [response_step] at hresponse
    -- an arrival can only be marked, and then by the gateway itself or as taken from memory
    have hfetched : response.IsFetched := by
      refine h.resolve_right ?_
      rintro ⟨_, _, _, he⟩
      cases he
    cases hp : (t.gateway.arrive now r).2 with
    | waiting w =>
      rw [hp] at hresponse
      cases hresponse
    | finished response' =>
      rw [hp] at hresponse
      cases hresponse
      exact absurd hfetched (Gateway.not_isFetched_of_arrive hp)
  | completion ticket now outcome =>
    rw [response_completion] at hresponse
    obtain ⟨w, hw, hcomplete⟩ := Option.map_eq_some_iff.mp hresponse
    obtain ⟨relayed, hrelays⟩ := w.exists_relays t.gateway.base outcome
    rw [Gateway.complete_of_relays hrelays] at hcomplete
    have hrelayed : relayed.status = 200 := by
      rw [← hstatus, ← hcomplete]
      cases w.headOnly <;> rfl
    obtain ⟨reply, v, rfl, hsuccess, hread, rfl⟩ := hrelays.value_of_status hrelayed
    exact ⟨ticket, now, reply, w, v, rfl, hw, hsuccess, hread, hcomplete.symm⟩

/-- A request that waits for the portal is told how its call came out, whatever happens while the
call is under way: a value as it is, a refusal with its status and its explanation, and anything
else as 502. In no other way is a request told with success that its value was fetched. A body is
read as a value only as a whole. -/
theorem portal_outcomes_reach_caller (base : Url) (config : Config) (es : List Event) :
    let t := ((start base config).run es).1
    (∀ ticket now r w between, (t.gateway.arrive now r).2 = .waiting w →
      (∀ e ∈ between, e.ticket ≠ ticket) →
      r.Asks w.pending.call ∧ w.headOnly = (r.method == .head)
        ∧ ∀ now' outcome, (∃ response, w.Relays base outcome response)
          ∧ ∀ response, w.Relays base outcome response →
            (((t.step (.arrival ticket now r)).1.run between).1.step
                (.completion ticket now' outcome)).2
              = some (Gateway.respond w.headOnly response))
    ∧ (∀ e response, (t.step e).2 = some response → response.status = 200 →
      (response.IsFetched ∨ ∃ ticket now outcome, e = .completion ticket now outcome) →
      ∃ ticket now reply w v, e = .completion ticket now (.replied reply)
        ∧ t.waiting? ticket = some w ∧ Portal.isSuccess reply.status
        ∧ Json.readBytes (Json.readValue Json.maxDepth) reply.body = .ok v
        ∧ response = Gateway.respond w.headOnly (.ofValue (w.pending.call.shown v)))
    ∧ ∀ bytes v, Json.readBytes (Json.readValue Json.maxDepth) bytes = .ok v
      ↔ Text.Utf8.isValid bytes
        ∧ ∃ rest, Json.readValue Json.maxDepth (Text.Utf8.validStart bytes) = .ok (v, rest)
          ∧ Json.skipBlank rest = [] := by
  intro t
  refine ⟨fun ticket now r w between hw hbetween => ?_, fun e response => value_of_isFetched,
    fun bytes v => Json.readBytes_eq_ok_iff⟩
  obtain ⟨hasks, hhead, -⟩ := Gateway.arrive_eq_waiting_iff.mp hw
  refine ⟨hasks, hhead, fun now' outcome => ⟨w.exists_relays base outcome, fun response h => ?_⟩⟩
  have hbase : t.gateway.base = base := base_run (start base config) es
  exact response_of_relays hw hbetween (by rwa [hbase])

theorem profile_told_after_switch :
    (((((start Sample.base {}).run Sample.aliceIn).1.step
          (.arrival 2 0 (Sample.get "/session/profile"))).1.run
        [.arrival 3 0 (Sample.login Sample.bob)]).1.step (.completion 2 1 Sample.one)).2
      = some (.ofValue (.obj [("cached", .bool false), ("data", .int 1)]))
    ∧ (((((start Sample.base {}).run Sample.aliceIn).1.step
          (.arrival 2 0 (Sample.get "/session/profile"))).1.run
        [.arrival 3 0 (Sample.login Sample.bob)]).1.step (.completion 2 1 Sample.gone)).2
      = some (.ofMessage 404 "gone")
    ∧ ∃ reply v, Sample.one = .replied reply ∧ Portal.isSuccess reply.status
      ∧ Json.readBytes (Json.readValue Json.maxDepth) reply.body = .ok v := by
  let w : Waiting := ⟨⟨.profile, some Sample.alice⟩, false⟩
  have hroute : (Sample.get "/session/profile").route? = some .profile := by decide +kernel
  have hserved : (((start Sample.base {}).run Sample.aliceIn).1.gateway.context.served? 0
      .profile).isNone := by decide +kernel
  have htoken : (((start Sample.base {}).run Sample.aliceIn).1.gateway.context.auth.live? 0).map
      (·.token) = some Sample.alice := by decide +kernel
  have hwaits : (((start Sample.base {}).run Sample.aliceIn).1.gateway.arrive 0
      (Sample.get "/session/profile")).2 = .waiting w := by
    refine Gateway.arrive_eq_waiting_iff.mpr ⟨.profile hroute, rfl, ?_, htoken.symm, ?_⟩
    · rintro _ ⟨⟩
      exact Option.isNone_iff_eq_none.mp hserved
    · intro hnone
      rw [hnone] at htoken
      cases htoken
  have hsent : (Portal.Call.profile.outgoing Sample.base (some Sample.alice)).toOption.isSome := by
    decide +kernel
  obtain ⟨out, hout⟩ := Option.isSome_iff_exists.mp hsent
  have sent : w.pending.call.outgoing Sample.base w.pending.token = .ok out :=
    eq_ok_of_toOption hout
  have value : w.Relays Sample.base Sample.one
      (.ofValue (.obj [("cached", .bool false), ("data", .int 1)])) := .value sent rfl rfl
  have hmessage : Portal.refusalMessage Sample.goneReply = "gone" := by decide +kernel
  have refused : w.Relays Sample.base Sample.gone (.ofMessage 404 "gone") := by
    rw [← hmessage]
    exact .refused sent rfl (by decide)
  have hbetween : ∀ e ∈ [Event.arrival 3 0 (Sample.login Sample.bob)], e.ticket ≠ 2 := by
    intro e he
    cases List.mem_singleton.mp he
    decide
  obtain ⟨told, -⟩ := portal_outcomes_reach_caller Sample.base {} Sample.aliceIn
  obtain ⟨-, -, answered⟩ := told 2 0 _ w _ hwaits hbetween
  obtain ⟨-, -, alone⟩ := told 2 0 _ w [] hwaits (List.forall_mem_nil _)
  have hfetched : (((start Sample.base {}).run Sample.aliceWaits).1.step
      (.completion 2 1 Sample.one)).2
        = some (.ofValue (.obj [("cached", .bool false), ("data", .int 1)])) := by
    simp only [Sample.aliceWaits, run_append, run_cons]
    exact (alone 1 Sample.one).2 _ value
  obtain ⟨-, only, -⟩ := portal_outcomes_reach_caller Sample.base {} Sample.aliceWaits
  obtain ⟨_, _, reply, _, v, he, -, hsuccess, hread, -⟩ :=
    only _ _ hfetched rfl (.inl ⟨_, rfl, rfl⟩)
  injection he with _ _ houtcome
  exact ⟨(answered 1 Sample.one).2 _ value, (answered 1 Sample.gone).2 _ refused, reply, v,
    houtcome, hsuccess, hread⟩

end Traffic
end SessionGateway
