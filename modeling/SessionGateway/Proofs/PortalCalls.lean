import SessionGateway.Proofs.Failures

/-!
When the portal is called, how often, and with which token. A request makes its one call in its
first step or none at all, and the call carries the token of the session that is live in this step.
Main statement: `Gateway.calls_once_with_live_token`.
-/

namespace SessionGateway

def Route.isOwn : Route → Bool
  | session | previousRoute | cache | category _ | cacheKey _ _ | stats | health => true
  | profile | typeahead _ | dataRequests | dataRequest _ => false

theorem Portal.Call.authorization_of_outgoing {call : Call} {base : Url} {token : Option String}
    {out : Outgoing} (h : call.outgoing base token = .ok out) :
    out.authorization = token.map ("Bearer " ++ ·) := by
  simp only [outgoing] at h
  split at h
  · cases h
  · split at h
    · cases h
    · split at h
      · cases h
      · cases call <;> cases h <;> rfl

namespace Gateway

variable {g : Gateway} {now : Instant} {r : Request}

theorem arrive_eq_waiting_iff {w : Waiting} :
    (g.arrive now r).2 = .waiting w
      ↔ r.Asks w.pending.call ∧ w.headOnly = (r.method == .head)
        ∧ (∀ s, w.pending.call.place? = some s → g.context.served? now s = none)
        ∧ w.pending.token = (g.context.auth.live? now).map (·.token)
        ∧ (g.context.auth.live? now = none → w.pending.call.isSuggestions) := by
  cases hr : r.asks? with
  | none =>
    obtain ⟨response, hfinished, -⟩ := arrive_of_not_asks g now hr
    have hnot : ¬ r.Asks w.pending.call := by
      intro h
      rw [Request.asks?_of_asks h] at hr
      cases hr
    simp [hfinished, hnot]
  | some call =>
    have hasks : r.Asks w.pending.call ↔ w.pending.call = call := by
      refine ⟨fun h => ?_, fun h => h ▸ Request.asks_of_asks? hr⟩
      rw [Request.asks?_of_asks h] at hr
      exact Option.some.inj hr
    rw [arrive_of_asks g now hr, Reaction.progress_eq_waiting_iff, Context.inquire_eq_call_iff,
      hasks]
    constructor
    · rintro ⟨⟨rfl, hplace, htoken, hlive⟩, hhead⟩
      exact ⟨rfl, hhead, hplace, htoken, hlive⟩
    · rintro ⟨rfl, hhead, hplace, htoken, hlive⟩
      exact ⟨⟨rfl, hplace, htoken, hlive⟩, hhead⟩

/-- What keeps a request from the portal: its route, a part of it that is refused, fresh data in
memory, or that there is no live session. -/
inductive Spares (g : Gateway) (now : Instant) (r : Request) : Prop where
  | own {route : Route} (path : Route.ofPath? r.path = some route) (own : route.isOwn)
  | kind {raw : List Char} {kind : String} (path : Route.ofPath? r.path = some (.typeahead raw))
      (decoded : parameter? raw = some kind) (refused : (segmentProblem? "Kind" kind).isSome)
  | blank {raw : List Char} {q : SuggestionQuery}
      (path : Route.ofPath? r.path = some (.typeahead raw))
      (query : SuggestionQuery.ofPairs? (Text.Form.pairs r.query) = some q)
      (blank : normalizeQuery q.query = "")
  | id {raw : List Char} {id : String} (path : Route.ofPath? r.path = some (.dataRequest raw))
      (decoded : parameter? raw = some id) (refused : (segmentProblem? "Request id" id).isSome)
  | body {body : Json} (path : Route.ofPath? r.path = some .dataRequests)
      (read : Handler.readBody (Json.readValue Json.maxDepth) r = .ok body)
      (notObject : body.isObject = false)
  | fresh {call : Portal.Call} {s : Slot} {v : Json} (asks : r.Asks call)
      (place : call.place? = some s) (served : g.context.served? now s = some v)
  | notLive {call : Portal.Call} (asks : r.Asks call) (asUser : call.isSuggestions = false)
      (notLive : g.context.auth.live? now = none)

theorem asks?_eq_none_of_path {route : Route} (path : Route.ofPath? r.path = some route)
    (h : r.asksAt? route = none) : r.asks? = none := by
  unfold Request.asks? Request.route?
  split
  · rfl
  · rw [path, Option.filter_some]
    split
    · exact h
    · rfl

theorem Spares.of_asks {call : Portal.Call} (h : g.Spares now r) (hr : r.asks? = some call) :
    (∃ s v, call.place? = some s ∧ g.context.served? now s = some v)
      ∨ (call.isSuggestions = false ∧ g.context.auth.live? now = none) := by
  -- a request that asks for something is refused nowhere on its route
  have refused : ∀ {route}, Route.ofPath? r.path = some route → r.asksAt? route ≠ none := by
    intro route path hn
    rw [asks?_eq_none_of_path path hn] at hr
    cases hr
  have asked : ∀ {call'}, r.Asks call' → call' = call := by
    intro call' hcall
    rw [Request.asks?_of_asks hcall] at hr
    exact Option.some.inj hr
  cases h with
  | fresh asks place served => exact .inl ⟨_, _, asked asks ▸ place, served⟩
  | notLive asks asUser notLive => exact .inr ⟨asked asks ▸ asUser, notLive⟩
  | @own route path own =>
    refine absurd ?_ (refused path)
    cases route <;> first | rfl | cases own
  | @kind raw kind path decoded isRefused =>
    refine absurd ?_ (refused path)
    rw [Request.asksAt?, Handler.parameter_eq_ok_iff.mpr decoded]
    cases Handler.pairs SuggestionQuery.ofPairs? r <;>
      simp [onPart, SuggestionQuery.call?, isRefused]
  | @blank raw q path query blank =>
    refine absurd ?_ (refused path)
    rw [Request.asksAt?, Handler.pairs_eq_ok_iff.mpr query]
    cases Handler.parameter raw <;> simp [onPart, SuggestionQuery.call?, blank]
  | @id raw id path decoded isRefused =>
    refine absurd ?_ (refused path)
    rw [Request.asksAt?, Handler.parameter_eq_ok_iff.mpr decoded]
    simp [onPart, dataRequestCall?, isRefused]
  | @body body path read notObject =>
    refine absurd ?_ (refused path)
    rw [Request.asksAt?, read]
    simp [onPart, submissionCall?, notObject]

theorem finished_of_spares (h : g.Spares now r) :
    ∃ response, (g.arrive now r).2 = .finished response := by
  cases hw : (g.arrive now r).2 with
  | finished response => exact ⟨response, rfl⟩
  | waiting w =>
    obtain ⟨hasks, -, hplace, -, hlive⟩ := arrive_eq_waiting_iff.mp hw
    rcases h.of_asks (Request.asks?_of_asks hasks) with ⟨s, v, hs, hv⟩ | ⟨hasUser, hnotLive⟩
    · rw [hplace s hs] at hv
      cases hv
    · rw [hlive hnotLive] at hasUser
      cases hasUser

end Gateway

def Event.arrived? : Event → Option Nat
  | .arrival ticket _ _ => some ticket
  | .completion _ _ _ => none

namespace Traffic

/-- The calls that an event begins: what is under way after it on top of what was before. -/
def begun (t : Traffic) (e : Event) : List (Nat × Waiting) :=
  (t.step e).1.underWay.take ((t.step e).1.underWay.length - t.underWay.length)

def calls (t : Traffic) : List Event → List (Nat × Waiting)
  | [] => []
  | e :: es => t.begun e ++ (t.step e).1.calls es

theorem underWay_step_cases (t : Traffic) (e : Event) :
    (t.step e).1.underWay.Sublist t.underWay
      ∨ ∃ ticket w, e.arrived? = some ticket
        ∧ (t.step e).1.underWay = (ticket, w) :: t.underWay := by
  cases e with
  | arrival ticket now r =>
    rw [step]
    split
    · exact .inl (List.Sublist.refl _)
    · exact .inr ⟨ticket, _, rfl, rfl⟩
  | completion ticket now outcome =>
    rw [step]
    split
    · exact .inl (List.Sublist.refl _)
    · exact .inl List.eraseP_sublist

theorem begun_of_sublist {t : Traffic} {e : Event}
    (h : (t.step e).1.underWay.Sublist t.underWay) : t.begun e = [] := by
  have hlength : (t.step e).1.underWay.length - t.underWay.length = 0 :=
    Nat.sub_eq_zero_of_le h.length_le
  rw [begun, hlength, List.take_zero]

theorem begun_of_cons {t : Traffic} {e : Event} {y : Nat × Waiting}
    (h : (t.step e).1.underWay = y :: t.underWay) : t.begun e = [y] := by
  simp [begun, h]

theorem underWay_step_sublist (t : Traffic) (e : Event) :
    (t.step e).1.underWay.Sublist (t.begun e ++ t.underWay) := by
  rcases t.underWay_step_cases e with h | ⟨ticket, w, -, h⟩
  · rw [begun_of_sublist h]
    exact h
  · rw [begun_of_cons h, h]
    exact List.Sublist.refl _

theorem begun_sublist (t : Traffic) (e : Event) :
    ((t.begun e).map Prod.fst).Sublist e.arrived?.toList := by
  rcases t.underWay_step_cases e with h | ⟨ticket, w, he, h⟩
  · rw [begun_of_sublist h]
    exact List.nil_sublist _
  · rw [begun_of_cons h, he]
    exact List.Sublist.refl _

theorem calls_sublist (t : Traffic) (es : List Event) :
    ((t.calls es).map Prod.fst).Sublist (es.filterMap Event.arrived?) := by
  induction es generalizing t with
  | nil => exact List.Sublist.refl _
  | cons e es ih =>
    have hsplit : (e :: es).filterMap Event.arrived?
        = e.arrived?.toList ++ es.filterMap Event.arrived? := by
      rw [List.filterMap_cons]
      cases e.arrived? <;> rfl
    rw [calls, List.map_append, hsplit]
    exact (t.begun_sublist e).append (ih (t.step e).1)

end Traffic

namespace Gateway

/-- In any run each request that comes begins one call or none, and calls that come back, however
they came out, begin none. A request waits for the call that it asks for exactly if nothing fresh is
in memory for it and there is a live session, or it asks for suggestions. The call carries the
token of the session that is live as the request comes, whatever sessions come after; without one
it carries no token and no authorization. -/
theorem calls_once_with_live_token :
    (∀ (t : Traffic) (es : List Event),
      ((t.calls es).map Prod.fst).Sublist (es.filterMap Event.arrived?))
    ∧ (∀ (t : Traffic) (e : Event), (t.step e).1.underWay.Sublist (t.begun e ++ t.underWay))
    ∧ ∀ (g : Gateway) (now : Instant) (r : Request),
      (g.Spares now r → ∃ response, (g.arrive now r).2 = .finished response)
      ∧ ∀ w, ((g.arrive now r).2 = .waiting w
          ↔ r.Asks w.pending.call ∧ w.headOnly = (r.method == .head)
            ∧ (∀ s, w.pending.call.place? = some s → g.context.served? now s = none)
            ∧ w.pending.token = (g.context.auth.live? now).map (·.token)
            ∧ (g.context.auth.live? now = none → w.pending.call.isSuggestions))
        ∧ ((g.arrive now r).2 = .waiting w →
          (∀ token, w.pending.token = some token → ∃ session, g.context.auth.session = some session
            ∧ session.token = token ∧ session.claims.isExpiredAt now = false)
          ∧ ∀ (later : Gateway) (out : Portal.Outgoing), later.outgoing w = .ok out →
            out.authorization = w.pending.token.map ("Bearer " ++ ·)) := by
  refine ⟨Traffic.calls_sublist, Traffic.underWay_step_sublist, fun g now r => ?_⟩
  refine ⟨finished_of_spares, fun w => ⟨arrive_eq_waiting_iff, fun hw => ⟨?_, ?_⟩⟩⟩
  · intro token htoken
    obtain ⟨-, -, -, hlive, -⟩ := arrive_eq_waiting_iff.mp hw
    rw [htoken] at hlive
    obtain ⟨session, hsession, rfl⟩ := Option.map_eq_some_iff.mp hlive.symm
    obtain ⟨hcurrent, hexpired⟩ := Auth.live?_eq_some_iff.mp hsession
    exact ⟨session, hcurrent, rfl, hexpired⟩
  · intro later out hout
    exact Portal.Call.authorization_of_outgoing hout

theorem call_for_alice :
    let g := ((Traced.start Sample.base {}).run
      [.arrival 1 0 (Sample.login Sample.alice)]).traffic.gateway
    (∃ w out, (g.arrive 0 (Sample.get "/data-requests/8")).2 = .waiting w ∧ g.outgoing w = .ok out
      ∧ out.authorization = some ("Bearer " ++ Sample.alice))
    ∧ ∃ response, (g.arrive 0 (Sample.get "/session")).2 = .finished response := by
  intro g
  have hroute : (Sample.get "/data-requests/8").route? = some (.dataRequest ['8']) := by
    decide +kernel
  have hid : parameter? ['8'] = some "8" := by decide +kernel
  have haccepted : segmentProblem? "Request id" "8" = none := by decide +kernel
  have hlive : (g.context.auth.live? 0).map (·.token) = some Sample.alice := by decide +kernel
  have hheld : (g.context.served? 0 (.dataRequest "8")).isNone := by decide +kernel
  have hsent : (g.outgoing ⟨⟨.dataRequest "8", some Sample.alice⟩, false⟩).toOption.isSome := by
    decide +kernel
  obtain ⟨out, hout⟩ := Option.isSome_iff_exists.mp hsent
  obtain ⟨spared, waits⟩ := calls_once_with_live_token.2.2 g 0 (Sample.get "/data-requests/8")
  obtain ⟨iff, carried⟩ := waits ⟨⟨.dataRequest "8", some Sample.alice⟩, false⟩
  have hwaits := iff.mpr ⟨.dataRequest hroute hid haccepted, rfl, ?_, hlive.symm, ?_⟩
  · refine ⟨⟨_, out, hwaits, eq_ok_of_toOption hout, ?_⟩, ?_⟩
    · exact (carried hwaits).2 g out (eq_ok_of_toOption hout)
    · have hpath : Route.ofPath? (Sample.get "/session").path = some .session := by decide +kernel
      exact (calls_once_with_live_token.2.2 g 0 (Sample.get "/session")).1 (.own hpath rfl)
  · rintro _ ⟨⟩
    exact Option.isNone_iff_eq_none.mp hheld
  · intro hn
    rw [hn] at hlive
    cases hlive

end Gateway
end SessionGateway
