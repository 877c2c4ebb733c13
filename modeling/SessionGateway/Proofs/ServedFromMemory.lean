import SessionGateway.Proofs.PortalCalls

/-!
Data that was fetched once is served from memory for as long as it is fresh. What one event does to
a place it does not touch is nothing, so an entry outlasts any number of other requests, and the
next request for its address finds it, however that request spells the address. Main statement:
`Traffic.served_until_touched`.
-/

namespace SessionGateway

def Config.window (config : Config) : Slot → Window
  | .profile => config.profileWindow
  | .suggestions _ _ => config.typeaheadWindow
  | .dataRequest _ => config.dataRequestWindow

theorem Context.window_new (config : Config) (s : Slot) :
    (new config).window s = config.window s := by
  cases s <;> rfl

theorem Context.window_put (c : Context) (e : Entry) (s s' : Slot) :
    (c.put e s).window s' = c.window s' := by
  cases s <;> cases s' <;> rfl

theorem Change.window_apply (ch : Change) (c : Context) (s : Slot) :
    (ch.apply c).window s = c.window s := by
  cases ch <;> cases s <;> rfl

theorem Portal.Call.slot?_of_place? {call : Call} {s : Slot} (h : call.place? = some s) (v : Json) :
    call.slot? v = some s := by
  cases call with
  | submission body => cases h
  | _ => exact h

inductive Request.Reads (r : Request) : Slot → Prop where
  | profile (route : r.route? = some .profile) : r.Reads .profile
  | lookup {s : Slot} (looksUp : r.LooksUp s) : r.Reads s

/-- The requests whose data is stored in a place: those that read it, and submissions if the data
carries the id of the place. -/
inductive Request.Fills (r : Request) (data : Json) : Slot → Prop where
  | read {s : Slot} (reads : r.Reads s) : r.Fills data s
  | submission {id : String} (route : r.route? = some .dataRequests)
      (carried : requestId? data = some id) : r.Fills data (.dataRequest id)

namespace Request

variable {r : Request} {s : Slot} {call : Portal.Call}

theorem Reads.exists_call (h : r.Reads s) : ∃ call, r.asks? = some call ∧ call.place? = some s := by
  cases h with
  | profile route => exact ⟨.profile, asks?_of_asks (.profile route), rfl⟩
  | lookup looksUp =>
    obtain ⟨call, hcall, hplace, -⟩ := looksUp.exists_call
    exact ⟨call, hcall, hplace⟩

theorem Fills.slot?_eq {data : Json} (h : r.Fills data s) (hr : r.Asks call) :
    call.slot? data = some s := by
  cases h with
  | read reads =>
    obtain ⟨call', hcall', hplace⟩ := reads.exists_call
    rw [asks?_of_asks hr] at hcall'
    cases hcall'
    exact Portal.Call.slot?_of_place? hplace data
  | submission route carried =>
    cases hr with
    | submission => simp [Portal.Call.slot?, carried]
    | profile route' | suggestions route' | dataRequest route' =>
      rw [route] at route'
      cases route'

end Request

def Event.IsLogin : Event → Prop
  | .arrival _ now r => r.route? = some .session ∧ r.method = .post
    ∧ ∃ l, Handler.readBody Login.form.read r = .ok l ∧ (l.session? now).isSome
  | .completion _ _ _ => False

theorem Change.clears_ofCall (now : Instant) (call : Portal.Call) (s : Slot) :
    (ofCall now call).clears s = false := by
  cases call <;> rfl

theorem Request.Makes.of_clears {r : Request} {now : Instant} {ch : Change} {s : Slot}
    (h : r.Makes now ch) (hc : ch.clears s = true) :
    r.IsLogout ∨ s = .profile ∧ r.route? = some .session ∧ r.method = .post
      ∧ ∃ l, Handler.readBody Login.form.read r = .ok l ∧ (l.session? now).isSome := by
  cases h with
  | leave logout => exact .inl logout
  | enter route method read session =>
    cases s with
    | profile =>
      have hsome := Option.isSome_of_eq_some session
      exact .inr ⟨rfl, route, method, _, read, hsome⟩
    | suggestions kind key => cases hc
    | dataRequest id => cases hc
  | count asks =>
    rw [Change.clears_ofCall] at hc
    cases hc
  | _ => cases hc

theorem Event.of_clears {e : Event} {s : Slot} (h : e.change.clears s = true) :
    e.IsLogout ∨ (s = .profile ∧ e.IsLogin) := by
  cases e with
  | completion ticket now outcome => cases h
  | arrival ticket now r => exact (r.makes_change now).of_clears h

namespace Traffic

variable {t : Traffic} {e : Event} {es : List Event} {s : Slot}

inductive Touches (t : Traffic) (e : Event) (s : Slot) : Prop where
  | write {w : Write} (writes : t.write? e = some w) (place : w.slot = s)
  | logout (logout : e.IsLogout)
  | login (place : s = .profile) (login : e.IsLogin)

theorem held?_step_of_not_touches (h : ¬ t.Touches e s) : (t.step e).1.held? s = t.held? s := by
  have hwrite : (t.write? e).map (·.slot) ≠ some s := by
    intro hw
    obtain ⟨w, hw, hs⟩ := Option.map_eq_some_iff.mp hw
    exact h (.write hw hs)
  have hclears : e.change.clears s ≠ true := by
    intro hc
    rcases Event.of_clears hc with hl | ⟨hs, hl⟩
    · exact h (.logout hl)
    · exact h (.login hs hl)
  rw [held?_step, if_neg hwrite, if_neg hclears]

theorem held?_run_of_not_touches
    (h : ∀ before event after, es = before ++ event :: after → ¬ (t.run before).1.Touches event s) :
    (t.run es).1.held? s = t.held? s := by
  -- that no event touches the place is known at the state it comes to, so the start varies
  induction es generalizing t with
  | nil => rfl
  | cons e es ih =>
    have hstep : (t.step e).1.held? s = t.held? s := held?_step_of_not_touches (h [] e es rfl)
    rw [run, ← hstep]
    refine ih fun before event after hes => ?_
    exact h (e :: before) event after (by rw [hes, List.cons_append])

theorem window_step (t : Traffic) (e : Event) (s : Slot) :
    (t.step e).1.gateway.context.window s = t.gateway.context.window s := by
  rw [step_gateway]
  cases t.write? e with
  | none => exact Change.window_apply ..
  | some w => exact Context.window_put ..

theorem window_run (t : Traffic) (es : List Event) (s : Slot) :
    (t.run es).1.gateway.context.window s = t.gateway.context.window s := by
  induction es generalizing t with
  | nil => rfl
  | cons e es ih => exact (ih (t.step e).1).trans (t.window_step e s)

theorem step_of_finished {ticket : Nat} {now : Instant} {r : Request} {response : Response}
    (h : (t.gateway.arrive now r).2 = .finished response) :
    t.step (.arrival ticket now r) = (⟨(t.gateway.arrive now r).1, t.underWay⟩, some response) := by
  rw [step]
  split <;> simp_all

theorem waiting?_of_waiting {ticket : Nat} {now : Instant} {r : Request} {w : Waiting}
    (h : (t.gateway.arrive now r).2 = .waiting w) :
    (t.step (.arrival ticket now r)).1.waiting? ticket = some w := by
  rw [step]
  split <;> simp_all [waiting?]

theorem step_of_served {ticket : Nat} {now : Instant} {r : Request} {v : Json} (hr : r.Reads s)
    (hv : t.gateway.context.served? now s = some v) :
    (t.step (.arrival ticket now r)).2
        = some (Gateway.respond (r.method == .head) (.ofAnswer (.data true v)))
      ∧ (t.step (.arrival ticket now r)).1.underWay = t.underWay := by
  obtain ⟨call, hcall, hplace⟩ := hr.exists_call
  have hfinished : (t.gateway.arrive now r).2
      = .finished (Gateway.respond (r.method == .head) (.ofAnswer (.data true v))) := by
    rw [Gateway.arrive_of_asks _ _ hcall, Context.inquire, hplace, Option.bind_some, hv]
    rfl
  rw [step_of_finished hfinished]
  exact ⟨rfl, rfl⟩

/-- How a request comes to have its data stored: it waits for a call, the call is still under way
when it comes back with the data, and its token, if it has one, is that of the session then. -/
structure Fetch (t : Traffic) where
  upTo : List Event
  ticket : Nat
  request : Request
  waiting : Waiting
  waits : ∃ before now between, upTo = before ++ .arrival ticket now request :: between
    ∧ ((t.run before).1.gateway.arrive now request).2 = .waiting waiting
  underWay : (t.run upTo).1.waiting? ticket = some waiting
  time : Instant
  outcome : Portal.Outcome
  data : Json
  brings : (t.run upTo).1.gateway.value waiting outcome = .ok data
  current : ∀ token, waiting.pending.token = some token → (t.run upTo).1.token? = some token

namespace Fetch

def completion (f : t.Fetch) : Event := .completion f.ticket f.time f.outcome

theorem write?_eq (f : t.Fetch) (hs : f.request.Fills f.data s) :
    (t.run f.upTo).1.write? f.completion = some ⟨f.waiting.pending, s, ⟨f.data, f.time⟩⟩ := by
  obtain ⟨before, now, between, -, hwaits⟩ := f.waits
  have hslot : f.waiting.pending.call.slot? f.data = some s :=
    hs.slot?_eq (Gateway.arrive_eq_waiting_iff.mp hwaits).1
  have hcurrent : f.waiting.pending.token.all (t.run f.upTo).1.gateway.context.auth.holdsToken := by
    cases htoken : f.waiting.pending.token with
    | none => rfl
    | some token => exact Auth.holdsToken_iff.mpr (f.current token htoken)
  simp only [write?, completion, f.underWay, f.brings, hcurrent, hslot, ↓reduceIte,
    Option.map_some]

theorem held?_eq (f : t.Fetch) (hs : f.request.Fills f.data s) :
    ((t.run f.upTo).1.step f.completion).1.held? s = some ⟨f.data, f.time⟩ := by
  rw [held?_step, f.write?_eq hs]
  simp

theorem run_completion (f : t.Fetch) (es : List Event) :
    (t.run (f.upTo ++ f.completion :: es)).1
      = (((t.run f.upTo).1.step f.completion).1.run es).1 := by
  rw [run_append]
  rfl

end Fetch

theorem render_int (n : Int) : Json.render (.int n) = toString n := by
  rw [Json.render, Json.chars, Json.intChars]
  cases n with
  | ofNat m =>
    rw [if_neg (by simp)]
    rfl
  | negSucc m =>
    have hsign : toString (Int.negSucc m) = "-" ++ String.ofList (Json.decimalChars (m + 1)) := rfl
    rw [if_pos (Int.negSucc_lt_zero m), hsign, show "-" = String.ofList ['-'] from rfl,
      ← String.ofList_append]
    rfl

theorem requestId?_of_int {payload : Json} {n : Int} (h : payload.get? "id" = some (.int n)) :
    requestId? payload = some (toString n) := by
  rw [requestId?, h, ← render_int]

theorem requestId?_of_float {payload : Json} {x : Binary64}
    (h : payload.get? "id" = some (.float x)) :
    requestId? payload = some (Json.render (.float x)) := by
  rw [requestId?, h]

/-- Data that a request of a run had stored at a time is answered, marked as cached, to every later
request for its address, while it is fresh by the window that the configuration gives the store,
and nothing is asked from the portal for it. In between there may be any events that neither write
into the address nor empty it. Suggestions have the kind and the normal form of the query as their
address, a data request its id, and a number that a submission carries as its id stands for its
decimal text. -/
theorem served_until_touched (base : Url) (config : Config) :
    (∀ (f : (start base config).Fetch) (s : Slot), f.request.Fills f.data s →
      ∀ after : List Event, (∀ before event rest, after = before ++ event :: rest →
        ¬ ((start base config).run (f.upTo ++ f.completion :: before)).1.Touches event s) →
      ∀ (r : Request) (ticket : Nat) (now : Instant), r.Reads s →
        Entry.isFresh ⟨f.data, f.time⟩ (config.window s) now →
        let t := ((start base config).run (f.upTo ++ f.completion :: after)).1
        (t.step (.arrival ticket now r)).2
            = some (Gateway.respond (r.method == .head) (.ofAnswer (.data true f.data)))
          ∧ (t.step (.arrival ticket now r)).1.underWay = t.underWay)
    ∧ (∀ payload n, payload.get? "id" = some (.int n) → requestId? payload = some (toString n))
    ∧ ∀ payload x, payload.get? "id" = some (.float x) →
      requestId? payload = some (Json.render (.float x)) := by
  refine ⟨fun f s hs after hafter r ticket now hr hfresh => ?_, fun _ _ => requestId?_of_int,
    fun _ _ => requestId?_of_float⟩
  -- the completion writes the entry, and no event after it takes it away
  have hheld : ((start base config).run (f.upTo ++ f.completion :: after)).1.held? s
      = some ⟨f.data, f.time⟩ := by
    rw [f.run_completion, held?_run_of_not_touches, f.held?_eq hs]
    intro before event rest hes
    rw [← f.run_completion]
    exact hafter before event rest hes
  have hwindow : ((start base config).run
      (f.upTo ++ f.completion :: after)).1.gateway.context.window s = config.window s :=
    (window_run ..).trans (Context.window_new config s)
  refine step_of_served hr (Context.served?_eq_some_iff.mpr ⟨_, hheld, ?_, rfl⟩)
  rw [hwindow]
  exact hfresh

theorem street_served_from_memory :
    ∃ f : (start Sample.base {}).Fetch,
      f.request = Sample.get "/typeahead/address?query=+Main++STREET"
      ∧ (((start Sample.base {}).run
            (f.upTo ++ [f.completion, .arrival 2 5 (Sample.login Sample.bob)])).1.step
          (.arrival 3 119999 (Sample.get "/typeahead/address?query=main%20Street"))).2
        = some (.ofAnswer (.data true f.data)) := by
  let street : Portal.Call := .suggestions "address" "main street"
  have hread : ∀ target ∈ ["/typeahead/address?query=+Main++STREET",
      "/typeahead/address?query=main%20Street"],
      (Sample.get target).route? = some (.typeahead "address".toList)
        ∧ (SuggestionQuery.ofPairs? (Text.Form.pairs (Sample.get target).query)).map
            (normalizeQuery ·.query) = some "main street" := by decide +kernel
  have hkind : parameter? "address".toList = some "address" := by decide +kernel
  have haccepted : segmentProblem? "Kind" "address" = none := by decide +kernel
  have asks : ∀ target ∈ ["/typeahead/address?query=+Main++STREET",
      "/typeahead/address?query=main%20Street"], (Sample.get target).Asks street := by
    intro target htarget
    obtain ⟨hroute, hquery⟩ := hread target htarget
    obtain ⟨q, hq, hnormal⟩ := Option.map_eq_some_iff.mp hquery
    have h := Request.Asks.suggestions hroute hkind hq haccepted (by rw [hnormal]; decide)
    rwa [hnormal] at h
  have hplace : street.place? = some (.suggestions "address" "main street") := by decide +kernel
  have reads : ∀ target ∈ ["/typeahead/address?query=+Main++STREET",
      "/typeahead/address?query=main%20Street"],
      (Sample.get target).Reads (.suggestions "address" "main street") := fun target htarget =>
    .lookup (Request.looksUp_of_asks? (Request.asks?_of_asks (asks target htarget)) hplace nofun)
  have hwaits : ((start Sample.base {}).gateway.arrive 0
      (Sample.get "/typeahead/address?query=+Main++STREET")).2
        = .waiting ⟨⟨street, none⟩, false⟩ := by
    refine Gateway.arrive_eq_waiting_iff.mpr ⟨asks _ (by simp), rfl, ?_, rfl, fun _ => rfl⟩
    rw [hplace]
    rintro _ ⟨⟩
    rfl
  have hunderWay : ((start Sample.base {}).run
      [.arrival 1 0 (Sample.get "/typeahead/address?query=+Main++STREET")]).1.waiting? 1
      = some ⟨⟨street, none⟩, false⟩ := by
    rw [run_cons, run_nil]
    exact waiting?_of_waiting hwaits
  have hone : (((start Sample.base {}).run
      [.arrival 1 0 (Sample.get "/typeahead/address?query=+Main++STREET")]).1.gateway.value
        ⟨⟨street, none⟩, false⟩ Sample.one).toOption.isSome := by decide +kernel
  obtain ⟨data, hdata⟩ := Option.isSome_iff_exists.mp hone
  let f : (start Sample.base {}).Fetch :=
    ⟨[.arrival 1 0 (Sample.get "/typeahead/address?query=+Main++STREET")], 1, _, _,
      ⟨[], 0, [], rfl, hwaits⟩, hunderWay, 0, Sample.one, data, eq_ok_of_toOption hdata, nofun⟩
  refine ⟨f, rfl, ?_⟩
  have hfresh : Entry.isFresh ⟨.null, 0⟩
      (Config.window {} (.suggestions "address" "main street")) 119999 := by decide
  refine ((served_until_touched Sample.base {}).1 f _ (.read (reads _ (by simp))) _ ?_ _ 3 119999
    (reads _ (by simp)) hfresh).1
  intro before event rest hafter htouches
  rcases List.append_eq_singleton_iff.mp hafter.symm with ⟨-, hevent⟩ | ⟨-, hevent⟩
  · cases hevent
    cases htouches with
    | write writes place => cases writes
    | logout logout => cases logout.2
    | login place login => cases place
  · cases hevent

end Traffic
end SessionGateway
