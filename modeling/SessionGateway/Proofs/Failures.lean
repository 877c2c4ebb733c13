import SessionGateway.Proofs.Provenance
import SessionGateway.Proofs.QueryForm

/-!
What requests that fail leave behind: nothing but the count of a lookup. A request is atomic in both
of its steps. What its handler refuses has changed nothing yet, and a call that brings no value
changes nothing when it comes back; in between stands at most one lookup, which found nothing fresh
and is counted as a miss or as stale.
-/

namespace SessionGateway

def Stats.countUnserved (s : Stats) : Option Entry → Stats
  | none => { s with misses := s.misses + 1 }
  | some _ => { s with stale := s.stale + 1 }

theorem Stats.record_of_not_served {window : Window} {now : Instant} {found : Option Entry}
    (h : Entry.served? window now found = none) (s : Stats) :
    s.record (.of window now found) = s.countUnserved found := by
  cases found with
  | none => rfl
  | some e =>
    have hstale : e.isFresh window now = false := by simpa [Entry.served?] using h
    simp [LookupOutcome.of, hstale, record, countUnserved]

theorem Stats.countUnserved_ne (s : Stats) (found : Option Entry) : s.countUnserved found ≠ s := by
  have grows (n : UInt64) : n + 1 ≠ n := by simp
  cases found with
  | none => exact fun h => grows s.misses (congrArg Stats.misses h)
  | some e => exact fun h => grows s.stale (congrArg Stats.stale h)

/-- A context after a lookup of a place that did not serve: one counter of one store is up by one,
that of the misses if nothing is held there. Lookups of the profile are not counted. -/
def Context.countUnserved (c : Context) : Slot → Context
  | .profile => c
  | .suggestions kind key =>
    { c with typeahead := { c.typeahead with
      counters := c.typeahead.counters.countUnserved (c.held? (.suggestions kind key)) } }
  | .dataRequest id =>
    { c with dataRequests := { c.dataRequests with
      counters := c.dataRequests.counters.countUnserved (c.held? (.dataRequest id)) } }

theorem Change.apply_ofCall {c : Context} {now : Instant} {call : Portal.Call} {s : Slot}
    (hp : call.place? = some s) (hs : c.served? now s = none) :
    (ofCall now call).apply c = c.countUnserved s := by
  cases call with
  | profile =>
    cases hp
    rfl
  | submission body => cases hp
  | suggestions kind query =>
    cases hp
    have hrecord : (c.typeahead.lookup kind query now).1.counters
        = c.typeahead.counters.countUnserved
          (c.held? (.suggestions kind (normalizeQuery query))) :=
      Stats.record_of_not_served hs c.typeahead.counters
    simp only [Context.countUnserved, ← hrecord]
    rfl
  | dataRequest id =>
    cases hp
    have hrecord : (c.dataRequests.lookup id now).1.counters
        = c.dataRequests.counters.countUnserved (c.held? (.dataRequest id)) :=
      Stats.record_of_not_served hs c.dataRequests.counters
    simp only [Context.countUnserved, ← hrecord]
    rfl

theorem Change.apply_ofCall_of_no_place {c : Context} {now : Instant} {call : Portal.Call}
    (hp : call.place? = none) : (ofCall now call).apply c = c := by
  cases call with
  | submission body => rfl
  | _ => cases hp

/-- The requests that look for an entry in a store: those for suggestions or a data request whose
kind or id is accepted as a segment and whose query is not blank. -/
inductive Request.LooksUp (r : Request) : Slot → Prop where
  | suggestions {raw : List Char} {kind : String} {q : SuggestionQuery}
      (route : r.route? = some (.typeahead raw)) (decoded : parameter? raw = some kind)
      (query : SuggestionQuery.ofPairs? (Text.Form.pairs r.query) = some q)
      (accepted : segmentProblem? "Kind" kind = none) (notBlank : normalizeQuery q.query ≠ "") :
      r.LooksUp (.suggestions kind (normalizeQuery q.query))
  | dataRequest {raw : List Char} {id : String} (route : r.route? = some (.dataRequest raw))
      (decoded : parameter? raw = some id) (accepted : segmentProblem? "Request id" id = none) :
      r.LooksUp (.dataRequest id)

namespace Request

variable {r : Request} {s : Slot} {now : Instant} {c : Context}

theorem LooksUp.exists_call (h : r.LooksUp s) :
    ∃ call, r.asks? = some call ∧ call.place? = some s ∧ s ≠ .profile := by
  cases h with
  | suggestions route decoded query accepted notBlank =>
    have hasks := Asks.suggestions route decoded query accepted notBlank
    refine ⟨_, asks?_of_asks hasks, ?_, Slot.noConfusion⟩
    rw [Portal.Call.place?, normalizeQuery_normalizeQuery]
  | dataRequest route decoded accepted =>
    exact ⟨_, asks?_of_asks (.dataRequest route decoded accepted), rfl, Slot.noConfusion⟩

theorem looksUp_of_asks? {call : Portal.Call} (h : r.asks? = some call)
    (hp : call.place? = some s) (hs : s ≠ .profile) : r.LooksUp s := by
  cases asks_of_asks? h with
  | profile route =>
    cases hp
    exact absurd rfl hs
  | suggestions route decoded query accepted notBlank =>
    rw [Portal.Call.place?, normalizeQuery_normalizeQuery] at hp
    cases hp
    exact .suggestions route decoded query accepted notBlank
  | submission route read object => cases hp
  | dataRequest route decoded accepted =>
    cases hp
    exact .dataRequest route decoded accepted

end Request

def Reaction.IsFailure : Reaction → Prop
  | .fail _ | .reject _ => True
  | _ => False

namespace Handler

variable {c : Context} {now : Instant} {r : Request}

theorem session?_of_login_failure {l : Login} (h : (login c now l).2.IsFailure) :
    l.session? now = none := by
  unfold login Auth.login at h
  unfold Login.session?
  cases hp : l.problem? with
  | some problem => rfl
  | none =>
    rw [hp] at h
    cases ht : Token.claims l.token with
    | error e => rfl
    | ok claims =>
      rw [ht] at h
      exact h.elim

theorem problem?_of_setPreviousRoute_failure {choice : RouteChoice}
    (h : (setPreviousRoute c choice).2.IsFailure) : choice.problem?.isSome := by
  unfold setPreviousRoute at h
  cases hp : choice.problem? with
  | some problem => rfl
  | none =>
    rw [hp] at h
    exact h.elim

theorem keyProblem?_of_storeEntry_failure {category key : String} {w : CacheWrite}
    (h : (storeEntry c now category key w).2.IsFailure) :
    ((keyProblem? "Category" category).or (keyProblem? "Key" key)).isSome := by
  unfold storeEntry at h
  cases hp : (keyProblem? "Category" category).or (keyProblem? "Key" key) with
  | some problem => rfl
  | none =>
    rw [hp] at h
    exact h.elim

theorem onPart_keep_of_failure {α : Type} {part : Except Rejection α}
    {next : α → Context × Reaction} {change : α → Change}
    (hnext : ∀ v, (next v).2.IsFailure → change v = .keep)
    (h : (orReject c part next).2.IsFailure) : onPart .keep part change = .keep := by
  cases part with
  | error x => rfl
  | ok v => exact hnext v h

theorem changeAt_of_failure {route : Route} {m : Method} (hn : r.asksAt? route = none)
    (h : (react c now r route m).2.IsFailure) : r.changeAt now route m = .keep := by
  cases route with
  | session =>
    cases m with
    | post =>
      refine onPart_keep_of_failure (fun l hl => ?_) h
      rw [session?_of_login_failure hl]
      rfl
    | delete => exact h.elim
    | _ => rfl
  | previousRoute =>
    cases m with
    | put =>
      refine onPart_keep_of_failure (fun choice hchoice => ?_) h
      rw [if_pos (problem?_of_setPreviousRoute_failure hchoice)]
    | _ => rfl
  | cache => exact h.elim
  | category name =>
    have hnever : ∀ name, (clearCategory c name).2.IsFailure → Change.clearCategory name = .keep :=
      fun _ hname => hname.elim
    exact onPart_keep_of_failure hnever h
  | cacheKey category key =>
    cases m with
    | put =>
      refine onPart_keep_of_failure (fun category h => ?_) h
      refine onPart_keep_of_failure (fun key h => ?_) h
      refine onPart_keep_of_failure (fun w h => ?_) h
      rw [if_pos (keyProblem?_of_storeEntry_failure h)]
    | _ => rfl
  | profile => cases hn
  | typeahead kind => simp only [Request.changeAt, hn, Option.elim_none]
  | dataRequests => simp only [Request.changeAt, hn, Option.elim_none]
  | dataRequest id => simp only [Request.changeAt, hn, Option.elim_none]
  | stats => rfl
  | health => rfl

end Handler

theorem Request.changeAt_of_asksAt? {r : Request} {now : Instant} {route : Route}
    {call : Portal.Call} (h : r.asksAt? route = some call) (m : Method) :
    r.changeAt now route m = .ofCall now call := by
  cases route with
  | profile => simp only [changeAt, h, Option.elim_some]
  | typeahead kind => simp only [changeAt, h, Option.elim_some]
  | dataRequests => simp only [changeAt, h, Option.elim_some]
  | dataRequest id => simp only [changeAt, h, Option.elim_some]
  | _ => cases h

theorem Request.change_of_asks? {r : Request} {now : Instant} {call : Portal.Call}
    (h : r.asks? = some call) : r.change now = .ofCall now call := by
  obtain ⟨route, hr, hc⟩ := Option.bind_eq_some_iff.mp h
  rw [change, hr, Option.elim_some, changeAt_of_asksAt? hc]

namespace Gateway

/-- A request fails: its handler refuses it, a part of it cannot be read, or it waits for a call
which brings no value. By then the gateway may be any other. -/
inductive Fails (g : Gateway) (now : Instant) (r : Request) (later : Gateway)
    (outcome : Portal.Outcome) : Prop where
  | handler {route : Route} {e : GatewayError} (reached : r.route? = some route)
      (failed : (Handler.react g.context now r route r.method).2 = .fail e)
  | part {route : Route} {x : Rejection} (reached : r.route? = some route)
      (rejected : (Handler.react g.context now r route r.method).2 = .reject x)
  | call {w : Waiting} {e : GatewayError} (waits : (g.arrive now r).2 = .waiting w)
      (failed : later.value w outcome = .error e)

variable {g later : Gateway} {now : Instant} {r : Request} {outcome : Portal.Outcome} {s : Slot}

theorem Fails.cases (h : g.Fails now r later outcome) :
    (∃ route, r.route? = some route
        ∧ (Handler.react g.context now r route r.method).2.IsFailure)
      ∨ ∃ w e, (g.arrive now r).2 = .waiting w ∧ later.value w outcome = .error e := by
  cases h with
  | handler reached failed => exact .inl ⟨_, reached, by rw [failed]; trivial⟩
  | part reached rejected => exact .inl ⟨_, reached, by rw [rejected]; trivial⟩
  | call waits failed => exact .inr ⟨_, _, waits, failed⟩

theorem change_of_fails (h : g.Fails now r later outcome) (hn : r.asks? = none) :
    r.change now = .keep := by
  rcases h.cases with ⟨route, hr, hfailure⟩ | ⟨w, e, hwaits, -⟩
  · have hroute : r.asksAt? route = none := by simpa [Request.asks?, hr] using hn
    rw [Request.change, hr, Option.elim_some, Handler.changeAt_of_failure hroute hfailure]
  · obtain ⟨response, hfinished, -⟩ := arrive_of_not_asks g now hn
    rw [hwaits] at hfinished
    cases hfinished

theorem not_served_of_fails {call : Portal.Call} (h : g.Fails now r later outcome)
    (hr : r.asks? = some call) (hp : call.place? = some s) : g.context.served? now s = none := by
  rw [Option.eq_none_iff_forall_ne_some]
  intro v hv
  have hinquire : g.context.inquire now call = .answer (.data true v) := by
    rw [Context.inquire, hp, Option.bind_some, hv]
  rcases h.cases with ⟨route, hroute, hfailure⟩ | ⟨w, e, hwaits, -⟩
  · obtain ⟨route', hroute', hcall⟩ := Option.bind_eq_some_iff.mp hr
    rw [hroute] at hroute'
    cases hroute'
    rw [(Handler.react_does ..).snd_eq call hcall, hinquire] at hfailure
    exact hfailure
  · rw [arrive_of_asks g now hr, hinquire] at hwaits
    cases hwaits

theorem arrive_of_fails (h : g.Fails now r later outcome) (hs : r.LooksUp s) :
    (g.arrive now r).1 = ⟨g.base, g.context.countUnserved s⟩ := by
  obtain ⟨call, hcall, hplace, -⟩ := hs.exists_call
  rw [arrive_context, Request.change_of_asks? hcall,
    Change.apply_ofCall hplace (not_served_of_fails h hcall hplace)]

theorem arrive_of_fails_of_not_looksUp (h : g.Fails now r later outcome)
    (hs : ∀ s, ¬ r.LooksUp s) : (g.arrive now r).1 = g := by
  rw [arrive_context]
  cases hr : r.asks? with
  | none => rw [change_of_fails h hr, Change.apply]
  | some call =>
    rw [Request.change_of_asks? hr]
    cases hp : call.place? with
    | none => rw [Change.apply_ofCall_of_no_place hp]
    | some s =>
      have hprofile : s = .profile :=
        Classical.byContradiction fun hne => hs s (Request.looksUp_of_asks? hr hp hne)
      subst hprofile
      rw [Change.apply_ofCall hp (not_served_of_fails h hr hp), Context.countUnserved]

theorem complete_of_fails {w : Waiting} (h : g.Fails now r later outcome)
    (hw : (g.arrive now r).2 = .waiting w) (now' : Instant) :
    (later.complete now' w outcome).1 = later := by
  rcases h.cases with ⟨route, hroute, hfailure⟩ | ⟨w', e, hwaits, hvalue⟩
  · rw [arrive_of_route hroute] at hw
    rw [(Reaction.progress_eq_waiting_iff.mp hw).1] at hfailure
    exact hfailure.elim
  · rw [hwaits] at hw
    cases hw
    rw [complete, hvalue]

theorem counters_of_fails (h : g.Fails now r later outcome) :
    ((g.arrive now r).1.context.typeahead.counters ≠ g.context.typeahead.counters
      ↔ ∃ kind key, r.LooksUp (.suggestions kind key))
    ∧ ((g.arrive now r).1.context.dataRequests.counters ≠ g.context.dataRequests.counters
      ↔ ∃ id, r.LooksUp (.dataRequest id)) := by
  by_cases hs : ∃ s, r.LooksUp s
  · obtain ⟨s, hs⟩ := hs
    obtain ⟨call, hcall, hplace, hprofile⟩ := hs.exists_call
    -- one request looks into one store, so the counts of the other stay
    have only : ∀ s', r.LooksUp s' → s' = s := by
      intro s' hs'
      obtain ⟨call', hcall', hplace', -⟩ := hs'.exists_call
      rw [hcall] at hcall'
      cases hcall'
      rw [hplace] at hplace'
      exact (Option.some.inj hplace').symm
    rw [arrive_of_fails h hs]
    cases s with
    | profile => exact absurd rfl hprofile
    | suggestions kind key =>
      refine ⟨⟨fun _ => ⟨kind, key, hs⟩, fun _ => Stats.countUnserved_ne _ _⟩, ?_, ?_⟩
      · exact fun hne => absurd rfl hne
      · rintro ⟨id, hid⟩
        cases only _ hid
    | dataRequest id =>
      refine ⟨⟨fun hne => absurd rfl hne, ?_⟩, fun _ => ⟨id, hs⟩, fun _ => ?_⟩
      · rintro ⟨kind, key, hkey⟩
        cases only _ hkey
      · exact Stats.countUnserved_ne _ _
  · have hnone : ∀ s, ¬ r.LooksUp s := fun s h => hs ⟨s, h⟩
    rw [arrive_of_fails_of_not_looksUp h hnone]
    refine ⟨⟨fun hne => absurd rfl hne, ?_⟩, fun hne => absurd rfl hne, ?_⟩
    · rintro ⟨kind, key, hkey⟩
      exact absurd hkey (hnone _)
    · rintro ⟨id, hid⟩
      exact absurd hid (hnone _)

theorem arrive_of_refused_login {l : Login} (hr : r.route? = some .session)
    (hm : r.method = .post) (hl : Handler.readBody Login.form.read r = .ok l)
    (hbad : l.problem?.isSome ∨ ∃ e, Token.claims l.token = .error e) :
    (g.arrive now r).1 = g
      ∧ ∃ response, (g.arrive now r).2 = .finished response ∧ response.status = 400 := by
  have hreact : Handler.react g.context now r .session .post = Handler.login g.context now l := by
    simp only [Handler.react, hl, Handler.orReject]
  have hlogin : ∃ e, Handler.login g.context now l = (g.context, .fail e) ∧ e.status = 400 := by
    unfold Handler.login Auth.login
    cases hp : l.problem? with
    | some problem => exact ⟨_, rfl, rfl⟩
    | none =>
      rw [hp] at hbad
      obtain ⟨e, he⟩ := hbad.resolve_left (by simp)
      rw [he]
      exact ⟨_, rfl, rfl⟩
  obtain ⟨e, he, hstatus⟩ := hlogin
  rw [arrive_of_route hr, hm, hreact, he]
  refine ⟨rfl, _, rfl, ?_⟩
  simp only [respond, Response.ofError]
  cases e.body? <;> exact hstatus

/-- A request that fails keeps everything as it is, except that a lookup of suggestions or of a data
request which it made is counted as a miss, or as stale, in the one store that it looked into. A
login whose token is blank or cannot be decoded is refused and keeps everything. -/
theorem failed_request_only_counts (g : Gateway) (now : Instant) (r : Request) :
    (∀ later outcome, g.Fails now r later outcome →
      (∀ s, r.LooksUp s → (g.arrive now r).1 = ⟨g.base, g.context.countUnserved s⟩)
      ∧ ((∀ s, ¬ r.LooksUp s) → (g.arrive now r).1 = g)
      ∧ ((g.arrive now r).1.context.typeahead.counters ≠ g.context.typeahead.counters
        ↔ ∃ kind key, r.LooksUp (.suggestions kind key))
      ∧ ((g.arrive now r).1.context.dataRequests.counters ≠ g.context.dataRequests.counters
        ↔ ∃ id, r.LooksUp (.dataRequest id))
      ∧ ∀ w now', (g.arrive now r).2 = .waiting w →
        (later.complete now' w outcome).1 = later)
    ∧ ∀ l, r.route? = some .session → r.method = .post →
      Handler.readBody Login.form.read r = .ok l →
      (l.problem?.isSome ∨ ∃ e, Token.claims l.token = .error e) →
      (g.arrive now r).1 = g
        ∧ ∃ response, (g.arrive now r).2 = .finished response ∧ response.status = 400 := by
  refine ⟨fun later outcome h => ?_, fun l hr hm hl => arrive_of_refused_login hr hm hl⟩
  obtain ⟨suggestions, dataRequests⟩ := counters_of_fails h
  exact ⟨fun s => arrive_of_fails h, arrive_of_fails_of_not_looksUp h, suggestions, dataRequests,
    fun w now' hw => complete_of_fails h hw now'⟩

theorem refused_requests_of_nobody_and_alice :
    (⟨Sample.base, .new {}⟩ : Gateway).Fails 0 (Sample.get "/data-requests/7")
      ⟨Sample.base, .new {}⟩ .unreachable
    ∧ (Sample.get "/data-requests/7").LooksUp (.dataRequest "7")
    ∧ ((⟨Sample.base, .new {}⟩ : Gateway).arrive 0 (Sample.get "/data-requests/7")).1
      = ⟨Sample.base, (Context.new {}).countUnserved (.dataRequest "7")⟩
    ∧ Handler.readBody Login.form.read (Sample.login "a.b") = .ok ⟨"a.b"⟩
    ∧ (((Traced.start Sample.base {}).run
          (Sample.profileOf Sample.alice)).traffic.gateway.arrive 0 (Sample.login "a.b")).1
      = ((Traced.start Sample.base {}).run (Sample.profileOf Sample.alice)).traffic.gateway := by
  have hroute : (Sample.get "/data-requests/7").route? = some (.dataRequest ['7']) := by
    decide +kernel
  have hid : parameter? ['7'] = some "7" := by decide +kernel
  have haccepted : segmentProblem? "Request id" "7" = none := by decide +kernel
  have hreact : (Handler.react (.new {}) 0 (Sample.get "/data-requests/7") (.dataRequest ['7'])
      (Sample.get "/data-requests/7").method).2 = .fail (.unauthorized "no active session") := by
    simp only [Handler.react, Handler.parameter_eq_ok_iff.mpr hid, Handler.orReject,
      Handler.dataRequest, haccepted]
    rfl
  have hfails : (⟨Sample.base, .new {}⟩ : Gateway).Fails 0 (Sample.get "/data-requests/7")
      ⟨Sample.base, .new {}⟩ .unreachable := .handler hroute hreact
  have hlooksUp : (Sample.get "/data-requests/7").LooksUp (.dataRequest "7") :=
    .dataRequest hroute hid haccepted
  have hlogin : (Sample.login "a.b").route? = some .session := by decide +kernel
  have hread : Handler.readBody Login.form.read (Sample.login "a.b") = .ok ⟨"a.b"⟩ :=
    eq_ok_of_toOption (by decide +kernel)
  have hpayload : Token.payload? "a.b" = none := by decide +kernel
  have htoken : Token.claims "a.b" = .error .segments := by
    rw [Token.claims, hpayload]
  refine ⟨hfails, hlooksUp, ?_, hread, ?_⟩
  · exact ((failed_request_only_counts _ _ _).1 _ _ hfails).1 _ hlooksUp
  · exact ((failed_request_only_counts _ _ _).2 _ hlogin rfl hread (.inr ⟨_, htoken⟩)).1

end Gateway
end SessionGateway
