import SessionGateway.Proofs.Ownership
import SessionGateway.Proofs.QueryForm

/-!
What the entries in memory are the answers to. Every entry under an address holds the JSON body of a
success that answered a call for this very address, or of a submission whose answer carries it as
its id. The address is computed three times on the way, when the request is read, when its call
comes back and when the next request looks for it; that these agree rests on the stability of normal
forms.
-/

namespace SessionGateway

theorem Request.query_of_asks? {r : Request} {kind query : String}
    (h : r.asks? = some (.suggestions kind query)) :
    query ≠ "" ∧ normalizeQuery query = query := by
  cases asks_of_asks? h with
  | suggestions _ _ _ _ notBlank => exact ⟨notBlank, normalizeQuery_normalizeQuery _⟩

namespace Traced

variable {base : Url} {config : Config} {es : List Event} {s : Slot} {entry : Entry}

/-- Every call under way was under way at the start, or a request of the run has asked for it and
was not refused. -/
theorem asked_of_underWay {x : Traced} {y : Nat × Waiting} (h : y ∈ (x.run es).traffic.underWay) :
    y ∈ x.traffic.underWay
      ∨ ∃ now r, .arrival y.1 now r ∈ es ∧ r.asks? = some y.2.pending.call := by
  induction es generalizing x with
  | nil => exact .inl h
  | cons e es ih =>
    rcases ih h with hstep | ⟨now, r, hr, hasks⟩
    · rcases Traffic.mem_underWay_step hstep with hx | ⟨now, r, call, rfl, hasks, hcall⟩
      · exact .inl hx
      · have hp := (Context.inquire_eq_call_iff.mp hcall).1
        exact .inr ⟨now, r, List.mem_cons_self .., hp ▸ hasks⟩
    · exact .inr ⟨now, r, List.mem_cons_of_mem _ hr, hasks⟩

/-- An entry was brought by a call: a request of the run that was not refused asked for it, it was
sent, and the portal answered it with a success whose body is the data of the entry. -/
def Brought (base : Url) (config : Config) (es : List Event) (call : Portal.Call)
    (entry : Entry) : Prop :=
  ∃ before ticket reply after y out,
    es = before ++ .completion ticket entry.timestamp (.replied reply) :: after
    ∧ ((start base config).run before).traffic.waiting? ticket = some y
    ∧ y.pending.call = call
    ∧ (∃ now r, .arrival ticket now r ∈ before ∧ r.asks? = some call)
    ∧ ((start base config).run before).traffic.gateway.outgoing y = .ok out
    ∧ Portal.isSuccess reply.status
    ∧ Json.readBytes (Json.readValue Json.maxDepth) reply.body = .ok entry.data

theorem exists_brought (h : ((start base config).run es).traffic.held? s = some entry) :
    ∃ call, Brought base config es call entry ∧ call.slot? entry.data = some s := by
  have hx : ((start base config).run es).Sound := sound_run base config es
  rw [hx.held?_eq] at h
  obtain ⟨w, ho, rfl⟩ := Option.map_eq_some_iff.mp h
  obtain ⟨before, event, after, hes, hw, rfl, -⟩ := exists_write ho
  obtain ⟨ticket, outcome, y, rfl, hy, hp, hv, hs, -⟩ := Traffic.write?_eq_some hw
  obtain ⟨out, hout, hv⟩ := Gateway.value_eq_ok hv
  obtain ⟨reply, rfl, hstatus, hbody⟩ := Portal.Outgoing.value_eq_ok hv
  have hcall : y.pending.call = w.pending.call := by rw [hp]
  have hasked : ∃ now r, .arrival ticket now r ∈ before ∧ r.asks? = some w.pending.call := by
    rcases asked_of_underWay (Traffic.mem_of_waiting? hy) with hstart | ⟨now, r, hr, hasks⟩
    · cases hstart
    · exact ⟨now, r, hr, hcall ▸ hasks⟩
  exact ⟨w.pending.call,
    ⟨before, ticket, reply, after, y, out, hes, hy, hcall, hasked, hout, hstatus, hbody⟩, hs⟩

theorem suggestions_brought {kind key : String}
    (h : ((start base config).run es).traffic.held? (.suggestions kind key) = some entry) :
    key ≠ "" ∧ normalizeQuery key = key
      ∧ Brought base config es (.suggestions kind key) entry := by
  obtain ⟨call, hbrought, hslot⟩ := exists_brought h
  cases call with
  | suggestions kind' query =>
    have hasks := hbrought
    obtain ⟨before, ticket, reply, after, y, out, -, -, -, ⟨now, r, -, hr⟩, -⟩ := hasks
    obtain ⟨hne, hnormal⟩ := Request.query_of_asks? hr
    have hplace : some (Slot.suggestions kind' (normalizeQuery query))
      = some (.suggestions kind key) := hslot
    rw [hnormal] at hplace
    cases hplace
    exact ⟨hne, hnormal, hbrought⟩
  | submission body =>
    obtain ⟨id, -, hid⟩ := Option.map_eq_some_iff.mp hslot
    cases hid
  | profile => cases hslot
  | dataRequest id => cases hslot

theorem dataRequest_brought {id : String}
    (h : ((start base config).run es).traffic.held? (.dataRequest id) = some entry) :
    Brought base config es (.dataRequest id) entry
      ∨ ∃ body, Brought base config es (.submission body) entry
        ∧ requestId? entry.data = some id := by
  obtain ⟨call, hbrought, hslot⟩ := exists_brought h
  cases call with
  | dataRequest id' =>
    cases hslot
    exact .inl hbrought
  | submission body =>
    obtain ⟨id', hid, hs⟩ := Option.map_eq_some_iff.mp hslot
    cases hs
    exact .inr ⟨body, hbrought, hid⟩
  | profile => cases hslot
  | suggestions kind query => cases hslot

theorem gateway_step_of_failed {t : Traffic} {ticket : Nat} {now : Instant}
    {outcome : Portal.Outcome} {y : Waiting} {e : GatewayError}
    (hy : t.waiting? ticket = some y) (he : t.gateway.value y outcome = .error e) :
    (t.step (.completion ticket now outcome)).1.gateway = t.gateway := by
  rw [Traffic.step_gateway, Traffic.write?, hy]
  simp only [he]
  rfl

theorem held?_of_arrival {t : Traffic} {ticket : Nat} {now : Instant} {r : Request}
    (h : (t.step (.arrival ticket now r)).1.held? s = some entry) : t.held? s = some entry := by
  rw [Traffic.held?_step] at h
  simp only [Traffic.write?, Option.map_none, reduceCtorEq, ↓reduceIte] at h
  split at h
  · cases h
  · exact h

/-- Suggestions lie under a query in normal form that is not empty, and were brought by a call for
this kind and query. A data request was brought by a call for its id, or by a submission whose
answer carries the id. Nothing else puts an entry into memory: neither the arrival of a request nor
a call that fails. -/
theorem entries_answer_their_address (base : Url) (config : Config) (es : List Event) :
    let x := (start base config).run es
    (∀ kind key entry, x.traffic.held? (.suggestions kind key) = some entry →
      key ≠ "" ∧ normalizeQuery key = key
        ∧ Brought base config es (.suggestions kind key) entry)
    ∧ (∀ id entry, x.traffic.held? (.dataRequest id) = some entry →
      Brought base config es (.dataRequest id) entry
        ∨ ∃ body, Brought base config es (.submission body) entry
          ∧ requestId? entry.data = some id)
    ∧ (∀ ticket now outcome y e, x.traffic.waiting? ticket = some y →
      x.traffic.gateway.value y outcome = .error e →
      (x.traffic.step (.completion ticket now outcome)).1.gateway = x.traffic.gateway)
    ∧ (∀ ticket now r s entry, (x.traffic.step (.arrival ticket now r)).1.held? s = some entry →
      x.traffic.held? s = some entry) := by
  intro x
  refine ⟨?_, ?_, ?_, ?_⟩
  · intro kind key entry he
    exact suggestions_brought he
  · intro id entry he
    exact dataRequest_brought he
  · intro ticket now outcome y e hy he
    exact gateway_step_of_failed hy he
  · intro ticket now r s entry he
    exact held?_of_arrival he

end Traced

namespace Sample

def seven : Portal.Outcome := .replied ⟨200, Text.Utf8.encode "\x7b\"id\":7\x7d".toList⟩

def submission : Request :=
  ⟨.post, "/data-requests", some "application/json", Text.Utf8.encode "\x7b\x7d".toList⟩

def searchAndSubmission : List Event :=
  [.arrival 1 0 (get "/typeahead/address?query=+Main++STREET"), .completion 1 0 one,
    .arrival 2 0 (login alice), .arrival 3 0 submission, .completion 3 0 seven]

end Sample

namespace Traced

theorem entries_of_search_and_submission :
    (∃ entry, ((start Sample.base {}).run Sample.searchAndSubmission).traffic.held?
        (.suggestions "address" "main street") = some entry
      ∧ Brought Sample.base {} Sample.searchAndSubmission (.suggestions "address" "main street")
        entry)
    ∧ ∃ entry, ((start Sample.base {}).run Sample.searchAndSubmission).traffic.held?
        (.dataRequest "7") = some entry
      ∧ (Brought Sample.base {} Sample.searchAndSubmission (.dataRequest "7") entry
        ∨ ∃ body, Brought Sample.base {} Sample.searchAndSubmission (.submission body) entry
          ∧ requestId? entry.data = some "7") := by
  obtain ⟨suggested, requested, -⟩ :=
    entries_answer_their_address Sample.base {} Sample.searchAndSubmission
  have hsearch : (((start Sample.base {}).run Sample.searchAndSubmission).traffic.held?
      (.suggestions "address" "main street")).isSome := by decide +kernel
  have hsubmission : (((start Sample.base {}).run Sample.searchAndSubmission).traffic.held?
      (.dataRequest "7")).isSome := by decide +kernel
  obtain ⟨found, hfound⟩ := Option.isSome_iff_exists.mp hsearch
  obtain ⟨submitted, hsubmitted⟩ := Option.isSome_iff_exists.mp hsubmission
  exact ⟨⟨found, hfound, (suggested _ _ _ hfound).2.2⟩,
    ⟨submitted, hsubmitted, requested _ _ hsubmitted⟩⟩

end Traced
end SessionGateway
