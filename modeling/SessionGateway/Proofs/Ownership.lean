import SessionGateway.Proofs.Provenance

/-!
To whom the entries in memory belong, over every run from the start: calls of an outdated token
write nothing, what is in memory was brought since the last logout, and the profile is that of the
current session.
-/

namespace SessionGateway

theorem Traffic.gateway_step_of_outdated {t : Traffic} {ticket : Nat} {now : Instant}
    {outcome : Portal.Outcome} {y : Waiting} {token : String} (hy : t.waiting? ticket = some y)
    (hp : y.pending.token = some token) (ht : t.token? ≠ some token) :
    (t.step (.completion ticket now outcome)).1.gateway = t.gateway := by
  rw [Traffic.step_gateway]
  cases h : t.write? (.completion ticket now outcome) with
  | none => rfl
  | some w =>
    obtain ⟨ticket', outcome', y', he, hy', hp', -, -, htoken⟩ := Traffic.write?_eq_some h
    cases he
    rw [hy] at hy'
    cases hy'
    exact absurd (htoken token (hp' ▸ hp)) ht

namespace Traced

variable {base : Url} {config : Config} {es : List Event} {s : Slot} {w : Write}

theorem exists_write_since_logout (h : ((start base config).run es).origin? s = some w) :
    ∃ before event after, es = before ++ event :: after
      ∧ ((start base config).run before).traffic.write? event = some w
      ∧ (∀ e ∈ event :: after, ¬ e.IsLogout)
      ∧ ∀ token, w.pending.token = some token →
          ((start base config).run before).traffic.token? = some token := by
  obtain ⟨before, event, after, hes, hw, -, hafter⟩ := exists_write h
  obtain ⟨ticket, outcome, y, rfl, -, -, -, -, current⟩ := Traffic.write?_eq_some hw
  refine ⟨before, _, after, hes, hw, ?_, current⟩
  intro e he hl
  rcases List.mem_cons.mp he with rfl | he
  · exact hl
  · have hc := Event.clears_of_isLogout hl s
    rw [hafter e he] at hc
    cases hc

theorem sizes_of_no_session {x : Traced} (h : x.Sound) (hn : x.traffic.session? = none) :
    x.traffic.gateway.context.dataRequests.size = 0
      ∧ x.traffic.gateway.context.auth.size = 0 := by
  have none_of := held?_eq_none_of_no_session h hn
  refine ⟨Table.size_eq_zero_of_get? fun id => none_of (.dataRequest id) rfl, ?_⟩
  have hp : x.traffic.gateway.context.auth.profileEntry = none := none_of .profile rfl
  simp [Auth.size_eq, hp]

/-- Calls write only for the session whose token they carry. So whatever is in memory was brought
since the last logout, with a token that was current then, or is suggestions that were asked for
without one. Where there is no session there are neither data requests nor a profile. -/
theorem entries_follow_sessions (base : Url) (config : Config) (es : List Event) :
    let x := (start base config).run es
    (∀ ticket now outcome y token, x.traffic.waiting? ticket = some y →
      y.pending.token = some token → x.traffic.token? ≠ some token →
      (x.traffic.step (.completion ticket now outcome)).1.gateway = x.traffic.gateway)
    ∧ (∀ s entry, x.traffic.held? s = some entry →
      ∃ w before event after, x.origin? s = some w ∧ w.entry = entry
        ∧ es = before ++ event :: after
        ∧ ((start base config).run before).traffic.write? event = some w
        ∧ (∀ e ∈ event :: after, ¬ e.IsLogout)
        ∧ (∀ token, w.pending.token = some token →
          ((start base config).run before).traffic.token? = some token)
        ∧ (w.pending.token = none → s.isSuggestions))
    ∧ (x.traffic.session? = none →
      x.traffic.gateway.context.dataRequests.size = 0
        ∧ x.traffic.gateway.context.auth.size = 0) := by
  intro x
  have hx : x.Sound := sound_run base config es
  refine ⟨fun _ _ _ _ _ => Traffic.gateway_step_of_outdated, ?_, sizes_of_no_session hx⟩
  intro s entry he
  rw [hx.held?_eq] at he
  obtain ⟨w, ho, rfl⟩ := Option.map_eq_some_iff.mp he
  obtain ⟨before, event, after, hes, hw, hl, ht⟩ := exists_write_since_logout ho
  exact ⟨w, before, event, after, ho, rfl, hes, hw, hl, ht, hx.anonymous s w ho⟩

theorem entries_follow_two_users :
    (∃ y, ((start Sample.base {}).run Sample.twoUsers).traffic.waiting? 3 = some y
      ∧ y.pending.token = some Sample.alice
      ∧ ((start Sample.base {}).run Sample.twoUsers).traffic.token? = some Sample.bob
      ∧ (((start Sample.base {}).run Sample.twoUsers).traffic.step
          (.completion 3 0 Sample.one)).1.gateway
        = ((start Sample.base {}).run Sample.twoUsers).traffic.gateway)
    ∧ (∃ entry before event after,
      ((start Sample.base {}).run Sample.twoUsers).traffic.held? (.dataRequest "7") = some entry
        ∧ Sample.twoUsers = before ++ event :: after
        ∧ ((start Sample.base {}).run before).traffic.token? = some Sample.alice)
    ∧ ((start Sample.base {}).run []).traffic.gateway.context.dataRequests.size = 0 := by
  obtain ⟨outdated, written, -⟩ := entries_follow_sessions Sample.base {} Sample.twoUsers
  have hbob : ((start Sample.base {}).run Sample.twoUsers).traffic.token? = some Sample.bob := by
    decide +kernel
  have hcall : (((start Sample.base {}).run Sample.twoUsers).traffic.waiting? 3).map
      (·.pending.token) = some (some Sample.alice) := by decide +kernel
  have hmark : (((start Sample.base {}).run Sample.twoUsers).origin? (.dataRequest "7")).map
      (·.pending.token) = some (some Sample.alice) := by decide +kernel
  obtain ⟨y, hy, hp⟩ := Option.map_eq_some_iff.mp hcall
  obtain ⟨w, ho, ht⟩ := Option.map_eq_some_iff.mp hmark
  have hentry := (sound_run Sample.base {} Sample.twoUsers).held?_eq (.dataRequest "7")
  rw [ho, Option.map_some] at hentry
  refine ⟨⟨y, hy, hp, hbob, outdated 3 0 Sample.one y Sample.alice hy hp ?_⟩, ?_, ?_⟩
  · rw [hbob]
    decide
  · obtain ⟨w', before, event, after, ho', -, hes, -, -, htoken, -⟩ := written _ _ hentry
    rw [ho] at ho'
    cases ho'
    exact ⟨w.entry, before, event, after, hentry, hes, htoken _ ht⟩
  · exact ((entries_follow_sessions Sample.base {} []).2.2 rfl).1

end Traced

theorem Portal.Call.eq_profile_of_slot? {call : Call} {v : Json}
    (h : call.slot? v = some .profile) : call = .profile := by
  cases call with
  | profile => rfl
  | submission body =>
    obtain ⟨id, -, hid⟩ := Option.map_eq_some_iff.mp h
    cases hid
  | _ => cases h

theorem Portal.Call.outgoing_profile {base : Url} {token : Option String} {out : Outgoing}
    (h : Call.profile.outgoing base token = .ok out) :
    out = ⟨"GET", withoutUser (base.extend ["users", "me"]), token.map ("Bearer " ++ ·), none,
      ""⟩ := by
  simp only [outgoing] at h
  split at h
  · cases h
  · split at h
    · cases h
    · split at h
      · cases h
      · exact (Except.ok.inj h).symm

theorem Portal.Outgoing.value_eq_ok {o : Outgoing} {outcome : Outcome} {v : Json}
    (h : o.value outcome = .ok v) :
    ∃ reply, outcome = .replied reply ∧ isSuccess reply.status
      ∧ Json.readBytes (Json.readValue Json.maxDepth) reply.body = .ok v := by
  cases outcome with
  | unreachable => cases h
  | replied reply =>
    rw [value, Reply.value] at h
    split at h
    · rename_i hs
      split at h
      · rename_i hv
        cases h
        exact ⟨reply, rfl, hs, hv⟩
      · cases h
    · cases h

theorem Gateway.value_eq_ok {g : Gateway} {w : Waiting} {outcome : Portal.Outcome} {v : Json}
    (h : g.value w outcome = .ok v) :
    ∃ out, g.outgoing w = .ok out ∧ out.value outcome = .ok v := by
  rw [value] at h
  split at h
  · cases h
  · rename_i out hout
    exact ⟨out, hout, h⟩

namespace Traced

/-- At most one profile is in memory. It belongs to the current session: it is what the portal
answered to a GET of `users/me` with the token of that session. -/
theorem profile_of_current_session (base : Url) (config : Config) (es : List Event) :
    let x := (start base config).run es
    x.traffic.gateway.context.auth.size ≤ 1
    ∧ ∀ entry, x.traffic.gateway.context.auth.profileEntry = some entry →
      ∃ session before ticket reply after y out, x.traffic.session? = some session
        ∧ es = before ++ .completion ticket entry.timestamp (.replied reply) :: after
        ∧ ((start base config).run before).traffic.waiting? ticket = some y
        ∧ y.pending = ⟨.profile, some session.token⟩
        ∧ ((start base config).run before).traffic.gateway.outgoing y = .ok out
        ∧ out.method = "GET" ∧ out.url = Portal.withoutUser (base.extend ["users", "me"])
        ∧ out.authorization = some ("Bearer " ++ session.token)
        ∧ Portal.isSuccess reply.status
        ∧ Json.readBytes (Json.readValue Json.maxDepth) reply.body = .ok entry.data := by
  intro x
  have hx : x.Sound := sound_run base config es
  refine ⟨by rw [Auth.size_eq]; split <;> decide, fun entry he => ?_⟩
  have hentry : x.traffic.held? .profile = some entry := he
  rw [hx.held?_eq] at hentry
  obtain ⟨w, ho, rfl⟩ := Option.map_eq_some_iff.mp hentry
  obtain ⟨before, event, after, hes, hw, hslot, -⟩ := exists_write ho
  obtain ⟨ticket, outcome, y, rfl, hy, hp, hv, hs, -⟩ := Traffic.write?_eq_some hw
  have hcall : w.pending.call = .profile := Portal.Call.eq_profile_of_slot? (hslot ▸ hs)
  have htoken := hx.profile w ho
  -- without a session nothing but suggestions is kept, and the profile is not one
  cases hsession : x.traffic.session? with
  | none =>
    have suggested := hx.anonymous _ w ho (hx.no_session hsession _ w ho)
    cases suggested
  | some session =>
    rw [Traffic.token?, hsession] at htoken
    have hpending : y.pending = ⟨.profile, some session.token⟩ := by
      rw [hp, ← hcall, ← Option.map_some, ← htoken]
    obtain ⟨out, hout, hv⟩ := Gateway.value_eq_ok hv
    obtain ⟨reply, rfl, hstatus, hbody⟩ := Portal.Outgoing.value_eq_ok hv
    have hsent := hout
    rw [Gateway.outgoing, hpending, base_run] at hsent
    have hget := Portal.Call.outgoing_profile hsent
    refine ⟨session, before, ticket, reply, after, y, out, rfl, hes, hy, hpending, hout, ?_⟩
    rw [hget]
    exact ⟨rfl, rfl, rfl, hstatus, hbody⟩

theorem profile_of_alice :
    ∃ entry session,
      ((start Sample.base {}).run
          (Sample.profileOf Sample.alice)).traffic.gateway.context.auth.profileEntry = some entry
      ∧ ((start Sample.base {}).run (Sample.profileOf Sample.alice)).traffic.session? = some session
      ∧ session.token = Sample.alice
      ∧ ∃ before ticket reply after, Sample.profileOf Sample.alice
        = before ++ .completion ticket entry.timestamp (.replied reply) :: after := by
  have hsome : ((start Sample.base {}).run
      (Sample.profileOf Sample.alice)).traffic.gateway.context.auth.profileEntry.isSome := by
    decide +kernel
  have htoken : ((start Sample.base {}).run (Sample.profileOf Sample.alice)).traffic.token?
      = some Sample.alice := by decide +kernel
  obtain ⟨entry, he⟩ := Option.isSome_iff_exists.mp hsome
  obtain ⟨session, before, ticket, reply, after, y, out, hsession, hes, -⟩ :=
    (profile_of_current_session Sample.base {} (Sample.profileOf Sample.alice)).2 entry he
  rw [Traffic.token?, hsession] at htoken
  exact ⟨entry, session, he, hsession, Option.some.inj htoken, before, ticket, reply, after, hes⟩

end Traced
end SessionGateway
