import SessionGateway.Proofs.Provenance

/-!
Who is answered the profile and data requests. The token of the session is looked at only where
nothing fresh is in memory, so without a live session these are refused exactly if they would have
to be asked for.
-/

namespace SessionGateway

inductive Request.AsksAsUser (r : Request) : Slot → Prop where
  | profile (method : r.method = .get) (path : Route.ofPath? r.path = some .profile) :
    r.AsksAsUser .profile
  | dataRequest {raw : List Char} {id : String} (method : r.method = .get)
      (path : Route.ofPath? r.path = some (.dataRequest raw)) (decoded : parameter? raw = some id)
      (accepted : segmentProblem? "Request id" id = none) :
    r.AsksAsUser (.dataRequest id)

namespace Request.AsksAsUser

variable {r : Request} {s : Slot}

theorem isGet (h : r.AsksAsUser s) : r.method = .get := by
  cases h <;> assumption

theorem exists_call (h : r.AsksAsUser s) :
    ∃ call, r.asks? = some call ∧ call.place? = some s ∧ call.isSuggestions = false := by
  cases h with
  | profile hm hp =>
    have hr : r.route? = some .profile := by simp [route?, hm, hp, Route.methods]
    exact ⟨_, asks?_of_asks (.profile hr), rfl, rfl⟩
  | @dataRequest raw id hm hp hd ha =>
    have hr : r.route? = some (.dataRequest raw) := by simp [route?, hm, hp, Route.methods]
    exact ⟨_, asks?_of_asks (.dataRequest hr hd ha), rfl, rfl⟩

theorem isSuggestions_eq (h : r.AsksAsUser s) : s.isSuggestions = false := by
  cases h <;> rfl

end Request.AsksAsUser

theorem Auth.token_of_not_live {a : Auth} {now : Instant}
    (h : ∀ session, a.session = some session → session.claims.isExpiredAt now) :
    ∃ m, a.token now = .error (.unauthorized m) := by
  unfold token
  cases hs : a.session with
  | none => exact ⟨_, rfl⟩
  | some session => exact ⟨_, if_pos (h session hs)⟩

theorem Traffic.status_of_not_served {t : Traffic} {ticket : Nat} {now : Instant}
    {r : Request} {s : Slot}
    (h : ∀ session, t.session? = some session → session.claims.isExpiredAt now)
    (hr : r.AsksAsUser s)
    (hs : t.gateway.context.served? now s = none) :
    (t.step (.arrival ticket now r)).2.map (·.status) = some 401 := by
  obtain ⟨call, hcall, hplace, hsug⟩ := hr.exists_call
  obtain ⟨m, hm⟩ := Auth.token_of_not_live h
  rw [Traffic.response_step, Gateway.arrive_of_asks _ _ hcall, Context.inquire, hplace,
    Option.bind_some, hs, hr.isGet]
  simp only [Context.ask, hm, hsug]
  rfl

namespace Traced

theorem served?_eq_none_of_no_session {x : Traced} {now : Instant} {s : Slot} (h : x.Sound)
    (hn : x.traffic.session? = none) (hs : s.isSuggestions = false) :
    x.traffic.gateway.context.served? now s = none := by
  rw [Option.eq_none_iff_forall_ne_some]
  intro v hv
  obtain ⟨entry, he, -⟩ := Context.served?_eq_some_iff.mp hv
  have hnone : x.traffic.held? s = none := held?_eq_none_of_no_session h hn s hs
  rw [Traffic.held?, he] at hnone
  cases hnone

/-- Without a session, or with an expired one, a request for the profile or a data request is
answered with 401 exactly if nothing fresh is in memory for it, and from memory otherwise. Where
there is no session at all, nothing is. -/
theorem unauthorized_iff_not_served (base : Url) (config : Config) (es : List Event)
    (now : Instant)
    (h : ∀ session, ((start base config).run es).traffic.session? = some session →
      session.claims.isExpiredAt now)
    (ticket : Nat) (r : Request) (s : Slot) (hr : r.AsksAsUser s) :
    ((((start base config).run es).traffic.step (.arrival ticket now r)).2.map (·.status) = some 401
      ↔ ((start base config).run es).traffic.gateway.context.served? now s = none)
    ∧ (∀ v, ((start base config).run es).traffic.gateway.context.served? now s = some v →
      (((start base config).run es).traffic.step (.arrival ticket now r)).2
        = some (.ofAnswer (.data true v)))
    ∧ (((start base config).run es).traffic.session? = none →
      (((start base config).run es).traffic.step (.arrival ticket now r)).2.map (·.status)
        = some 401) := by
  have answered : ∀ v, ((start base config).run es).traffic.gateway.context.served? now s = some v →
      (((start base config).run es).traffic.step (.arrival ticket now r)).2
        = some (.ofAnswer (.data true v)) := by
    intro v hv
    obtain ⟨call, hcall, hplace, -⟩ := hr.exists_call
    exact Traffic.response_of_served hcall hr.isGet hplace hv
  -- what is in memory is answered with 200, whoever asks
  refine ⟨⟨fun hstatus => ?_, Traffic.status_of_not_served h hr⟩, answered, fun hn => ?_⟩
  · rw [Option.eq_none_iff_forall_ne_some]
    intro v hv
    rw [answered v hv] at hstatus
    cases hstatus
  · exact Traffic.status_of_not_served h hr
      (served?_eq_none_of_no_session (sound_run base config es) hn hr.isSuggestions_eq)

theorem profile_asked_as_user : (Sample.get "/session/profile").AsksAsUser .profile :=
  .profile rfl (by decide +kernel)

theorem unauthorized_when_stale :
    (∀ session, ((start Sample.base {}).run (Sample.profileOf Sample.brief)).traffic.session?
      = some session → session.claims.isExpiredAt 120000)
    ∧ (((start Sample.base {}).run (Sample.profileOf Sample.brief)).traffic.step
        (.arrival 3 120000 (Sample.get "/session/profile"))).2.map (·.status) = some 401 := by
  have hexpired : (((start Sample.base {}).run
      (Sample.profileOf Sample.brief)).traffic.session?.all
        (·.claims.isExpiredAt 120000)) = true := by decide +kernel
  have hserved : (((start Sample.base {}).run
      (Sample.profileOf Sample.brief)).traffic.gateway.context.served? 120000 .profile).isNone := by
    decide +kernel
  have hsession : ∀ session, ((start Sample.base {}).run
      (Sample.profileOf Sample.brief)).traffic.session? = some session →
        session.claims.isExpiredAt 120000 := by
    intro session hs
    rw [hs] at hexpired
    exact hexpired
  refine ⟨hsession, ?_⟩
  exact (unauthorized_iff_not_served Sample.base {} (Sample.profileOf Sample.brief) 120000 hsession
    3 _ .profile profile_asked_as_user).1.mpr (Option.isNone_iff_eq_none.mp hserved)

/-- Before that it is, although the session has expired. -/
theorem profile_shown_after_expiry :
    (∃ session, ((start Sample.base {}).run (Sample.profileOf Sample.brief)).traffic.session?
      = some session ∧ session.claims.isExpiredAt 10000)
    ∧ ∃ v, (((start Sample.base {}).run (Sample.profileOf Sample.brief)).traffic.step
        (.arrival 3 10000 (Sample.get "/session/profile"))).2 = some (.ofAnswer (.data true v))
      ∧ (Response.ofAnswer (.data true v)).status ≠ 401 := by
  have hexpired : (((start Sample.base {}).run
      (Sample.profileOf Sample.brief)).traffic.session?.map
        (·.claims.isExpiredAt 10000)) = some true := by decide +kernel
  have hserved : (((start Sample.base {}).run
      (Sample.profileOf Sample.brief)).traffic.gateway.context.served? 10000 .profile).isSome := by
    decide +kernel
  obtain ⟨v, hv⟩ := Option.isSome_iff_exists.mp hserved
  obtain ⟨call, hcall, hplace, -⟩ := profile_asked_as_user.exists_call
  refine ⟨Option.map_eq_some_iff.mp hexpired, v, ?_, by simp [Response.ofAnswer]⟩
  exact Traffic.response_of_served hcall rfl hplace hv

end Traced
end SessionGateway
