import SessionGateway.Proofs.Provenance

/-!
The session, the profile and the route that are remembered, as matters of what happened last. A
session is that of the last login that was read, unless a logout came after it, and it is live until
the millisecond that its expiry names. Main statement: `Auth.follows_history`.
-/

namespace SessionGateway

/-- What is remembered after a row of events, each of which may put something or nothing in place of
it, is what the last of those put that put anything. -/
theorem foldl_getD_eq_some_iff {α β : Type} {puts : β → Option (Option α)} {events : List β}
    {v : α} :
    events.foldl (fun held e => (puts e).getD held) none = some v
      ↔ ∃ before e after, events = before ++ e :: after ∧ puts e = some (some v)
        ∧ ∀ later ∈ after, puts later = none := by
  -- read from the back, the first event that puts anything decides
  have hlast (held : Option α) : events.foldl (fun held e => (puts e).getD held) held
      = (events.reverse.findSome? puts).getD held := by
    induction events generalizing held with
    | nil => rfl
    | cons e events ih =>
      rw [List.foldl_cons, ih, List.reverse_cons, List.findSome?_append, List.findSome?_cons,
        List.findSome?_nil]
      cases events.reverse.findSome? puts <;> cases puts e <;> rfl
  rw [hlast, Option.getD_eq_iff]
  simp only [reduceCtorEq, and_false, or_false, List.findSome?_eq_some_iff]
  constructor
  · rintro ⟨after, e, before, hevents, hput, hnone⟩
    refine ⟨before.reverse, e, after.reverse, ?_, hput, by simpa using hnone⟩
    rw [← List.reverse_reverse events, hevents]
    simp
  · rintro ⟨before, e, after, rfl, hput, hnone⟩
    exact ⟨after.reverse, e, before.reverse, by simp, hput, by simpa using hnone⟩

theorem Claims.isExpiredAt_iff {c : Claims} {now : Instant} (h : now < Int64.maxValue) :
    c.isExpiredAt now = true ↔ ∃ exp, c.exp = some exp ∧ 1000 * exp.toInt ≤ now.toInt := by
  unfold isExpiredAt
  cases c.exp with
  | none => simp
  | some exp =>
    have hlast : now.toInt < Int64.maxValue.toInt := Int64.lt_iff_toInt_lt.mp h
    have hfirst := Int64.minValue_le_toInt now
    -- an expiry beyond the instants stops at the last, which is not reached yet
    have hclamp : (Int64.ofIntClamp (exp.toInt * 1000)).toInt ≤ now.toInt
        ↔ 1000 * exp.toInt ≤ now.toInt := by
      rcases toInt_ofIntClamp_cases (exp.toInt * 1000) with
        ⟨-, -, hexact⟩ | ⟨_, hend⟩ | ⟨_, hend⟩ <;> omega
    simp [Int64.le_iff_toInt_le, hclamp]

theorem Claims.isExpiredAt_of_le {c : Claims} {now now' : Instant} (hle : now ≤ now')
    (h : c.isExpiredAt now = true) : c.isExpiredAt now' = true := by
  unfold isExpiredAt at h ⊢
  cases hexp : c.exp with
  | none => simp [hexp] at h
  | some exp =>
    simp only [hexp, decide_eq_true_eq] at h ⊢
    exact Int64.le_trans h hle

namespace Auth

inductive Op where
  | login (token : String) (now : Instant)
  | logout
  | storeProfile (profile : Json) (now : Instant)
  | setPreviousRoute (route : String)

/-- A login that fails is told to its caller, and leaves the store that it was tried on. -/
def apply (a : Auth) : Op → Auth
  | .login token now =>
    match a.login token now with
    | .error _ => a
    | .ok (a, _) => a
  | .logout => a.logout
  | .storeProfile profile now => a.storeProfile profile now
  | .setPreviousRoute route => a.setPreviousRoute route

def run (a : Auth) (ops : List Op) : Auth := ops.foldl apply a

/-! ## Histories -/

def Op.LogsIn : Op → Prop
  | login token _ => ∃ c, Token.claims token = .ok c
  | _ => False

/-- The session of the last login that succeeded, with no logout after it. -/
def IsLastLogin (ops : List Op) (s : Session) : Prop :=
  ∃ before after, ops = before ++ .login s.token s.establishedAt :: after
    ∧ Token.claims s.token = .ok s.claims ∧ ∀ op ∈ after, op ≠ .logout ∧ ¬ op.LogsIn

/-- The profile that was stored last, with no login that succeeded and no logout after it. -/
def IsLastProfile (ops : List Op) (e : Entry) : Prop :=
  ∃ before after, ops = before ++ .storeProfile e.data e.timestamp :: after
    ∧ ∀ op ∈ after, op ≠ .logout ∧ ¬ op.LogsIn ∧ ∀ profile now, op ≠ .storeProfile profile now

def IsLastRoute (ops : List Op) (route : String) : Prop :=
  ∃ before after, ops = before ++ .setPreviousRoute route :: after
    ∧ ∀ op ∈ after, op ≠ .logout ∧ ∀ route', op ≠ .setPreviousRoute route'

/-- What a store shows, if it is as it should be after operations. -/
structure Follows (w : Window) (ops : List Op) (a : Auth) : Prop where
  session_iff : ∀ s, a.session = some s ↔ IsLastLogin ops s
  token_of_live : ∀ s, IsLastLogin ops s → ∀ now < Int64.maxValue,
    (∀ exp, s.claims.exp = some exp → now.toInt < 1000 * exp.toInt) → a.token now = .ok s.token
  token_of_expired : ∀ s, IsLastLogin ops s → ∀ now < Int64.maxValue,
    ∀ exp, s.claims.exp = some exp → 1000 * exp.toInt ≤ now.toInt →
      a.token now = .error (.unauthorized "session expired")
  token_of_none : (∀ s, ¬ IsLastLogin ops s) → ∀ now,
    a.token now = .error (.unauthorized "no active session")
  holdsToken_iff : ∀ token, a.holdsToken token ↔ ∃ s, IsLastLogin ops s ∧ s.token = token
  profile_iff : ∀ now p,
    a.profile now = some p ↔ ∃ e, IsLastProfile ops e ∧ e.isFresh w now ∧ e.data = p
  previousRoute_iff : ∀ route, a.previousRoute = some route ↔ IsLastRoute ops route
  failed_login : ∀ token now error, Token.claims token = .error error →
    (a.login token now).map Prod.snd = .error error ∧ a.apply (.login token now) = a
  stays_lost : ∀ now, a.isAuthenticated now = false → ∀ later, (∀ op ∈ later, ¬ op.LogsIn) →
    ∀ now', now ≤ now' → (a.run later).isAuthenticated now' = false

/-! ## Steps -/

theorem login_eq (a : Auth) (token : String) (now : Instant) :
    a.login token now
      = (Token.claims token).map fun c => (a.enter ⟨token, c, now⟩, ⟨token, c, now⟩) := by
  unfold login
  cases Token.claims token <;> rfl

def Op.session? : Op → Option (Option Session)
  | login token now => (Token.claims token).toOption.map fun c => some ⟨token, c, now⟩
  | logout => some none
  | _ => none

def Op.profile? : Op → Option (Option Entry)
  | login token _ => (Token.claims token).toOption.map fun _ => none
  | logout => some none
  | storeProfile profile now => some (some ⟨profile, now⟩)
  | setPreviousRoute _ => none

def Op.route? : Op → Option (Option String)
  | logout => some none
  | setPreviousRoute route => some (some route)
  | _ => none

theorem apply_login (a : Auth) (token : String) (now : Instant) :
    a.apply (.login token now)
      = ((Token.claims token).toOption.map fun c => a.enter ⟨token, c, now⟩).getD a := by
  rw [apply, login_eq]
  cases Token.claims token <;> rfl

theorem session_apply (a : Auth) (op : Op) :
    (a.apply op).session = op.session?.getD a.session := by
  cases op with
  | login token now =>
    rw [apply_login, Op.session?]
    cases (Token.claims token).toOption <;> rfl
  | _ => rfl

theorem profileEntry_apply (a : Auth) (op : Op) :
    (a.apply op).profileEntry = op.profile?.getD a.profileEntry := by
  cases op with
  | login token now =>
    rw [apply_login, Op.profile?]
    cases (Token.claims token).toOption <;> rfl
  | storeProfile profile now => exact a.profileEntry_storeProfile profile now
  | _ => rfl

theorem previousRoute_apply (a : Auth) (op : Op) :
    (a.apply op).previousRoute = op.route?.getD a.previousRoute := by
  cases op with
  | login token now =>
    rw [apply_login]
    cases (Token.claims token).toOption <;> rfl
  | _ => rfl

theorem profileWindow_apply (a : Auth) (op : Op) :
    (a.apply op).profileWindow = a.profileWindow := by
  cases op with
  | login token now =>
    rw [apply_login]
    cases (Token.claims token).toOption <;> rfl
  | _ => rfl

theorem toOption_claims_eq_none_iff {token : String} :
    (Token.claims token).toOption = none ↔ ¬ ∃ c, Token.claims token = .ok c := by
  cases Token.claims token <;> simp [Except.toOption]

theorem toOption_claims_eq_some_iff {token : String} {c : Claims} :
    (Token.claims token).toOption = some c ↔ Token.claims token = .ok c := by
  cases Token.claims token <;> simp [Except.toOption]

namespace Op

variable {op : Op}

theorem session?_eq_none_iff : op.session? = none ↔ op ≠ .logout ∧ ¬ op.LogsIn := by
  cases op <;> simp [session?, LogsIn, toOption_claims_eq_none_iff]

theorem session?_eq_some_iff {s : Session} :
    op.session? = some (some s)
      ↔ op = .login s.token s.establishedAt ∧ Token.claims s.token = .ok s.claims := by
  cases op with
  | login token now =>
    rw [session?, Option.map_eq_some_iff]
    simp only [toOption_claims_eq_some_iff, Option.some.injEq, login.injEq]
    constructor
    · rintro ⟨c, hclaims, rfl⟩
      exact ⟨⟨rfl, rfl⟩, hclaims⟩
    · rintro ⟨⟨rfl, rfl⟩, hclaims⟩
      exact ⟨s.claims, hclaims, rfl⟩
  | _ => simp [session?]

theorem profile?_eq_none_iff :
    op.profile? = none
      ↔ op ≠ .logout ∧ ¬ op.LogsIn ∧ ∀ profile now, op ≠ .storeProfile profile now := by
  cases op <;> simp [profile?, LogsIn, toOption_claims_eq_none_iff]

theorem profile?_eq_some_iff {e : Entry} :
    op.profile? = some (some e) ↔ op = .storeProfile e.data e.timestamp := by
  cases op with
  | storeProfile profile now =>
    obtain ⟨data, timestamp⟩ := e
    simp [profile?]
  | _ => simp [profile?]

theorem route?_eq_none_iff :
    op.route? = none ↔ op ≠ .logout ∧ ∀ route, op ≠ .setPreviousRoute route := by
  cases op <;> simp [route?]

theorem route?_eq_some_iff {route : String} :
    op.route? = some (some route) ↔ op = .setPreviousRoute route := by
  cases op <;> simp [route?]

end Op

/-! ## Runs -/

variable {w : Window} {ops : List Op}

/-- What each operation puts in place of what was shown before it decides what is shown after a run
of operations. -/
theorem shown_after_run_iff {α : Type} {shown : Auth → Option α} {puts : Op → Option (Option α)}
    (h : ∀ a op, shown (a.apply op) = (puts op).getD (shown a)) {a : Auth} (ha : shown a = none)
    {v : α} :
    shown (a.run ops) = some v
      ↔ ∃ before op after, ops = before ++ op :: after ∧ puts op = some (some v)
        ∧ ∀ later ∈ after, puts later = none := by
  have hrun : shown (a.run ops) = ops.foldl (fun held op => (puts op).getD held) (shown a) :=
    (List.foldl_hom shown fun a op => (h a op).symm).symm
  rw [hrun, ha, foldl_getD_eq_some_iff]

theorem session_run (w : Window) (ops : List Op) (s : Session) :
    ((new w).run ops).session = some s ↔ IsLastLogin ops s := by
  rw [shown_after_run_iff session_apply rfl]
  simp only [Op.session?_eq_some_iff, Op.session?_eq_none_iff]
  constructor
  · rintro ⟨before, _, after, hops, ⟨rfl, hclaims⟩, hlater⟩
    exact ⟨before, after, hops, hclaims, hlater⟩
  · rintro ⟨before, after, hops, hclaims, hlater⟩
    exact ⟨before, _, after, hops, ⟨rfl, hclaims⟩, hlater⟩

theorem profileEntry_run (w : Window) (ops : List Op) (e : Entry) :
    ((new w).run ops).profileEntry = some e ↔ IsLastProfile ops e := by
  rw [shown_after_run_iff profileEntry_apply rfl]
  simp only [Op.profile?_eq_some_iff, Op.profile?_eq_none_iff]
  constructor
  · rintro ⟨before, _, after, hops, rfl, hlater⟩
    exact ⟨before, after, hops, hlater⟩
  · rintro ⟨before, after, hops, hlater⟩
    exact ⟨before, _, after, hops, rfl, hlater⟩

theorem previousRoute_run (w : Window) (ops : List Op) (route : String) :
    ((new w).run ops).previousRoute = some route ↔ IsLastRoute ops route := by
  rw [shown_after_run_iff previousRoute_apply rfl]
  simp only [Op.route?_eq_some_iff, Op.route?_eq_none_iff]
  constructor
  · rintro ⟨before, _, after, hops, rfl, hlater⟩
    exact ⟨before, after, hops, hlater⟩
  · rintro ⟨before, after, hops, hlater⟩
    exact ⟨before, _, after, hops, rfl, hlater⟩

theorem profileWindow_run (w : Window) (ops : List Op) :
    ((new w).run ops).profileWindow = w :=
  List.foldlRecOn (motive := fun a => a.profileWindow = w) ops apply rfl fun a ha op _ =>
    (profileWindow_apply a op).trans ha

theorem session_run_of_no_login {a : Auth} (h : ∀ op ∈ ops, ¬ op.LogsIn) :
    (a.run ops).session = a.session ∨ (a.run ops).session = none := by
  induction ops generalizing a with
  | nil => exact .inl rfl
  | cons op ops ih =>
    have hop : (a.apply op).session = a.session ∨ (a.apply op).session = none := by
      rw [session_apply]
      cases op with
      | login token now =>
        have hnone := toOption_claims_eq_none_iff.mpr (h _ List.mem_cons_self)
        exact .inl (by simp [Op.session?, hnone])
      | logout => exact .inr rfl
      | _ => exact .inl rfl
    rcases ih (a := a.apply op) fun later hlater => h later (List.mem_cons_of_mem _ hlater) with
      hrest | hrest
    · exact hop.imp hrest.trans hrest.trans
    · exact .inr hrest

theorem isAuthenticated_eq_false_iff {a : Auth} {now : Instant} :
    a.isAuthenticated now = false
      ↔ ∀ s, a.session = some s → s.claims.isExpiredAt now = true := by
  unfold isAuthenticated token
  cases a.session with
  | none => simp [Except.toBool]
  | some s => cases hexp : s.claims.isExpiredAt now <;> simp [Except.toBool, hexp]

theorem stays_lost_of_no_login {a : Auth} {now now' : Instant}
    (h : a.isAuthenticated now = false) (hops : ∀ op ∈ ops, ¬ op.LogsIn) (hle : now ≤ now') :
    (a.run ops).isAuthenticated now' = false := by
  rw [isAuthenticated_eq_false_iff] at h ⊢
  intro s hs
  rcases session_run_of_no_login (a := a) hops with hkept | hgone
  · exact Claims.isExpiredAt_of_le hle (h s (hkept.symm.trans hs))
  · rw [hgone] at hs
    cases hs

theorem token_of_session {a : Auth} {s : Session} (h : a.session = some s) (now : Instant) :
    a.token now = if s.claims.isExpiredAt now then .error (.unauthorized "session expired")
      else .ok s.token := by
  rw [token, h]

/-- After any operations a store shows what the last of them left, failed logins left out: the token
of the last login while its expiry is not reached, the profile that was stored for it while it is
fresh, and the route that was set since the last logout. -/
theorem follows_history (w : Window) (ops : List Op) : Follows w ops ((new w).run ops) where
  session_iff := session_run w ops
  token_of_live s hs now hnow hlive := by
    rw [token_of_session ((session_run w ops s).mpr hs), if_neg]
    rw [Claims.isExpiredAt_iff hnow]
    rintro ⟨exp, hexp, hover⟩
    exact absurd hover (Int.not_le.mpr (hlive exp hexp))
  token_of_expired s hs now hnow exp hexp hover := by
    rw [token_of_session ((session_run w ops s).mpr hs),
      if_pos ((Claims.isExpiredAt_iff hnow).mpr ⟨exp, hexp, hover⟩)]
  token_of_none hnone now := by
    have hsession : ((new w).run ops).session = none :=
      Option.eq_none_iff_forall_ne_some.mpr fun s hs => hnone s ((session_run w ops s).mp hs)
    rw [token, hsession]
  holdsToken_iff token := by
    rw [holdsToken_iff, Option.map_eq_some_iff]
    simp only [session_run]
  profile_iff now p := by
    rw [profile_eq, Entry.served?_eq_some_iff, profileWindow_run]
    simp only [profileEntry_run]
  previousRoute_iff := previousRoute_run w ops
  failed_login token now error herror := by
    rw [apply, login_eq, herror]
    exact ⟨rfl, rfl⟩
  stays_lost now hlost later hlater now' hle := stays_lost_of_no_login hlost hlater hle

def Op.brief : List Op :=
  [.login Sample.alice 0, .storeProfile (.str "Alice") 1, .setPreviousRoute "/requests",
    .login Sample.brief 3, .storeProfile (.str "somebody") 4, .login "garbage" 5]

theorem history_of_brief_session :
    ((new defaultWindow).run Op.brief).token 9999 = .ok Sample.brief
    ∧ ((new defaultWindow).run Op.brief).token 10000 = .error (.unauthorized "session expired")
    ∧ ((new defaultWindow).run Op.brief).holdsToken Sample.brief = true
    ∧ ((new defaultWindow).run Op.brief).profile 120003 = some (.str "somebody")
    ∧ ((new defaultWindow).run Op.brief).previousRoute = some "/requests"
    ∧ (((new defaultWindow).run Op.brief).run [.storeProfile .null 10001]).isAuthenticated 20000
      = false := by
  have follows := follows_history defaultWindow Op.brief
  have hexp : (Token.claims Sample.brief).toOption.map (·.exp) = some (some 10) := by
    decide +kernel
  obtain ⟨c, hc, hten⟩ := Option.map_eq_some_iff.mp hexp
  have hgarbage : ¬ (Op.login "garbage" 5).LogsIn :=
    toOption_claims_eq_none_iff.mp (by decide +kernel)
  have hstored (profile : Json) (now : Instant) : ¬ (Op.storeProfile profile now).LogsIn := id
  have hlast : IsLastLogin Op.brief ⟨Sample.brief, c, 3⟩ :=
    ⟨Op.brief.take 3, Op.brief.drop 4, rfl, toOption_claims_eq_some_iff.mp hc,
      by simp [Op.brief, hgarbage, hstored]⟩
  have hprofile : IsLastProfile Op.brief ⟨.str "somebody", 4⟩ :=
    ⟨Op.brief.take 4, Op.brief.drop 5, rfl, by simp [Op.brief, hgarbage]⟩
  have hover := follows.token_of_expired _ hlast 10000 (by decide) 10 hten (by decide)
  refine ⟨follows.token_of_live _ hlast 9999 (by decide) ?_, hover,
    (follows.holdsToken_iff _).mpr ⟨_, hlast, rfl⟩,
    (follows.profile_iff _ _).mpr ⟨_, hprofile, by decide, rfl⟩,
    (follows.previousRoute_iff _).mpr ⟨Op.brief.take 2, Op.brief.drop 3, rfl, by simp [Op.brief]⟩,
    follows.stays_lost 10000 ?_ _ ?_ 20000 (by decide)⟩
  · rintro exp hclaim
    cases hten.symm.trans hclaim
    decide
  · rw [isAuthenticated, hover]
    rfl
  · simp [Op.LogsIn]

end Auth
end SessionGateway
