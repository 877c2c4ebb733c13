import Mathlib.Data.List.Forall2
import SessionGateway.Proofs.ServedFromMemory

/-!
What responses show of tokens: their claims and whether two of them are one, and no more. Two runs
whose logins carry different tokens of the same claims pass through states that differ in these
tokens alone, and give the same responses. Main statement: `Traffic.responses_hide_tokens`.
-/

namespace SessionGateway

variable {ρ : String → String}

/-! ## Tokens renamed in each part of the state -/

section Rename

variable (ρ : String → String)

def Session.rename (s : Session) : Session := { s with token := ρ s.token }

def Auth.rename (a : Auth) : Auth := { a with session := a.session.map (·.rename ρ) }

def Context.rename (c : Context) : Context := { c with auth := c.auth.rename ρ }

def Pending.rename (p : Pending) : Pending := { p with token := p.token.map ρ }

def Waiting.rename (w : Waiting) : Waiting := { w with pending := w.pending.rename ρ }

def Answer.rename : Answer → Answer
  | .session s authenticated => .session (s.rename ρ) authenticated
  | a => a

def Reaction.rename : Reaction → Reaction
  | .answer a => .answer (a.rename ρ)
  | .call p => .call (p.rename ρ)
  | x => x

def Progress.rename : Progress → Progress
  | .waiting w => .waiting (w.rename ρ)
  | .finished response => .finished response

def Gateway.rename (g : Gateway) : Gateway := { g with context := g.context.rename ρ }

def Traffic.rename (t : Traffic) : Traffic :=
  ⟨t.gateway.rename ρ, t.underWay.map fun y => (y.1, y.2.rename ρ)⟩

def Handler.rename (out : Context × Reaction) : Context × Reaction :=
  (out.1.rename ρ, out.2.rename ρ)

end Rename

/-! ## Runs that differ in their tokens -/

/-- A renaming that keeps apart the tokens that are used and keeps of each its claims, or why it has
none, whether it is blank, and whether it can stand in a header. -/
structure IsRenaming (ρ : String → String) (used : String → Prop) : Prop where
  injective : ∀ t t', used t → used t' → ρ t = ρ t' → t = t'
  claims : ∀ t, used t → Token.claims (ρ t) = Token.claims t
  blank : ∀ t, used t → (Text.trim (ρ t)).isEmpty = (Text.trim t).isEmpty
  header : ∀ t, used t → Portal.fitsInHeader (ρ t) = Portal.fitsInHeader t

structure Request.LogsIn (r : Request) (token : String) : Prop where
  route : r.route? = some .session
  method : r.method = .post
  read : Handler.readBody Login.form.read r = .ok ⟨token⟩

structure Request.Renamed (ρ : String → String) (r r' : Request) : Prop where
  method : r'.method = r.method
  target : r'.target = r.target
  login : r.route? = some .session → r.method = .post →
    Handler.readBody Login.form.read r'
      = (Handler.readBody Login.form.read r).map fun l => ⟨ρ l.token⟩
  other : ¬ (r.route? = some .session ∧ r.method = .post) → r' = r

theorem Request.Renamed.of_not_login {r : Request}
    (h : ¬ (r.route? = some .session ∧ r.method = .post)) : r.Renamed ρ r :=
  ⟨rfl, rfl, fun route method => absurd ⟨route, method⟩ h, fun _ => rfl⟩

def Event.LogsIn (token : String) : Event → Prop
  | .arrival _ _ r => r.LogsIn token
  | .completion _ _ _ => False

/-- Two events that differ in the token of a login alone. What the portal answers is the same. -/
inductive Event.Renamed (ρ : String → String) : Event → Event → Prop where
  | arrival {r r' : Request} (ticket : Nat) (now : Instant) (request : r.Renamed ρ r') :
    Renamed ρ (.arrival ticket now r) (.arrival ticket now r')
  | completion (ticket : Nat) (now : Instant) (outcome : Portal.Outcome) :
    Renamed ρ (.completion ticket now outcome) (.completion ticket now outcome)

theorem Token.claims_of_payload? {token token' : String} (h : payload? token = payload? token') :
    claims token = claims token' := by
  rw [claims, claims, h]

/-! ## Answers -/

theorem Answer.toJson_rename (a : Answer) : (a.rename ρ).toJson = a.toJson := by
  cases a <;> rfl

theorem Response.ofAnswer_rename (a : Answer) : ofAnswer (a.rename ρ) = ofAnswer a := by
  rw [ofAnswer, Answer.toJson_rename, ofAnswer]

theorem Reaction.progress_rename (x : Reaction) (headOnly : Bool) :
    (x.rename ρ).progress headOnly = (x.progress headOnly).rename ρ := by
  cases x with
  | answer a => simp only [rename, progress, Response.ofAnswer_rename, Progress.rename]
  | _ => rfl

/-! ## Handlers -/

namespace Context

variable {c : Context} {now : Instant}

theorem token_rename (c : Context) (now : Instant) :
    (c.rename ρ).auth.token now = (c.auth.token now).map ρ := by
  unfold Auth.token rename Auth.rename
  cases c.auth.session with
  | none => rfl
  | some s =>
    simp only [Option.map_some, Session.rename]
    split <;> rfl

theorem inquire_rename (call : Portal.Call) :
    (c.rename ρ).inquire now call = (c.inquire now call).rename ρ := by
  have hserved : (c.rename ρ).served? now = c.served? now := by
    funext s
    cases s <;> rfl
  unfold inquire ask
  rw [hserved, token_rename]
  cases call.place?.bind (c.served? now) with
  | some v => rfl
  | none =>
    cases c.auth.token now with
    | ok token => rfl
    | error e => cases call.isSuggestions <;> rfl

theorem put_rename (c : Context) (e : Entry) (s : Slot) :
    (c.rename ρ).put e s = (c.put e s).rename ρ := by
  cases s <;> rfl

end Context

namespace Handler

variable {c : Context} {now : Instant} {r r' : Request}

theorem orReject_rename {α : Type} {part : Except Rejection α}
    {next next' : α → Context × Reaction} (h : ∀ v, next' v = rename ρ (next v)) :
    orReject (c.rename ρ) part next' = rename ρ (orReject c part next) := by
  cases part with
  | error x => rfl
  | ok v => exact h v

theorem login_rename {l : Login} (hclaims : Token.claims (ρ l.token) = Token.claims l.token)
    (hblank : (Text.trim (ρ l.token)).isEmpty = (Text.trim l.token).isEmpty) :
    login (c.rename ρ) now ⟨ρ l.token⟩ = rename ρ (login c now l) := by
  have hproblem : (⟨ρ l.token⟩ : Login).problem? = l.problem? := by
    simp only [Login.problem?, hblank]
  unfold login
  rw [hproblem]
  cases l.problem? with
  | some problem => rfl
  | none =>
    simp only [Auth.login, hclaims]
    cases Token.claims l.token <;> rfl

theorem showSession_rename : showSession (c.rename ρ) now = (showSession c now).rename ρ := by
  have hsession : (c.rename ρ).auth.session = c.auth.session.map (·.rename ρ) := rfl
  unfold showSession
  rw [Context.token_rename, hsession]
  cases c.auth.token now with
  | error e => rfl
  | ok token => cases c.auth.session <;> rfl

theorem typeahead_rename (kind : String) (q : SuggestionQuery) :
    typeahead (c.rename ρ) now kind q = rename ρ (typeahead c now kind q) := by
  unfold typeahead
  cases segmentProblem? "Kind" kind with
  | some problem => rfl
  | none =>
    simp only [Context.token_rename]
    split
    · rfl
    · have hlookup : (c.rename ρ).typeahead.lookup kind (normalizeQuery q.query) now
          = c.typeahead.lookup kind (normalizeQuery q.query) now := rfl
      rw [hlookup]
      cases (c.typeahead.lookup kind (normalizeQuery q.query) now).2 with
      | some value => rfl
      | none => cases c.auth.token now <;> rfl

theorem submit_rename (body : Json) :
    submit (c.rename ρ) now body = (submit c now body).rename ρ := by
  unfold submit
  rw [Context.token_rename]
  split
  · rfl
  · cases c.auth.token now <;> rfl

theorem dataRequest_rename (id : String) :
    dataRequest (c.rename ρ) now id = rename ρ (dataRequest c now id) := by
  unfold dataRequest
  cases segmentProblem? "Request id" id with
  | some problem => rfl
  | none =>
    simp only [Context.token_rename]
    have hlookup : (c.rename ρ).dataRequests.lookup id now = c.dataRequests.lookup id now := rfl
    rw [hlookup]
    cases (c.dataRequests.lookup id now).2 with
    | some value => rfl
    | none => cases c.auth.token now <;> rfl

theorem react_rename {route : Route} {m : Method} (h : ¬ (route = .session ∧ m = .post)) :
    react (c.rename ρ) now r route m = rename ρ (react c now r route m) := by
  cases route with
  | session =>
    cases m with
    | post => exact absurd ⟨rfl, rfl⟩ h
    | delete => rfl
    | _ => exact congrArg (Prod.mk (c.rename ρ)) showSession_rename
  | profile =>
    have hprofile : profile (c.rename ρ) now = (profile c now).rename ρ := by
      rw [profile_eq_inquire, profile_eq_inquire, Context.inquire_rename]
    exact congrArg (Prod.mk (c.rename ρ)) hprofile
  | previousRoute =>
    cases m with
    | put =>
      refine orReject_rename fun choice => ?_
      unfold setPreviousRoute
      cases choice.problem? <;> rfl
    | _ => rfl
  | typeahead kind =>
    exact orReject_rename fun kind => orReject_rename (typeahead_rename kind)
  | dataRequests =>
    exact orReject_rename fun body => congrArg (Prod.mk (c.rename ρ)) (submit_rename body)
  | dataRequest id => exact orReject_rename dataRequest_rename
  | category name => exact orReject_rename fun name => rfl
  | cacheKey category key =>
    cases m with
    | put =>
      refine orReject_rename fun category => orReject_rename fun key => orReject_rename fun w => ?_
      unfold storeEntry
      cases (keyProblem? "Category" category).or (keyProblem? "Key" key) <;> rfl
    | _ =>
      refine orReject_rename fun category => orReject_rename fun key => orReject_rename fun q => ?_
      have hcache : (c.rename ρ).cache = c.cache := rfl
      unfold showEntry
      rw [hcache]
      cases c.cache.get? category key <;> rfl
  | cache => rfl
  | stats => rfl
  | health => rfl

theorem react_login_rename {used : String → Prop} (hρ : IsRenaming ρ used) (hr : r.Renamed ρ r')
    (route : r.route? = some .session) (method : r.method = .post)
    (hused : ∀ token, r.LogsIn token → used token) :
    react (c.rename ρ) now r' .session .post = rename ρ (react c now r .session .post) := by
  have hread := hr.login route method
  cases hl : readBody Login.form.read r with
  | error x =>
    rw [hl] at hread
    simp only [react, hread, hl, Except.map, orReject]
    rfl
  | ok l =>
    rw [hl] at hread
    have hl' : used l.token := hused l.token ⟨route, method, hl⟩
    simp only [react, hread, hl, Except.map, orReject]
    exact login_rename (hρ.claims _ hl') (hρ.blank _ hl')

end Handler

theorem Auth.holdsToken_rename {used : String → Prop} (hρ : IsRenaming ρ used) {a : Auth}
    {token : String} (ha : ∀ s, a.session = some s → used s.token) (ht : used token) :
    (a.rename ρ).holdsToken (ρ token) = a.holdsToken token := by
  unfold holdsToken rename
  cases hs : a.session with
  | none => rfl
  | some s =>
    simp only [Option.map_some, Session.rename, beq_eq_beq]
    exact ⟨hρ.injective _ _ (ha s hs) ht, congrArg ρ⟩

theorem Handler.settle_rename {used : String → Prop} (hρ : IsRenaming ρ used) {c : Context}
    {p : Pending} (now : Instant) (v : Json) (hc : ∀ s, c.auth.session = some s → used s.token)
    (hp : ∀ token, p.token = some token → used token) :
    settle (c.rename ρ) now (p.rename ρ) v
      = ((settle c now p v).1.rename ρ, (settle c now p v).2) := by
  have hstore : (p.rename ρ).token.all (c.rename ρ).auth.holdsToken
      = p.token.all c.auth.holdsToken := by
    unfold Pending.rename
    cases htoken : p.token with
    | none => rfl
    | some token => exact Auth.holdsToken_rename hρ hc (hp token htoken)
  refine Prod.ext ?_ ?_
  · rw [settle_fst, settle_fst, hstore, show (p.rename ρ).call = p.call from rfl]
    split
    · cases p.call.slot? v with
      | none => rfl
      | some s => exact c.put_rename _ s
    · rfl
  · obtain ⟨call, token⟩ := p
    cases call <;> rfl

theorem Portal.Call.outgoing_map (call : Call) (base : Url) {token : Option String}
    (h : (token.map ρ).all fitsInHeader = token.all fitsInHeader) :
    call.outgoing base (token.map ρ)
      = (call.outgoing base token).map fun out =>
          { out with authorization := (token.map ρ).map ("Bearer " ++ ·) } := by
  simp only [outgoing, h]
  split
  · rfl
  · split
    · rfl
    · split
      · rfl
      · cases call <;> rfl

namespace Gateway

variable {g : Gateway} {now : Instant} {r r' : Request} {w : Waiting}

theorem arrive_rename {used : String → Prop} (hρ : IsRenaming ρ used) (hr : r.Renamed ρ r')
    (hused : ∀ token, r.LogsIn token → used token) :
    (g.rename ρ).arrive now r' = ((g.arrive now r).1.rename ρ, (g.arrive now r).2.rename ρ) := by
  cases hroute : r.route? with
  | none =>
    -- a login has a route, so the request is the same in both runs
    obtain rfl : r' = r := by
      refine hr.other fun h => ?_
      rw [hroute] at h
      cases h.1
    obtain ⟨response, -, he⟩ := arrive_of_no_route hroute
    rw [he, he]
    rfl
  | some route =>
    have hroute' : r'.route? = some route := by
      rw [← hroute, Request.route?, Request.route?, hr.method, Request.path, Request.path,
        hr.target]
    have hreact : Handler.react (g.rename ρ).context now r' route r'.method
        = Handler.rename ρ (Handler.react g.context now r route r.method) := by
      rw [hr.method]
      -- a login brings its token with it, every other request finds tokens in the context alone
      by_cases hlogin : route = .session ∧ r.method = .post
      · obtain ⟨rfl, hm⟩ := hlogin
        rw [hm]
        exact Handler.react_login_rename hρ hr hroute hm hused
      · obtain rfl : r' = r := by
          refine hr.other fun h => hlogin ⟨?_, h.2⟩
          rw [hroute] at h
          exact Option.some.inj h.1
        exact Handler.react_rename hlogin
    rw [arrive_of_route hroute, arrive_of_route hroute', hreact, hr.method]
    exact Prod.ext rfl (Reaction.progress_rename ..)

theorem value_rename {used : String → Prop} (hρ : IsRenaming ρ used) (outcome : Portal.Outcome)
    (hw : ∀ token, w.pending.token = some token → used token) :
    (g.rename ρ).value (w.rename ρ) outcome = g.value w outcome := by
  obtain ⟨⟨call, token⟩, headOnly⟩ := w
  have hfits : (token.map ρ).all Portal.fitsInHeader = token.all Portal.fitsInHeader := by
    cases token with
    | none => rfl
    | some token => exact hρ.header token (hw token rfl)
  have hout := Portal.Call.outgoing_map call g.base hfits
  simp only [value, outgoing, Waiting.rename, Pending.rename, rename, hout]
  cases call.outgoing g.base token with
  | error e => rfl
  | ok out => cases outcome <;> rfl

theorem complete_rename {used : String → Prop} (hρ : IsRenaming ρ used) (outcome : Portal.Outcome)
    (hg : ∀ s, g.context.auth.session = some s → used s.token)
    (hw : ∀ token, w.pending.token = some token → used token) :
    (g.rename ρ).complete now (w.rename ρ) outcome
      = ((g.complete now w outcome).1.rename ρ, (g.complete now w outcome).2) := by
  unfold complete
  rw [value_rename hρ outcome hw]
  cases g.value w outcome with
  | error e => rfl
  | ok v =>
    have hsettle := Handler.settle_rename hρ now v hg hw
    simp only [show (g.rename ρ).context = g.context.rename ρ from rfl,
      show (w.rename ρ).pending = w.pending.rename ρ from rfl, hsettle]
    rfl

end Gateway

theorem Login.token_of_session? {l : Login} {now : Instant} {s : Session}
    (h : l.session? now = some s) : s.token = l.token := by
  unfold session? at h
  split at h
  · cases h
  · obtain ⟨claims, -, rfl⟩ := Option.map_eq_some_iff.mp h
    rfl

theorem Request.Makes.logsIn {r : Request} {now : Instant} {ch : Change} {s : Session}
    (h : r.Makes now ch) (hc : ch = .enter s) : r.LogsIn s.token := by
  cases h with
  | @enter l _ route method read session =>
    cases hc
    have htoken : s.token = l.token := Login.token_of_session? session
    exact ⟨route, method, htoken ▸ read⟩
  | @count call asks => cases call <;> cases hc
  | _ => cases hc

theorem Event.logsIn_of_enter {e : Event} {s : Session} (h : e.change = .enter s) :
    e.LogsIn s.token := by
  cases e with
  | completion ticket now outcome => cases h
  | arrival ticket now r => exact (r.makes_change now).logsIn h

def Sample.handover (first second : String) : List Event :=
  [.arrival 1 0 (login first), .arrival 2 0 (get "/session/profile"), .arrival 3 0 (login second),
    .completion 2 0 one, .arrival 4 0 (get "/session/profile")]

namespace Traffic

variable {used : String → Prop} {t : Traffic} {e e' : Event}

structure Within (used : String → Prop) (t : Traffic) : Prop where
  session : ∀ s, t.session? = some s → used s.token
  underWay : ∀ y ∈ t.underWay, ∀ token, y.2.pending.token = some token → used token

theorem Within.waiting {ticket : Nat} {w : Waiting} (h : t.Within used)
    (hw : t.waiting? ticket = some w) : ∀ token, w.pending.token = some token → used token :=
  h.underWay _ (mem_of_waiting? hw)

theorem Within.step (h : t.Within used) (he : ∀ token, e.LogsIn token → used token) :
    (t.step e).1.Within used where
  session s hs := by
    rw [session?_step] at hs
    cases hc : e.change with
    | enter session =>
      rw [hc] at hs
      cases hs
      exact he _ (Event.logsIn_of_enter hc)
    | leave =>
      rw [hc] at hs
      cases hs
    | _ =>
      rw [hc] at hs
      exact h.session s hs
  underWay y hy token htoken := by
    rcases mem_underWay_step hy with hy | ⟨now, r, call, -, -, hcall⟩
    · exact h.underWay y hy token htoken
    · -- a call that has just begun has the token of the live session
      obtain ⟨-, -, hlive, -⟩ := Context.inquire_eq_call_iff.mp hcall
      rw [htoken] at hlive
      obtain ⟨s, hs, rfl⟩ := Option.map_eq_some_iff.mp hlive.symm
      exact h.session s (Auth.live?_eq_some_iff.mp hs).1

theorem lookup_map_snd {α β : Type} (f : α → β) (ticket : Nat) (ys : List (Nat × α)) :
    (ys.map fun y => (y.1, f y.2)).lookup ticket = (ys.lookup ticket).map f := by
  induction ys with
  | nil => rfl
  | cons y ys ih =>
    rw [List.map_cons, List.lookup_cons, List.lookup_cons, ih]
    cases ticket == y.1 <;> rfl

theorem waiting?_rename (t : Traffic) (ticket : Nat) :
    (t.rename ρ).waiting? ticket = (t.waiting? ticket).map (·.rename ρ) :=
  lookup_map_snd ..

theorem forget_rename (t : Traffic) (ticket : Nat) :
    (t.rename ρ).forget ticket = (t.forget ticket).map fun y => (y.1, y.2.rename ρ) :=
  List.eraseP_map ..

theorem step_rename (hρ : IsRenaming ρ used) (ht : t.Within used) (h : e.Renamed ρ e')
    (he : ∀ token, e.LogsIn token → used token) :
    (t.rename ρ).step e' = ((t.step e).1.rename ρ, (t.step e).2) := by
  cases h with
  | @arrival r r' ticket now request =>
    rw [step, step, show (t.rename ρ).gateway = t.gateway.rename ρ from rfl,
      Gateway.arrive_rename hρ request he]
    obtain ⟨g, progress⟩ := t.gateway.arrive now r
    cases progress <;> rfl
  | completion ticket now outcome =>
    rw [step, step, waiting?_rename, forget_rename]
    cases hw : t.waiting? ticket with
    | none => rfl
    | some w =>
      simp only [Option.map_some, show (t.rename ρ).gateway = t.gateway.rename ρ from rfl,
        Gateway.complete_rename hρ outcome ht.session (ht.waiting hw)]
      rfl

/-- The two runs stay equal up to the renaming. That the tokens compared in them are used ones,
which the renaming keeps apart, is the invariant `Within`. -/
theorem run_rename {es es' : List Event} (hρ : IsRenaming ρ used) (ht : t.Within used)
    (h : List.Forall₂ (Event.Renamed ρ) es es')
    (hes : ∀ e ∈ es, ∀ token, e.LogsIn token → used token) :
    (t.rename ρ).run es' = ((t.run es).1.rename ρ, (t.run es).2) := by
  induction h generalizing t with
  | nil => rfl
  | cons he _ ih =>
    have hstep := step_rename hρ ht he (hes _ List.mem_cons_self)
    have hrun := ih (ht.step (hes _ List.mem_cons_self))
      fun e he => hes e (List.mem_cons_of_mem _ he)
    simp only [run, hstep, hrun]

/-- Renaming the tokens of the logins changes no response, as long as it keeps the tokens apart and
keeps of each its claims, whether it is blank, and whether it can stand in a header. In both runs
the same calls are under way, up to the renaming, so that the portal has the same to answer. -/
theorem responses_hide_tokens (base : Url) (config : Config) (ρ : String → String)
    (es es' : List Event) (h : List.Forall₂ (Event.Renamed ρ) es es')
    (hρ : IsRenaming ρ fun token => ∃ e ∈ es, e.LogsIn token) :
    ((start base config).run es').2 = ((start base config).run es).2
      ∧ ∀ ticket, ((start base config).run es').1.waiting? ticket
        = (((start base config).run es).1.waiting? ticket).map (·.rename ρ) := by
  have hstart : (start base config).Within fun token => ∃ e ∈ es, e.LogsIn token :=
    ⟨fun _ hs => (by cases hs), fun _ hy => (by cases hy)⟩
  have hrun := run_rename hρ hstart h fun e he token ht => ⟨e, he, ht⟩
  rw [show (start base config).rename ρ = start base config from rfl] at hrun
  rw [hrun]
  exact ⟨rfl, waiting?_rename _⟩

theorem signatures_hidden :
    ((start Sample.base {}).run (Sample.handover (Sample.alice ++ "x") (Sample.bob ++ "x"))).2
      = ((start Sample.base {}).run (Sample.handover Sample.alice Sample.bob)).2 := by
  have hread : ∀ token ∈ [Sample.alice, Sample.bob, Sample.alice ++ "x", Sample.bob ++ "x"],
      (Sample.login token).route? = some .session
        ∧ (Handler.readBody Login.form.read (Sample.login token)).toOption = some ⟨token⟩ := by
    decide +kernel
  have hprofile : (Sample.get "/session/profile").route? = some .profile := by decide +kernel
  have kept : ∀ token ∈ [Sample.alice, Sample.bob],
      Token.payload? (token ++ "x") = Token.payload? token
        ∧ (Text.trim (token ++ "x")).isEmpty = (Text.trim token).isEmpty
        ∧ Portal.fitsInHeader (token ++ "x") = Portal.fitsInHeader token := by decide +kernel
  have apart : ∀ token ∈ [Sample.alice, Sample.bob], ∀ token' ∈ [Sample.alice, Sample.bob],
      token ++ "x" = token' ++ "x" → token = token' := by decide +kernel
  have login : ∀ token ∈ [Sample.alice, Sample.bob],
      (Sample.login token).Renamed (· ++ "x") (Sample.login (token ++ "x")) := by
    intro token htoken
    have hr := hread token (List.mem_append_left [_, _] htoken)
    have hr' := hread (token ++ "x")
      (List.mem_append_right [_, _] (List.mem_map_of_mem htoken (f := (· ++ "x"))))
    refine ⟨rfl, rfl, fun _ _ => ?_, fun h => absurd ⟨hr.1, rfl⟩ h⟩
    rw [eq_ok_of_toOption hr.2, eq_ok_of_toOption hr'.2]
    rfl
  have get : (Sample.get "/session/profile").Renamed (· ++ "x") (Sample.get "/session/profile") :=
    .of_not_login (by simp [hprofile])
  have used : ∀ e ∈ Sample.handover Sample.alice Sample.bob, ∀ token, e.LogsIn token →
      token ∈ [Sample.alice, Sample.bob] := by
    have carried : ∀ token' ∈ [Sample.alice, Sample.bob], ∀ token,
        (Sample.login token').LogsIn token → token ∈ [Sample.alice, Sample.bob] := by
      intro token' htoken' token h
      have hr := hread token' (List.mem_append_left [_, _] htoken')
      rw [h.read] at hr
      obtain rfl : token = token' := congrArg Login.token (Option.some.inj hr.2)
      exact htoken'
    intro e he token h
    simp only [Sample.handover, List.mem_cons, List.not_mem_nil, or_false] at he
    rcases he with rfl | rfl | rfl | rfl | rfl
    · exact carried _ (by simp) token h
    · exact absurd h.route (by simp [hprofile])
    · exact carried _ (by simp) token h
    · exact h.elim
    · exact absurd h.route (by simp [hprofile])
  refine (responses_hide_tokens Sample.base {} (· ++ "x") _ _ ?_ ?_).1
  · exact .cons (.arrival 1 0 (login _ (by simp))) (.cons (.arrival 2 0 get)
      (.cons (.arrival 3 0 (login _ (by simp))) (.cons (.completion 2 0 Sample.one)
        (.cons (.arrival 4 0 get) .nil))))
  · refine ⟨?_, ?_, ?_, ?_⟩
    · rintro token token' ⟨e, he, h⟩ ⟨e', he', h'⟩
      exact apart token (used e he token h) token' (used e' he' token' h')
    · rintro token ⟨e, he, h⟩
      exact Token.claims_of_payload? (kept token (used e he token h)).1
    · rintro token ⟨e, he, h⟩
      exact (kept token (used e he token h)).2.1
    · rintro token ⟨e, he, h⟩
      exact (kept token (used e he token h)).2.2

end Traffic
end SessionGateway
