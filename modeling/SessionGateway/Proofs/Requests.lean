import SessionGateway.Gateway.Run
import SessionGateway.Proofs.Memory

/-!
What a request does to the context and what it asks the portal for, both read off the request
alone. Main statement: `Handler.react_does`, by which the reaction to a request is its change and,
if it asks for something, the context's reply to that.
-/

namespace SessionGateway

inductive Change where
  | keep
  | enter (s : Session)
  | leave
  | remember (route : String)
  | countSuggestions (kind query : String) (now : Instant)
  | countDataRequest (id : String) (now : Instant)
  | write (category key : String) (e : Entry)
  | clearCategory (category : String)
  | clearCache

namespace Change

def apply (c : Context) : Change → Context
  | keep => c
  | enter s => c.enter s
  | leave => c.reset
  | remember route => { c with auth := c.auth.setPreviousRoute route }
  | countSuggestions kind query now =>
    { c with typeahead := (c.typeahead.lookup kind query now).1 }
  | countDataRequest id now => { c with dataRequests := (c.dataRequests.lookup id now).1 }
  | write category key e => { c with cache := c.cache.insert category key e }
  | clearCategory category => { c with cache := c.cache.clearCategory category }
  | clearCache => { c with cache := .empty }

def clears : Change → Slot → Bool
  | leave, _ => true
  | enter _, .profile => true
  | _, _ => false

def session? (before : Option Session) : Change → Option Session
  | enter s => some s
  | leave => none
  | _ => before

theorem session_apply (ch : Change) (c : Context) :
    (ch.apply c).auth.session = ch.session? c.auth.session := by
  cases ch <;> rfl

theorem held?_apply (ch : Change) (c : Context) (s : Slot) :
    (ch.apply c).held? s = if ch.clears s then none else c.held? s := by
  cases ch <;> cases s <;> rfl

theorem session?_of_not_clears_profile {ch : Change} {before : Option Session}
    (h : ch.clears .profile = false) : ch.session? before = before := by
  cases ch with
  | enter s => cases h
  | leave => cases h
  | _ => rfl

theorem session?_eq_none_of_not_clears {ch : Change} {before : Option Session} {s : Slot}
    (hs : ch.session? before = none) (h : ch.clears s = false) : before = none := by
  cases ch with
  | enter s => cases hs
  | leave => cases h
  | _ => exact hs

def ofCall (now : Instant) : Portal.Call → Change
  | .suggestions kind query => countSuggestions kind query now
  | .dataRequest id => countDataRequest id now
  | .profile | .submission _ => keep

end Change

def Login.session? (l : Login) (now : Instant) : Option Session :=
  if l.problem?.isSome then none
  else (Token.claims l.token).toOption.map (⟨l.token, ·, now⟩)

def SuggestionQuery.call? (kind : String) (q : SuggestionQuery) : Option Portal.Call :=
  if (segmentProblem? "Kind" kind).isSome || (normalizeQuery q.query).isEmpty then none
  else some (.suggestions kind (normalizeQuery q.query))

def dataRequestCall? (id : String) : Option Portal.Call :=
  if (segmentProblem? "Request id" id).isSome then none else some (.dataRequest id)

def submissionCall? (body : Json) : Option Portal.Call :=
  if body.isObject then some (.submission body) else none

def onPart {α β : Type} (default : β) (part : Except Rejection α) (next : α → β) : β :=
  match part with
  | .error _ => default
  | .ok v => next v

theorem onPart_const {α β : Type} (default : β) (part : Except Rejection α) :
    onPart default part (fun _ => default) = default := by
  cases part <;> rfl

theorem elim_onPart {α β γ : Type} (part : Except Rejection α) (next : α → Option β) (d : γ)
    (f : β → γ) : (onPart none part next).elim d f = onPart d part fun v => (next v).elim d f := by
  cases part <;> rfl

theorem onPart_eq_some {α β : Type} {part : Except Rejection α} {next : α → Option β} {b : β}
    (h : onPart none part next = some b) : ∃ v, part = .ok v ∧ next v = some b := by
  cases part with
  | error x => cases h
  | ok v => exact ⟨v, rfl, h⟩

namespace Request

def route? (r : Request) : Option Route :=
  if r.method = .options then none
  else (Route.ofPath? r.path).filter (·.methods.contains r.method)

def asksAt? (r : Request) : Route → Option Portal.Call
  | .profile => some .profile
  | .typeahead kind =>
    onPart none (Handler.parameter kind) fun kind =>
      onPart none (Handler.pairs SuggestionQuery.ofPairs? r) (·.call? kind)
  | .dataRequests => onPart none (Handler.readBody (Json.readValue Json.maxDepth) r) submissionCall?
  | .dataRequest id => onPart none (Handler.parameter id) dataRequestCall?
  | _ => none

def asks? (r : Request) : Option Portal.Call := r.route?.bind r.asksAt?

def changeAt (r : Request) (now : Instant) : Route → Method → Change
  | .session, .post =>
    onPart .keep (Handler.readBody Login.form.read r) fun l => (l.session? now).elim .keep .enter
  | .session, .delete => .leave
  | .previousRoute, .put =>
    onPart .keep (Handler.readBody RouteChoice.form.read r) fun choice =>
      if choice.problem?.isSome then .keep else .remember choice.route
  | .cache, _ => .clearCache
  | .category name, _ => onPart .keep (Handler.parameter name) .clearCategory
  | .cacheKey category key, .put =>
    onPart .keep (Handler.parameter category) fun category =>
      onPart .keep (Handler.parameter key) fun key =>
        onPart .keep (Handler.readBody CacheWrite.form.read r) fun w =>
          if ((keyProblem? "Category" category).or (keyProblem? "Key" key)).isSome then .keep
          else .write category key ⟨w.data, w.timestamp.getD now⟩
  | route, _ => (r.asksAt? route).elim .keep (.ofCall now)

def change (r : Request) (now : Instant) : Change :=
  r.route?.elim .keep (r.changeAt now · r.method)

def IsLogout (r : Request) : Prop := r.route? = some .session ∧ r.method = .delete

end Request

theorem Handler.parameter_eq_ok_iff {raw : List Char} {s : String} :
    parameter raw = .ok s ↔ parameter? raw = some s := by
  unfold parameter
  cases parameter? raw <;> simp

theorem Handler.pairs_eq_ok_iff {α : Type} {ofPairs? : List (String × String) → Option α}
    {r : Request} {q : α} :
    pairs ofPairs? r = .ok q ↔ ofPairs? (Text.Form.pairs r.query) = some q := by
  unfold pairs
  cases ofPairs? (Text.Form.pairs r.query) <;> simp

inductive Request.Asks (r : Request) : Portal.Call → Prop where
  | profile (route : r.route? = some .profile) : r.Asks .profile
  | suggestions {raw : List Char} {kind : String} {q : SuggestionQuery}
      (route : r.route? = some (.typeahead raw)) (decoded : parameter? raw = some kind)
      (query : SuggestionQuery.ofPairs? (Text.Form.pairs r.query) = some q)
      (accepted : segmentProblem? "Kind" kind = none) (notBlank : normalizeQuery q.query ≠ "") :
      r.Asks (.suggestions kind (normalizeQuery q.query))
  | submission {body : Json} (route : r.route? = some .dataRequests)
      (read : Handler.readBody (Json.readValue Json.maxDepth) r = .ok body)
      (object : body.isObject) : r.Asks (.submission body)
  | dataRequest {raw : List Char} {id : String} (route : r.route? = some (.dataRequest raw))
      (decoded : parameter? raw = some id) (accepted : segmentProblem? "Request id" id = none) :
      r.Asks (.dataRequest id)

theorem Request.asks?_of_asks {r : Request} {call : Portal.Call} (h : r.Asks call) :
    r.asks? = some call := by
  cases h with
  | profile route =>
    rw [asks?, route]
    rfl
  | suggestions route decoded query accepted notBlank =>
    rw [asks?, route, Option.bind_some, asksAt?, Handler.parameter_eq_ok_iff.mpr decoded,
      Handler.pairs_eq_ok_iff.mpr query]
    simp [onPart, SuggestionQuery.call?, accepted, notBlank]
  | submission route read object =>
    rw [asks?, route, Option.bind_some, asksAt?, read]
    simp [onPart, submissionCall?, object]
  | dataRequest route decoded accepted =>
    rw [asks?, route, Option.bind_some, asksAt?, Handler.parameter_eq_ok_iff.mpr decoded]
    simp [onPart, dataRequestCall?, accepted]

theorem Request.asks_of_asks? {r : Request} {call : Portal.Call} (h : r.asks? = some call) :
    r.Asks call := by
  obtain ⟨route, hr, hc⟩ := Option.bind_eq_some_iff.mp h
  cases route with
  | profile =>
    cases hc
    exact .profile hr
  | typeahead raw =>
    obtain ⟨kind, hkind, hc⟩ := onPart_eq_some hc
    obtain ⟨q, hq, hc⟩ := onPart_eq_some hc
    obtain ⟨haccepted, rfl⟩ : (segmentProblem? "Kind" kind = none ∧ normalizeQuery q.query ≠ "")
        ∧ .suggestions kind (normalizeQuery q.query) = call := by
      simpa [SuggestionQuery.call?] using hc
    exact .suggestions hr (Handler.parameter_eq_ok_iff.mp hkind) (Handler.pairs_eq_ok_iff.mp hq)
      haccepted.1 haccepted.2
  | dataRequests =>
    obtain ⟨body, hbody, hc⟩ := onPart_eq_some hc
    obtain ⟨hobject, rfl⟩ : body.isObject = true ∧ .submission body = call := by
      simpa [submissionCall?] using hc
    exact .submission hr hbody hobject
  | dataRequest raw =>
    obtain ⟨id, hid, hc⟩ := onPart_eq_some hc
    obtain ⟨haccepted, rfl⟩ : segmentProblem? "Request id" id = none ∧ .dataRequest id = call := by
      simpa [dataRequestCall?] using hc
    exact .dataRequest hr (Handler.parameter_eq_ok_iff.mp hid) haccepted
  | _ => cases hc

def Auth.live? (a : Auth) (now : Instant) : Option Session :=
  a.session.filter (! ·.claims.isExpiredAt now)

theorem Auth.toOption_token (a : Auth) (now : Instant) :
    (a.token now).toOption = (a.live? now).map (·.token) := by
  unfold token live?
  cases a.session with
  | none => rfl
  | some s => cases hs : s.claims.isExpiredAt now <;> simp [Option.filter, hs, Except.toOption]

theorem Auth.live?_eq_some_iff {a : Auth} {now : Instant} {s : Session} :
    a.live? now = some s ↔ a.session = some s ∧ s.claims.isExpiredAt now = false := by
  simp [live?, Option.filter_eq_some_iff]

namespace Context

def ask (c : Context) (now : Instant) (call : Portal.Call) : Reaction :=
  match c.auth.token now with
  | .ok token => .call ⟨call, some token⟩
  | .error e => if call.isSuggestions then .call ⟨call, none⟩ else .fail e

/-- The reaction to a request for what the portal can answer: fresh data from memory, or else a
call. -/
def inquire (c : Context) (now : Instant) (call : Portal.Call) : Reaction :=
  match call.place?.bind (c.served? now) with
  | some v => .answer (.data true v)
  | none => c.ask now call

theorem ask_cases (c : Context) (now : Instant) (call : Portal.Call) :
    (∃ p, c.ask now call = .call p) ∨ ∃ e, c.ask now call = .fail e := by
  unfold ask
  cases c.auth.token now with
  | ok token => exact .inl ⟨_, rfl⟩
  | error e => cases call.isSuggestions <;> simp

variable {c : Context} {now : Instant} {call : Portal.Call} {p : Pending}

theorem ask_eq_call_iff :
    c.ask now call = .call p
      ↔ p.call = call ∧ p.token = (c.auth.live? now).map (·.token)
        ∧ (c.auth.live? now = none → call.isSuggestions) := by
  have htoken := c.auth.toOption_token now
  obtain ⟨call', token'⟩ := p
  unfold ask
  cases ht : c.auth.token now with
  | ok token =>
    rw [ht] at htoken
    have hlive : c.auth.live? now ≠ none := by
      intro hn
      rw [hn] at htoken
      cases htoken
    simp only [← htoken, Except.toOption, hlive, false_implies, and_true, Reaction.call.injEq,
      Pending.mk.injEq, eq_comm]
  | error e =>
    rw [ht] at htoken
    have hlive : c.auth.live? now = none := Option.map_eq_none_iff.mp htoken.symm
    cases hs : call.isSuggestions <;>
      simp [hlive, eq_comm]

theorem inquire_eq_call_iff :
    c.inquire now call = .call p
      ↔ p.call = call ∧ (∀ s, call.place? = some s → c.served? now s = none)
        ∧ p.token = (c.auth.live? now).map (·.token)
        ∧ (c.auth.live? now = none → call.isSuggestions) := by
  unfold inquire
  cases hplace : call.place? with
  | none => simp [ask_eq_call_iff]
  | some s =>
    rw [Option.bind_some]
    cases hserved : c.served? now s with
    | none => simp [ask_eq_call_iff, hserved]
    | some v => simp [hserved]

theorem isSuggestions_of_inquire (h : c.inquire now call = .call p) :
    p.token = none → p.call.isSuggestions := by
  obtain ⟨rfl, -, htoken, hlive⟩ := inquire_eq_call_iff.mp h
  intro hn
  rw [hn] at htoken
  exact hlive (Option.map_eq_none_iff.mp htoken.symm)

end Context

/-- Reactions that neither ask the portal nor give out what it answered. -/
def Reaction.IsLocal : Reaction → Prop
  | .call _ => False
  | .answer (.data _ _) => False
  | .answer (.submitted _) => False
  | _ => True

namespace Handler

/-- An outcome in which a change was made, and what was asked for, if anything, looked for. -/
structure Does (c : Context) (now : Instant) (ch : Change) (ask : Option Portal.Call)
    (out : Context × Reaction) : Prop where
  fst_eq : out.1 = ch.apply c
  snd_eq : ∀ call, ask = some call → out.2 = c.inquire now call
  isLocal : ask = none → out.2.IsLocal

variable {c : Context} {now : Instant} {r : Request}

theorem does_of_isLocal {ch : Change} {out : Context × Reaction} (h : out.1 = ch.apply c)
    (hl : out.2.IsLocal) : Does c now ch none out := ⟨h, nofun, fun _ => hl⟩

theorem orReject_does {α : Type} {part : Except Rejection α} {next : α → Context × Reaction}
    {ch : α → Change} {ask : α → Option Portal.Call}
    (h : ∀ v, Does c now (ch v) (ask v) (next v)) :
    Does c now (onPart .keep part ch) (onPart none part ask) (orReject c part next) := by
  cases part with
  | error x => exact does_of_isLocal rfl trivial
  | ok v => exact h v

theorem orReject_isLocal {α : Type} {part : Except Rejection α} {next : α → Context × Reaction}
    {ch : α → Change} (h : ∀ v, Does c now (ch v) none (next v)) :
    Does c now (onPart .keep part ch) none (orReject c part next) := by
  rw [← onPart_const (none : Option Portal.Call) part]
  exact orReject_does h

theorem orReject_keep {α : Type} {part : Except Rejection α} {next : α → Context × Reaction}
    (h : ∀ v, Does c now .keep none (next v)) : Does c now .keep none (orReject c part next) := by
  rw [← onPart_const Change.keep part]
  exact orReject_isLocal h

theorem login_does (l : Login) :
    Does c now ((l.session? now).elim .keep .enter) none (login c now l) := by
  unfold login Login.session? Auth.login
  cases l.problem? with
  | some problem => exact does_of_isLocal rfl trivial
  | none => cases Token.claims l.token <;> exact does_of_isLocal rfl trivial

theorem showSession_isLocal : (showSession c now).IsLocal := by
  unfold showSession
  cases c.auth.token now with
  | error e => trivial
  | ok token => cases c.auth.session <;> trivial

theorem setPreviousRoute_does (choice : RouteChoice) :
    Does c now (if choice.problem?.isSome then .keep else .remember choice.route) none
      (setPreviousRoute c choice) := by
  unfold setPreviousRoute
  cases choice.problem? <;> exact does_of_isLocal rfl trivial

theorem profile_eq_inquire : profile c now = c.inquire now .profile := by
  unfold profile Context.inquire Context.ask
  rw [Context.profile_eq_served?, Portal.Call.place?, Option.bind_some]
  cases c.served? now .profile with
  | some v => rfl
  | none => cases c.auth.token now <;> rfl

theorem typeahead_does (kind : String) (q : SuggestionQuery) :
    Does c now ((q.call? kind).elim .keep (.ofCall now)) (q.call? kind)
      (typeahead c now kind q) := by
  unfold typeahead SuggestionQuery.call?
  cases segmentProblem? "Kind" kind with
  | some problem =>
    simp only [Option.isSome_some, Bool.true_or, ↓reduceIte]
    exact does_of_isLocal rfl trivial
  | none =>
    simp only [Option.isSome_none, Bool.false_or]
    split
    · exact does_of_isLocal rfl trivial
    · refine ⟨?_, ?_, nofun⟩
      · cases (c.typeahead.lookup kind (normalizeQuery q.query) now).2 <;> rfl
      · rintro _ ⟨⟩
        simp only [Context.inquire, Portal.Call.place?, Option.bind_some, Context.served?,
          Context.held?, Context.window, Context.ask, Typeahead.lookup]
        cases Entry.served? _ _ _ with
        | some v => rfl
        | none => cases c.auth.token now <;> rfl

theorem submit_does (body : Json) :
    Does c now ((submissionCall? body).elim .keep (.ofCall now)) (submissionCall? body)
      (c, submit c now body) := by
  unfold submit submissionCall?
  cases body.isObject with
  | false => exact does_of_isLocal rfl trivial
  | true =>
    refine ⟨rfl, ?_, nofun⟩
    rintro _ ⟨⟩
    unfold Context.inquire Context.ask
    cases c.auth.token now <;> rfl

theorem dataRequest_does (id : String) :
    Does c now ((dataRequestCall? id).elim .keep (.ofCall now)) (dataRequestCall? id)
      (dataRequest c now id) := by
  unfold dataRequest dataRequestCall?
  cases segmentProblem? "Request id" id with
  | some problem => exact does_of_isLocal rfl trivial
  | none =>
    simp only [Option.isSome_none, Bool.false_eq_true, ↓reduceIte, Option.elim_some]
    refine ⟨?_, ?_, nofun⟩
    · split
      · rfl
      · cases c.auth.token now <;> rfl
    · rintro _ ⟨⟩
      simp only [Context.inquire, Portal.Call.place?, Option.bind_some, Context.served?,
        Context.held?, Context.window, Context.ask, DataRequests.lookup]
      cases Entry.served? _ _ _ with
      | some v => rfl
      | none => cases c.auth.token now <;> rfl

theorem storeEntry_does (category key : String) (w : CacheWrite) :
    Does c now
      (if ((keyProblem? "Category" category).or (keyProblem? "Key" key)).isSome then .keep
        else .write category key ⟨w.data, w.timestamp.getD now⟩) none
      (storeEntry c now category key w) := by
  unfold storeEntry
  cases (keyProblem? "Category" category).or (keyProblem? "Key" key) <;>
    exact does_of_isLocal rfl trivial

theorem showEntry_isLocal (category key : String) (q : FreshnessQuery) :
    (showEntry c now category key q).IsLocal := by
  unfold showEntry
  cases c.cache.get? category key <;> trivial

theorem react_does (c : Context) (now : Instant) (r : Request) (route : Route) (m : Method) :
    Does c now (r.changeAt now route m) (r.asksAt? route) (react c now r route m) := by
  cases route with
  | session =>
    cases m with
    | post => exact orReject_isLocal login_does
    | delete => exact does_of_isLocal rfl trivial
    | _ => exact does_of_isLocal rfl showSession_isLocal
  | profile =>
    refine ⟨rfl, ?_, nofun⟩
    rintro _ ⟨⟩
    exact profile_eq_inquire
  | previousRoute =>
    cases m with
    | put => exact orReject_isLocal setPreviousRoute_does
    | _ => exact does_of_isLocal rfl trivial
  | typeahead kind =>
    simp only [Request.changeAt, Request.asksAt?, elim_onPart]
    exact orReject_does fun kind => orReject_does (typeahead_does kind)
  | dataRequests =>
    simp only [Request.changeAt, Request.asksAt?, elim_onPart]
    exact orReject_does submit_does
  | dataRequest id =>
    simp only [Request.changeAt, Request.asksAt?, elim_onPart]
    exact orReject_does dataRequest_does
  | category name =>
    refine orReject_isLocal fun name => ?_
    exact does_of_isLocal rfl trivial
  | cacheKey category key =>
    cases m with
    | put =>
      refine orReject_isLocal fun category => orReject_isLocal fun key => ?_
      exact orReject_isLocal (storeEntry_does category key)
    | _ =>
      refine orReject_keep fun category => orReject_keep fun key => orReject_keep fun q => ?_
      exact does_of_isLocal rfl (showEntry_isLocal category key q)
  | cache => exact does_of_isLocal rfl trivial
  | stats => exact does_of_isLocal rfl trivial
  | health => exact does_of_isLocal rfl trivial

end Handler

/-- All that a request can do, with what it takes for that. -/
inductive Request.Makes (r : Request) (now : Instant) : Change → Prop where
  | keep : r.Makes now .keep
  | enter {l : Login} {s : Session} (route : r.route? = some .session) (method : r.method = .post)
      (read : Handler.readBody Login.form.read r = .ok l) (session : l.session? now = some s) :
      r.Makes now (.enter s)
  | leave (logout : r.IsLogout) : r.Makes now .leave
  | remember {choice : RouteChoice} (route : r.route? = some .previousRoute)
      (method : r.method = .put) (read : Handler.readBody RouteChoice.form.read r = .ok choice)
      (accepted : choice.problem? = none) : r.Makes now (.remember choice.route)
  | count {call : Portal.Call} (asks : r.Asks call) : r.Makes now (.ofCall now call)
  | write {rawCategory rawKey : List Char} {category key : String} {w : CacheWrite}
      (route : r.route? = some (.cacheKey rawCategory rawKey)) (method : r.method = .put)
      (categoryDecoded : parameter? rawCategory = some category)
      (keyDecoded : parameter? rawKey = some key)
      (read : Handler.readBody CacheWrite.form.read r = .ok w)
      (categoryAccepted : keyProblem? "Category" category = none)
      (keyAccepted : keyProblem? "Key" key = none) :
      r.Makes now (.write category key ⟨w.data, w.timestamp.getD now⟩)
  | clearCategory {raw : List Char} {name : String} (route : r.route? = some (.category raw))
      (decoded : parameter? raw = some name) : r.Makes now (.clearCategory name)
  | clearCache (route : r.route? = some .cache) : r.Makes now .clearCache

namespace Request

variable {r : Request} {now : Instant}

theorem makes_onPart {α : Type} {part : Except Rejection α} {change : α → Change}
    (h : ∀ v, part = .ok v → r.Makes now (change v)) : r.Makes now (onPart .keep part change) := by
  cases part with
  | error x => exact .keep
  | ok v => exact h v rfl

theorem makes_elim_asksAt? {route : Route} (hr : r.route? = some route) :
    r.Makes now ((r.asksAt? route).elim .keep (.ofCall now)) := by
  cases hc : r.asksAt? route with
  | none => exact .keep
  | some call =>
    have hasks : r.asks? = some call := by rw [asks?, hr, Option.bind_some, hc]
    exact .count (asks_of_asks? hasks)

theorem makes_changeAt {route : Route} (hr : r.route? = some route) :
    r.Makes now (r.changeAt now route r.method) := by
  cases route with
  | session =>
    cases hm : r.method with
    | post =>
      apply makes_onPart
      intro l hl
      cases hs : l.session? now with
      | none => exact .keep
      | some s => exact .enter hr hm hl hs
    | delete => exact .leave ⟨hr, hm⟩
    | _ => exact .keep
  | previousRoute =>
    cases hm : r.method with
    | put =>
      apply makes_onPart
      intro choice hchoice
      cases hp : choice.problem? with
      | none => exact .remember hr hm hchoice hp
      | some problem => exact .keep
    | _ => exact .keep
  | cache => exact .clearCache hr
  | category raw =>
    apply makes_onPart
    intro name hname
    exact .clearCategory hr (Handler.parameter_eq_ok_iff.mp hname)
  | cacheKey rawCategory rawKey =>
    cases hm : r.method with
    | put =>
      refine makes_onPart fun category hcategory => makes_onPart fun key hkey => ?_
      apply makes_onPart
      intro w hw
      split
      · exact .keep
      · rename_i haccepted
        have hnone : keyProblem? "Category" category = none ∧ keyProblem? "Key" key = none := by
          simpa using haccepted
        exact .write hr hm (Handler.parameter_eq_ok_iff.mp hcategory)
          (Handler.parameter_eq_ok_iff.mp hkey) hw hnone.1 hnone.2
    | _ => exact .keep
  | _ => exact makes_elim_asksAt? hr

theorem makes_change (r : Request) (now : Instant) : r.Makes now (r.change now) := by
  rw [change]
  cases hr : r.route? with
  | none => exact .keep
  | some route => exact makes_changeAt hr

end Request
end SessionGateway
