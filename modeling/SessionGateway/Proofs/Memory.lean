import SessionGateway.Gateway.Handler

/-!
The places in which entries of the read-through stores are kept, and what each operation on the
context does to the entry of a place.
-/

namespace SessionGateway

/-- A place for one entry. Suggestions lie under the normal form of their query. -/
inductive Slot where
  | profile
  | suggestions (kind key : String)
  | dataRequest (id : String)
  deriving DecidableEq, Repr

def Slot.isSuggestions : Slot → Bool
  | .suggestions _ _ => true
  | _ => false

namespace Portal.Call

def isSuggestions : Call → Bool
  | .suggestions _ _ => true
  | _ => false

def place? : Call → Option Slot
  | .profile => some .profile
  | .suggestions kind query => some (.suggestions kind (normalizeQuery query))
  | .submission _ => none
  | .dataRequest id => some (.dataRequest id)

def slot? (value : Json) : Call → Option Slot
  | .submission _ => (requestId? value).map .dataRequest
  | call => call.place?

theorem isSuggestions_of_place? {call : Call} {s : Slot} (h : call.place? = some s) :
    s.isSuggestions = call.isSuggestions := by
  cases call <;> cases h <;> rfl

theorem isSuggestions_of_slot? {call : Call} {v : Json} {s : Slot} (h : call.slot? v = some s) :
    s.isSuggestions = call.isSuggestions := by
  cases call with
  | submission body =>
    obtain ⟨id, -, rfl⟩ := Option.map_eq_some_iff.mp h
    rfl
  | _ => exact isSuggestions_of_place? h

end Portal.Call

theorem Auth.profile_eq (a : Auth) (now : Instant) :
    a.profile now = Entry.served? a.profileWindow now a.profileEntry := by
  rw [profile, Entry.served?]
  cases a.profileEntry <;> rfl

namespace Context

def held? (c : Context) : Slot → Option Entry
  | .profile => c.auth.profileEntry
  | .suggestions kind key => c.typeahead.cache.get? kind key
  | .dataRequest id => c.dataRequests.cache.get? id

def window (c : Context) : Slot → Window
  | .profile => c.auth.profileWindow
  | .suggestions _ _ => c.typeahead.window
  | .dataRequest _ => c.dataRequests.window

def served? (c : Context) (now : Instant) (s : Slot) : Option Json :=
  Entry.served? (c.window s) now (c.held? s)

def enter (c : Context) (s : Session) : Context :=
  { c with auth := c.auth.enter s }

def put (c : Context) (e : Entry) : Slot → Context
  | .profile => { c with auth := c.auth.storeProfile e.data e.timestamp }
  | .suggestions kind key =>
    { c with typeahead := { c.typeahead with cache := c.typeahead.cache.insert kind key e } }
  | .dataRequest id =>
    { c with dataRequests := { c.dataRequests with cache := c.dataRequests.cache.insert id e } }

@[simp] theorem held?_new (config : Config) (s : Slot) : (new config).held? s = none := by
  cases s <;> rfl

theorem held?_put (c : Context) (e : Entry) (s s' : Slot) :
    (c.put e s).held? s' = if s' = s then some e else c.held? s' := by
  cases s <;> cases s' <;> simp [put, held?, CategorizedCache.get?_insert, Table.get?_insert]

@[simp] theorem session_put (c : Context) (e : Entry) (s : Slot) :
    (c.put e s).auth.session = c.auth.session := by
  cases s <;> rfl

theorem served?_eq_some_iff {c : Context} {now : Instant} {s : Slot} {v : Json} :
    c.served? now s = some v
      ↔ ∃ e, c.held? s = some e ∧ e.isFresh (c.window s) now ∧ e.data = v :=
  Entry.served?_eq_some_iff

theorem profile_eq_served? (c : Context) (now : Instant) :
    c.auth.profile now = c.served? now .profile := Auth.profile_eq c.auth now

end Context

theorem Auth.holdsToken_iff {a : Auth} {token : String} :
    a.holdsToken token ↔ a.session.map (·.token) = some token := by
  unfold holdsToken
  cases a.session <;> simp

namespace Handler

/-- What a call brought is put into its place if it carried no token or that of the current
session, and changes nothing else. -/
theorem settle_fst (c : Context) (now : Instant) (p : Pending) (v : Json) :
    (settle c now p v).1
      = if p.token.all c.auth.holdsToken then (p.call.slot? v).elim c (c.put ⟨v, now⟩) else c := by
  obtain ⟨call, token⟩ := p
  cases call with
  | submission body =>
    cases h : requestId? v <;>
      simp [settle, Portal.Call.slot?, DataRequests.recordSubmission, h, Context.put,
        DataRequests.store]
  | _ => rfl

end Handler
end SessionGateway
