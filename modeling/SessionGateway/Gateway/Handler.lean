import SessionGateway.Gateway.Body
import SessionGateway.Gateway.MediaType
import SessionGateway.Gateway.Response
import SessionGateway.Portal.Call
import SessionGateway.Session.Context

/-!
How each route reacts to a request. A reaction that needs the portal stops at the call; what the
portal answered is taken up by `settle`, on the context as it is by then.
-/

namespace SessionGateway

structure Pending where
  call : Portal.Call
  token : Option String
  deriving BEq, Repr

inductive Reaction where
  | answer (a : Answer)
  | fail (e : GatewayError)
  | reject (r : Rejection)
  | call (p : Pending)

namespace Handler

/-- The longest body that is read, in bytes. -/
def bodyLimit : Nat := 2097152

/-- Reads a JSON body. What follows its first value is not looked at. Bytes that are not UTF-8 end
the text wherever they stand, so that they are refused even in a member that is skipped; a reader
of bytes could pass over them there. -/
def readBody {α : Type} (read : List Char → Json.Read (α × List Char)) (r : Request) :
    Except Rejection α :=
  if ! r.contentType.any MediaType.isJson then .error .mediaType
  else if bodyLimit < r.body.length then .error .tooLarge
  else
    match Json.readFirst read (Text.Utf8.validStart r.body) with
    | .ok v => .ok v
    | .error e => .error (if e.isMalformed then .malformedBody else .mismatchedBody)

def login (c : Context) (now : Instant) (l : Login) : Context × Reaction :=
  match l.problem? with
  | some problem => (c, .fail (.invalidRequest problem))
  | none =>
    match c.auth.login l.token now with
    | .error e => (c, .fail (.invalidToken e.message))
    | .ok (auth, session) =>
      ({ c with auth }, .answer (.session session (! session.claims.isExpiredAt now)))

def showSession (c : Context) (now : Instant) : Reaction :=
  match c.auth.token now with
  | .error e => .fail e
  | .ok _ =>
    match c.auth.session with
    | none => .fail (.unauthorized "no active session")
    | some session => .answer (.session session true)

def profile (c : Context) (now : Instant) : Reaction :=
  match c.auth.profile now with
  | some value => .answer (.data true value)
  | none =>
    match c.auth.token now with
    | .error e => .fail e
    | .ok token => .call ⟨.profile, some token⟩

def setPreviousRoute (c : Context) (r : RouteChoice) : Context × Reaction :=
  match r.problem? with
  | some problem => (c, .fail (.invalidRequest problem))
  | none =>
    ({ c with auth := c.auth.setPreviousRoute r.route }, .answer (.previousRoute (some r.route)))

def typeahead (c : Context) (now : Instant) (kind : String) (q : SuggestionQuery) :
    Context × Reaction :=
  match segmentProblem? "Kind" kind with
  | some problem => (c, .fail (.invalidRequest problem))
  | none =>
    let query := normalizeQuery q.query
    if query.isEmpty then
      (c, .fail (.ignorable ("blank typeahead query for '" ++ kind ++ "'")))
    else
      let (typeahead, found) := c.typeahead.lookup kind query now
      let c := { c with typeahead }
      match found with
      | some value => (c, .answer (.data true value))
      | none => (c, .call ⟨.suggestions kind query, (c.auth.token now).toOption⟩)

def submit (c : Context) (now : Instant) (body : Json) : Reaction :=
  if ! body.isObject then
    .fail (.invalidRequest "Data request body must be a JSON object")
  else
    match c.auth.token now with
    | .error e => .fail e
    | .ok token => .call ⟨.submission body, some token⟩

def dataRequest (c : Context) (now : Instant) (id : String) : Context × Reaction :=
  match segmentProblem? "Request id" id with
  | some problem => (c, .fail (.invalidRequest problem))
  | none =>
    let (dataRequests, found) := c.dataRequests.lookup id now
    let c := { c with dataRequests }
    match found with
    | some value => (c, .answer (.data true value))
    | none =>
      match c.auth.token now with
      | .error e => (c, .fail e)
      | .ok token => (c, .call ⟨.dataRequest id, some token⟩)

def storeEntry (c : Context) (now : Instant) (category key : String) (w : CacheWrite) :
    Context × Reaction :=
  match (keyProblem? "Category" category).or (keyProblem? "Key" key) with
  | some problem => (c, .fail (.invalidRequest problem))
  | none =>
    let timestamp := w.timestamp.getD now
    ({ c with cache := c.cache.insert category key ⟨w.data, timestamp⟩ },
      .answer (.stored category key timestamp))

def showEntry (c : Context) (now : Instant) (category key : String) (q : FreshnessQuery) :
    Reaction :=
  match c.cache.get? category key with
  | none => .fail (.notFound (category ++ ":" ++ key))
  | some e => .answer (.entry category key e (q.window.getD defaultWindow) (q.now.getD now))

def clearCategory (c : Context) (category : String) : Context × Reaction :=
  ({ c with cache := c.cache.clearCategory category },
    .answer (.cleared ("Category '" ++ category ++ "' cleared") (c.cache.countIn category)))

def clearCache (c : Context) : Context × Reaction :=
  ({ c with cache := .empty }, .answer (.cleared "Cache cleared" c.cache.size))

def logout (c : Context) : Context × Reaction :=
  (c.reset, .answer (.cleared "Session cleared" c.size))

def showStats (c : Context) : Reaction :=
  .answer (.stats c.typeahead.stats c.dataRequests.stats c.cache.size)

def orReject {α : Type} (c : Context) (part : Except Rejection α)
    (next : α → Context × Reaction) : Context × Reaction :=
  match part with
  | .error r => (c, .reject r)
  | .ok v => next v

def parameter (raw : List Char) : Except Rejection String :=
  match parameter? raw with
  | none => .error .parameter
  | some s => .ok s

def pairs {α : Type} (ofPairs? : List (String × String) → Option α) (r : Request) :
    Except Rejection α :=
  match ofPairs? (Text.Form.pairs r.query) with
  | none => .error .query
  | some q => .ok q

/-- The reaction of a route to a method that it has. Of a request the path is read first, then the
query, then the body. -/
def react (c : Context) (now : Instant) (r : Request) : Route → Method → Context × Reaction
  | .session, .post => orReject c (readBody Login.form.read r) (login c now)
  | .session, .delete => logout c
  | .session, _ => (c, showSession c now)
  | .profile, _ => (c, profile c now)
  | .previousRoute, .put => orReject c (readBody RouteChoice.form.read r) (setPreviousRoute c)
  | .previousRoute, _ => (c, .answer (.previousRoute c.auth.previousRoute))
  | .typeahead kind, _ =>
    orReject c (parameter kind) fun kind =>
      orReject c (pairs SuggestionQuery.ofPairs? r) (typeahead c now kind)
  | .dataRequests, _ =>
    orReject c (readBody (Json.readValue Json.maxDepth) r) fun body => (c, submit c now body)
  | .dataRequest id, _ => orReject c (parameter id) (dataRequest c now)
  | .cache, _ => clearCache c
  | .category name, _ => orReject c (parameter name) (clearCategory c)
  | .cacheKey category key, .put =>
    orReject c (parameter category) fun category =>
      orReject c (parameter key) fun key =>
        orReject c (readBody CacheWrite.form.read r) (storeEntry c now category key)
  | .cacheKey category key, _ =>
    orReject c (parameter category) fun category =>
      orReject c (parameter key) fun key =>
        orReject c (pairs FreshnessQuery.ofPairs? r) fun q => (c, showEntry c now category key q)
  | .stats, _ => (c, showStats c)
  | .health, _ => (c, .answer (.healthy now))

/-- Takes up the value that a call brought. It is stored only if the session whose token the call
carried is still the current one, or if the call carried none. -/
def settle (c : Context) (now : Instant) (p : Pending) (value : Json) : Context × Answer :=
  let mayStore := p.token.all c.auth.holdsToken
  match p.call with
  | .profile =>
    (if mayStore then { c with auth := c.auth.storeProfile value now } else c,
      .data false value)
  | .suggestions kind query =>
    (if mayStore then { c with typeahead := c.typeahead.store kind query value now } else c,
      .data false value)
  | .submission _ =>
    (if mayStore then
        { c with dataRequests := c.dataRequests.recordSubmission value now } else c,
      .submitted value)
  | .dataRequest id =>
    (if mayStore then { c with dataRequests := c.dataRequests.store id value now } else c,
      .data false value)

end Handler
end SessionGateway
