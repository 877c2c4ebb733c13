import SessionGateway.Proofs.ServedFromMemory
import SessionGateway.Proofs.WriteLog

/-!
The free-form cache as one map from pairs of a category and a key. What it holds under a pair is
what the last operation on this pair left, and its sizes count the pairs it holds. The requests of
the gateway change it by these operations and by no others, and are answered from it. Main
statement: `Traffic.cache_follows_flat_map`.
-/

namespace SessionGateway

namespace CategorizedCache

inductive Op where
  | set (category key : String) (e : Entry)
  | clearCategory (category : String)
  | clear

def apply (c : CategorizedCache) : Op → CategorizedCache
  | .set category key e => c.insert category key e
  | .clearCategory category => c.clearCategory category
  | .clear => .empty

def run (c : CategorizedCache) (ops : List Op) : CategorizedCache := ops.foldl apply c

def Op.effect (category key : String) : Op → Effect
  | set category' key' e => if category' = category ∧ key' = key then .write e else .keep
  | clearCategory category' => if category' = category then .clear else .keep
  | clear => .clear

theorem get?_apply (c : CategorizedCache) (op : Op) (category key : String) :
    (c.apply op).get? category key = (op.effect category key).apply (c.get? category key) := by
  cases op with
  | set category' key' e =>
    simp only [apply, get?_insert, Op.effect, eq_comm (a := category), eq_comm (a := key)]
    split <;> rfl
  | clearCategory category' =>
    simp only [apply, get?_clearCategory, Op.effect, eq_comm (a := category)]
    split <;> rfl
  | clear => rfl

theorem get?_run (c : CategorizedCache) (ops : List Op) (category key : String) :
    (c.run ops).get? category key
      = Effect.replay (Op.effect category key) (c.get? category key) ops :=
  (List.foldl_hom (get? · category key) fun c op => (get?_apply c op category key).symm).symm

/-- A cache is, after operations, what one map from pairs to entries would be after them. -/
structure IsFlatMapOf (c : CategorizedCache) (ops : List Op) : Prop where
  get?_iff : ∀ category key e,
    c.get? category key = some e ↔ Effect.IsLastWrite (Op.effect category key) ops e
  mem_addresses : ∀ category key,
    (category, key) ∈ c.addresses ↔ (c.get? category key).isSome
  nodup_addresses : c.addresses.Nodup
  size_eq : c.size = c.addresses.length
  isEmpty_iff : c.isEmpty ↔ ∀ category key, c.get? category key = none
  countIn_eq : ∀ category, c.countIn category = c.addresses.countP (·.1 == category)
  size_clearCategory : ∀ category, (c.clearCategory category).size + c.countIn category = c.size
  get?_clearCategory : ∀ category category' key, (c.clearCategory category).get? category' key
    = if category' = category then none else c.get? category' key
  /-- Pairs that differ are independent, also where they agree once written with a colon. -/
  apart : ∀ p p' : String × String, p ≠ p' → ∀ e,
    (c.insert p.1 p.2 e).get? p'.1 p'.2 = c.get? p'.1 p'.2

theorem isFlatMapOf_run (ops : List Op) : (empty.run ops).IsFlatMapOf ops where
  get?_iff category key e := by
    have hempty : empty.get? category key = none := rfl
    rw [get?_run, Effect.replay_eq_some_iff, hempty]
    simp
  mem_addresses _ _ := mem_addresses_iff _
  nodup_addresses := nodup_addresses _
  size_eq := (length_addresses _).symm
  isEmpty_iff := isEmpty_iff _
  countIn_eq := countIn_eq _
  size_clearCategory := size_clearCategory _
  get?_clearCategory := get?_clearCategory _
  apart p p' hne e := by
    rw [get?_insert, if_neg]
    rintro ⟨hcategory, hkey⟩
    exact hne (Prod.ext hcategory.symm hkey.symm)

end CategorizedCache

/-! ## Requests as operations -/

def Change.cacheOp? : Change → Option CategorizedCache.Op
  | write category key e => some (.set category key e)
  | clearCategory category => some (.clearCategory category)
  | clearCache | leave => some .clear
  | _ => none

theorem Change.cache_apply (ch : Change) (c : Context) :
    (ch.apply c).cache = ch.cacheOp?.elim c.cache c.cache.apply := by
  cases ch <;> rfl

theorem Context.cache_put (c : Context) (e : Entry) (s : Slot) : (c.put e s).cache = c.cache := by
  cases s <;> rfl

def Event.cacheOp? (e : Event) : Option CategorizedCache.Op := e.change.cacheOp?

inductive Request.Edits (r : Request) (now : Instant) : CategorizedCache.Op → Prop where
  | set {rawCategory rawKey : List Char} {category key : String} {w : CacheWrite}
      (route : r.route? = some (.cacheKey rawCategory rawKey)) (method : r.method = .put)
      (categoryDecoded : parameter? rawCategory = some category)
      (keyDecoded : parameter? rawKey = some key)
      (read : Handler.readBody CacheWrite.form.read r = .ok w)
      (categoryAccepted : keyProblem? "Category" category = none)
      (keyAccepted : keyProblem? "Key" key = none) :
      r.Edits now (.set category key ⟨w.data, w.timestamp.getD now⟩)
  | clearCategory {raw : List Char} {name : String} (route : r.route? = some (.category raw))
      (decoded : parameter? raw = some name) : r.Edits now (.clearCategory name)
  | clear (route : r.route? = some .cache) : r.Edits now .clear
  | logout (logout : r.IsLogout) : r.Edits now .clear

inductive Request.CacheAnswer (r : Request) (now : Instant) (c : CategorizedCache) :
    Response → Prop where
  | found {rawCategory rawKey : List Char} {category key : String} {q : FreshnessQuery} {e : Entry}
      (route : r.route? = some (.cacheKey rawCategory rawKey)) (method : r.method ≠ .put)
      (categoryDecoded : parameter? rawCategory = some category)
      (keyDecoded : parameter? rawKey = some key)
      (query : FreshnessQuery.ofPairs? (Text.Form.pairs r.query) = some q)
      (held : c.get? category key = some e) :
      r.CacheAnswer now c
        (.ofAnswer (.entry category key e (q.window.getD defaultWindow) (q.now.getD now)))
  | absent {rawCategory rawKey : List Char} {category key : String} {q : FreshnessQuery}
      (route : r.route? = some (.cacheKey rawCategory rawKey)) (method : r.method ≠ .put)
      (categoryDecoded : parameter? rawCategory = some category)
      (keyDecoded : parameter? rawKey = some key)
      (query : FreshnessQuery.ofPairs? (Text.Form.pairs r.query) = some q)
      (held : c.get? category key = none) :
      r.CacheAnswer now c (.ofError (.notFound (category ++ ":" ++ key)))
  | stored {category key : String} {e : Entry} (edits : r.Edits now (.set category key e)) :
      r.CacheAnswer now c (.ofAnswer (.stored category key e.timestamp))
  | clearedCategory {name : String} (edits : r.Edits now (.clearCategory name)) :
      r.CacheAnswer now c
        (.ofAnswer (.cleared ("Category '" ++ name ++ "' cleared") (c.countIn name)))
  | cleared (route : r.route? = some .cache) :
      r.CacheAnswer now c (.ofAnswer (.cleared "Cache cleared" c.size))

namespace Request

variable {r : Request} {now : Instant} {op : CategorizedCache.Op}

theorem cacheOp?_of_edits (h : r.Edits now op) : (r.change now).cacheOp? = some op := by
  cases h with
  | set route method categoryDecoded keyDecoded read categoryAccepted keyAccepted =>
    simp [change, route, method, changeAt, Handler.parameter_eq_ok_iff.mpr categoryDecoded,
      Handler.parameter_eq_ok_iff.mpr keyDecoded, read, onPart, categoryAccepted, keyAccepted,
      Change.cacheOp?]
  | clearCategory route decoded =>
    simp [change, route, changeAt, Handler.parameter_eq_ok_iff.mpr decoded, onPart, Change.cacheOp?]
  | clear route => simp [change, route, changeAt, Change.cacheOp?]
  | logout logout => simp [change, logout.1, logout.2, changeAt, Change.cacheOp?]

end Request

theorem Change.cacheOp?_ofCall (now : Instant) (call : Portal.Call) :
    (ofCall now call).cacheOp? = none := by
  cases call <;> rfl

namespace Request

variable {r : Request} {now : Instant} {op : CategorizedCache.Op}

theorem edits_of_makes {ch : Change} (hm : r.Makes now ch) (h : ch.cacheOp? = some op) :
    r.Edits now op := by
  cases hm with
  | write route method categoryDecoded keyDecoded read categoryAccepted keyAccepted =>
    cases h
    exact .set route method categoryDecoded keyDecoded read categoryAccepted keyAccepted
  | clearCategory route decoded =>
    cases h
    exact .clearCategory route decoded
  | clearCache route =>
    cases h
    exact .clear route
  | leave logout =>
    cases h
    exact .logout logout
  | count asks =>
    rw [Change.cacheOp?_ofCall] at h
    cases h
  | _ => cases h

theorem cacheOp?_eq_some_iff : (r.change now).cacheOp? = some op ↔ r.Edits now op :=
  ⟨edits_of_makes (makes_change r now), cacheOp?_of_edits⟩

end Request

/-! ## Answers -/

theorem Handler.readBody_congr {α : Type} {read : List Char → Json.Read (α × List Char)}
    {r r' : Request} (contentType : r.contentType = r'.contentType) (body : r.body = r'.body) :
    readBody read r = readBody read r' := by
  rw [readBody, readBody, contentType, body]

theorem Handler.react_cacheKey {c : Context} {now : Instant} {r : Request}
    {rawCategory rawKey : List Char} {category key : String} {q : FreshnessQuery} {m : Method}
    (method : m ≠ .put) (categoryDecoded : parameter? rawCategory = some category)
    (keyDecoded : parameter? rawKey = some key)
    (query : FreshnessQuery.ofPairs? (Text.Form.pairs r.query) = some q) :
    react c now r (.cacheKey rawCategory rawKey) m = (c, showEntry c now category key q) := by
  cases m with
  | put => exact absurd rfl method
  | _ =>
    simp only [react, orReject, parameter_eq_ok_iff.mpr categoryDecoded,
      parameter_eq_ok_iff.mpr keyDecoded, pairs_eq_ok_iff.mpr query]

namespace Gateway

variable {g : Gateway} {now : Instant} {r : Request} {response : Response}

theorem arrive_of_edits_set {category key : String} {e : Entry}
    (h : r.Edits now (.set category key e)) :
    (g.arrive now r).2
      = .finished (respond (r.method == .head) (.ofAnswer (.stored category key e.timestamp))) := by
  cases h with
  | set route method categoryDecoded keyDecoded read categoryAccepted keyAccepted =>
    rw [arrive_of_route route, method]
    simp only [Handler.react, Handler.orReject, Handler.parameter_eq_ok_iff.mpr categoryDecoded,
      Handler.parameter_eq_ok_iff.mpr keyDecoded, read, Handler.storeEntry, categoryAccepted,
      keyAccepted, Option.or_none]
    rfl

theorem arrive_of_edits_clearCategory {name : String} (h : r.Edits now (.clearCategory name)) :
    (g.arrive now r).2
      = .finished (respond (r.method == .head) (.ofAnswer
        (.cleared ("Category '" ++ name ++ "' cleared") (g.context.cache.countIn name)))) := by
  cases h with
  | clearCategory route decoded =>
    rw [arrive_of_route route]
    simp only [Handler.react, Handler.orReject, Handler.parameter_eq_ok_iff.mpr decoded]
    rfl

theorem arrive_of_cacheAnswer (h : r.CacheAnswer now g.context.cache response) :
    (g.arrive now r).2 = .finished (respond (r.method == .head) response) := by
  cases h with
  | found route method categoryDecoded keyDecoded query held =>
    rw [arrive_of_route route,
      Handler.react_cacheKey method categoryDecoded keyDecoded query]
    simp only [Handler.showEntry, held]
    rfl
  | absent route method categoryDecoded keyDecoded query held =>
    rw [arrive_of_route route,
      Handler.react_cacheKey method categoryDecoded keyDecoded query]
    simp only [Handler.showEntry, held]
    rfl
  | stored edits => exact arrive_of_edits_set edits
  | clearedCategory edits => exact arrive_of_edits_clearCategory edits
  | cleared route =>
    rw [arrive_of_route route]
    rfl

end Gateway

namespace Sample

def putOne (target : String) : Request :=
  ⟨.put, target, some "application/json", Text.Utf8.encode "\x7b\"data\":1\x7d".toList⟩

def clearCategory (name : String) : Request := ⟨.delete, "/cache/" ++ name, none, []⟩

theorem exists_cacheOp?_putOne : ∃ e, ∀ (ticket : Nat) (target category key : String),
    (putOne target).route? = some (.cacheKey category.toList key.toList) →
    (∀ s ∈ [category, key], parameter? s.toList = some s
      ∧ keyProblem? "Category" s = none ∧ keyProblem? "Key" s = none) →
    (Event.arrival ticket 0 (putOne target)).cacheOp? = some (.set category key e) := by
  have hread : (Handler.readBody CacheWrite.form.read (putOne "/")).toOption.isSome := by
    decide +kernel
  obtain ⟨w, hw⟩ := Option.isSome_iff_exists.mp hread
  refine ⟨⟨w.data, w.timestamp.getD 0⟩, fun ticket target category key hroute haccepted => ?_⟩
  have hbody : Handler.readBody CacheWrite.form.read (putOne target) = .ok w := by
    rw [← eq_ok_of_toOption hw]
    exact Handler.readBody_congr rfl rfl
  obtain ⟨hcategory, hcategoryAccepted, -⟩ := haccepted category (by simp)
  obtain ⟨hkey, -, hkeyAccepted⟩ := haccepted key (by simp)
  exact Request.cacheOp?_of_edits
    (.set hroute rfl hcategory hkey hbody hcategoryAccepted hkeyAccepted)

def alikePairs : List Event :=
  [.arrival 1 0 (putOne "/cache/a/b:c"), .arrival 2 0 (putOne "/cache/a:b/c"),
    .arrival 3 0 (clearCategory "a")]

theorem cacheOps_alikePairs : ∃ e, alikePairs.filterMap Event.cacheOp?
    = [.set "a" "b:c" e, .set "a:b" "c" e, .clearCategory "a"] := by
  obtain ⟨e, hput⟩ := exists_cacheOp?_putOne
  have hfirst := hput 1 "/cache/a/b:c" "a" "b:c" (by decide +kernel) (by decide +kernel)
  have hsecond := hput 2 "/cache/a:b/c" "a:b" "c" (by decide +kernel) (by decide +kernel)
  have hroute : (clearCategory "a").route? = some (.category ['a']) := by decide +kernel
  have hthird : (Event.arrival 3 0 (clearCategory "a")).cacheOp? = some (.clearCategory "a") :=
    Request.cacheOp?_of_edits (.clearCategory hroute (by decide +kernel))
  refine ⟨e, ?_⟩
  simp only [alikePairs, List.filterMap_cons, hfirst, hsecond, hthird, List.filterMap_nil]

end Sample

namespace Traffic

theorem cache_step (t : Traffic) (e : Event) :
    (t.step e).1.gateway.context.cache
      = e.cacheOp?.elim t.gateway.context.cache t.gateway.context.cache.apply := by
  rw [step_gateway, Event.cacheOp?]
  cases h : t.write? e with
  | none => exact Change.cache_apply ..
  | some w =>
    rw [change_of_write? h]
    exact Context.cache_put ..

theorem cache_run (t : Traffic) (es : List Event) :
    (t.run es).1.gateway.context.cache
      = t.gateway.context.cache.run (es.filterMap Event.cacheOp?) := by
  induction es generalizing t with
  | nil => rfl
  | cons e es ih =>
    rw [run_cons, ih, cache_step, List.filterMap_cons]
    cases e.cacheOp? <;> rfl

/-- After any operations the cache of categories is one map from pairs. The requests of a run leave
in the gateway's cache what the operations that they stand for would leave, whatever else happens
between them, and each request on the cache is answered from what it then holds. -/
theorem cache_follows_flat_map (base : Url) (config : Config) :
    (∀ ops : List CategorizedCache.Op, (CategorizedCache.empty.run ops).IsFlatMapOf ops)
    ∧ (∀ (r : Request) (ticket : Nat) (now : Instant) (op : CategorizedCache.Op),
      (Event.arrival ticket now r).cacheOp? = some op ↔ r.Edits now op)
    ∧ (∀ ticket now outcome, (Event.completion ticket now outcome).cacheOp? = none)
    ∧ ∀ es : List Event,
      ((start base config).run es).1.gateway.context.cache
          = CategorizedCache.empty.run (es.filterMap Event.cacheOp?)
        ∧ ∀ (r : Request) (ticket : Nat) (now : Instant) (response : Response),
          r.CacheAnswer now ((start base config).run es).1.gateway.context.cache response →
          (((start base config).run es).1.step (.arrival ticket now r)).2
            = some (Gateway.respond (r.method == .head) response) := by
  refine ⟨CategorizedCache.isFlatMapOf_run, fun r ticket now op => Request.cacheOp?_eq_some_iff,
    fun _ _ _ => rfl, fun es => ⟨cache_run _ es, fun r ticket now response h => ?_⟩⟩
  rw [response_step, Gateway.arrive_of_cacheAnswer h]
  rfl

/-- The pairs `a`, `b:c` and `a:b`, `c` are written alike with a colon between their parts. Both are
put, and clearing the category `a` takes the first away and leaves the second. -/
theorem alike_pairs_apart :
    "a" ++ ":" ++ "b:c" = "a:b" ++ ":" ++ "c"
    ∧ (((start Sample.base {}).run Sample.alikePairs).1.step
        (.arrival 4 0 (Sample.get "/cache/a/b:c"))).2
      = some (.ofError (.notFound ("a" ++ ":" ++ "b:c")))
    ∧ ∃ e, (((start Sample.base {}).run Sample.alikePairs).1.step
        (.arrival 4 0 (Sample.get "/cache/a:b/c"))).2
      = some (.ofAnswer (.entry "a:b" "c" e defaultWindow 0)) := by
  have hroute : (Sample.get "/cache/a/b:c").route? = some (.cacheKey ['a'] "b:c".toList)
      ∧ (Sample.get "/cache/a:b/c").route? = some (.cacheKey "a:b".toList ['c']) := by
    decide +kernel
  have hdecoded : ∀ s ∈ ["a", "b:c", "a:b", "c"], parameter? s.toList = some s := by
    decide +kernel
  have hquery : ∀ target ∈ ["/cache/a/b:c", "/cache/a:b/c"],
      FreshnessQuery.ofPairs? (Text.Form.pairs (Sample.get target).query)
        = some ⟨none, none⟩ := by decide +kernel
  have hmethod : ∀ target, (Sample.get target).method ≠ .put := by
    intro target hput
    cases hput
  obtain ⟨flat, -, -, follows⟩ := cache_follows_flat_map Sample.base {}
  obtain ⟨hcache, answered⟩ := follows Sample.alikePairs
  obtain ⟨e, hops⟩ := Sample.cacheOps_alikePairs
  rw [hops] at hcache
  have hfirst : ((start Sample.base {}).run Sample.alikePairs).1.gateway.context.cache.get?
      "a" "b:c" = none := by
    rw [hcache, CategorizedCache.get?_run]
    simp [Effect.replay, CategorizedCache.Op.effect, Effect.apply]
  have hsecond : ((start Sample.base {}).run Sample.alikePairs).1.gateway.context.cache.get?
      "a:b" "c" = some e := by
    rw [hcache, (flat _).get?_iff]
    exact ⟨[_], _, [_], rfl, by simp [CategorizedCache.Op.effect],
      by simp [CategorizedCache.Op.effect]⟩
  have absent : (Sample.get "/cache/a/b:c").CacheAnswer 0
      ((start Sample.base {}).run Sample.alikePairs).1.gateway.context.cache
      (.ofError (.notFound ("a" ++ ":" ++ "b:c"))) :=
    .absent hroute.1 (hmethod _) (hdecoded "a" (by simp)) (hdecoded "b:c" (by simp))
      (hquery _ (by simp)) hfirst
  have found : (Sample.get "/cache/a:b/c").CacheAnswer 0
      ((start Sample.base {}).run Sample.alikePairs).1.gateway.context.cache
      (.ofAnswer (.entry "a:b" "c" e defaultWindow 0)) :=
    .found (q := ⟨none, none⟩) hroute.2 (hmethod _) (hdecoded "a:b" (by simp))
      (hdecoded "c" (by simp)) (hquery _ (by simp)) hsecond
  exact ⟨by decide +kernel, answered _ 4 0 _ absent, _, answered _ 4 0 _ found⟩

end Traffic
end SessionGateway
