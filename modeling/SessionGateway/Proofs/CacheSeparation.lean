import Mathlib.Data.List.Forall2
import SessionGateway.Proofs.FlatCache

/-!
The free-form cache and the stores of the session do not meet. A run from which events are left out
is compared with the run itself: where the cache is left alone, its requests are answered as before,
and where only its requests are left out, all others are, up to the number of free-form entries that
two of them count. Main statement: `Traffic.cache_apart_from_stores`.
-/

namespace SessionGateway

def Route.isCache : Route → Bool
  | cache | category _ | cacheKey _ _ => true
  | _ => false

def Request.isOnCache (r : Request) : Bool := (Route.ofPath? r.path).any Route.isCache

namespace Event

def isOnCache : Event → Bool
  | .arrival _ _ r => r.isOnCache
  | .completion _ _ _ => false

def IsStats : Event → Prop
  | .arrival _ _ r => r.route? = some .stats
  | .completion _ _ _ => False

inductive Thinned (may : Event → Prop) : List Event → List Event → Prop where
  | nil : Thinned may [] []
  | keep (e : Event) {es es' : List Event} (rest : Thinned may es es') :
    Thinned may (e :: es) (e :: es')
  | drop {e : Event} {es es' : List Event} (left : may e) (rest : Thinned may es es') :
    Thinned may (e :: es) es'

end Event

theorem Request.ofPath?_of_route? {r : Request} {route : Route} (h : r.route? = some route) :
    Route.ofPath? r.path = some route := by
  unfold route? at h
  split at h
  · cases h
  · exact (Option.filter_eq_some_iff.mp h).1

theorem Request.isOnCache_of_route? {r : Request} {route : Route} (h : r.route? = some route) :
    r.isOnCache = route.isCache := by
  rw [isOnCache, ofPath?_of_route? h]
  rfl

/-! ## Requests on the cache -/

theorem Event.cacheOp?_eq_none {e : Event} (hcache : e.isOnCache = false) (hlogout : ¬ e.IsLogout) :
    e.cacheOp? = none := by
  cases e with
  | completion ticket now outcome => rfl
  | arrival ticket now r =>
    rw [Option.eq_none_iff_forall_ne_some]
    intro op hop
    have hr : r.isOnCache = false := hcache
    cases Request.cacheOp?_eq_some_iff.mp hop with
    | set route =>
      rw [Request.isOnCache_of_route? route] at hr
      cases hr
    | clearCategory route =>
      rw [Request.isOnCache_of_route? route] at hr
      cases hr
    | clear route =>
      rw [Request.isOnCache_of_route? route] at hr
      cases hr
    | logout logout => exact hlogout logout

namespace Handler

variable {c c' : Context} {now : Instant} {r : Request}

theorem orReject_snd_congr {α : Type} {part : Except Rejection α}
    {next next' : α → Context × Reaction} (h : ∀ v, (next v).2 = (next' v).2) :
    (orReject c part next).2 = (orReject c' part next').2 := by
  cases part with
  | error x => rfl
  | ok v => exact h v

theorem react_snd_of_isCache {route : Route} (hroute : route.isCache) (m : Method)
    (hc : c.cache = c'.cache) : (react c now r route m).2 = (react c' now r route m).2 := by
  cases route with
  | cache => simp only [react, clearCache, hc]
  | category name =>
    apply orReject_snd_congr
    intro name
    simp only [clearCategory, hc]
  | cacheKey category key =>
    cases m with
    | put =>
      refine orReject_snd_congr fun category => orReject_snd_congr fun key => ?_
      apply orReject_snd_congr
      intro w
      unfold storeEntry
      cases (keyProblem? "Category" category).or (keyProblem? "Key" key) <;> rfl
    | _ =>
      refine orReject_snd_congr fun category => orReject_snd_congr fun key => ?_
      apply orReject_snd_congr
      intro q
      simp only [showEntry, hc]
  | _ => cases hroute

end Handler

theorem Gateway.arrive_snd_of_isOnCache {g g' : Gateway} {now : Instant} {r : Request}
    (hr : r.isOnCache) (hc : g.context.cache = g'.context.cache) :
    (g.arrive now r).2 = (g'.arrive now r).2 := by
  cases hroute : r.route? with
  | none =>
    obtain ⟨response, -, he⟩ := arrive_of_no_route hroute
    rw [he, he]
  | some route =>
    have hcache : route.isCache := by rw [← Request.isOnCache_of_route? hroute, hr]
    rw [arrive_of_route hroute, arrive_of_route hroute, Handler.react_snd_of_isCache hcache _ hc]

theorem Request.asks?_of_isOnCache {r : Request} (h : r.isOnCache) : r.asks? = none := by
  cases hroute : r.route? with
  | none => rw [asks?, hroute, Option.bind_none]
  | some route =>
    have hcache : route.isCache := by rw [← isOnCache_of_route? hroute, h]
    rw [asks?, hroute, Option.bind_some]
    cases route <;> first | rfl | cases hcache

/-! ## The stores beside another cache -/

def Context.withCache (c : Context) (k : CategorizedCache) : Context := { c with cache := k }

def Gateway.withCache (g : Gateway) (k : CategorizedCache) : Gateway :=
  { g with context := g.context.withCache k }

def Traffic.withCache (t : Traffic) (k : CategorizedCache) : Traffic :=
  { t with gateway := t.gateway.withCache k }

namespace Handler

variable {c : Context} {now : Instant} {r : Request} {k : CategorizedCache}

def withCache (k : CategorizedCache) (out : Context × Reaction) : Context × Reaction :=
  (out.1.withCache k, out.2)

theorem orReject_withCache {α : Type} {part : Except Rejection α}
    {next next' : α → Context × Reaction} (h : ∀ v, next' v = withCache k (next v)) :
    orReject (c.withCache k) part next' = withCache k (orReject c part next) := by
  cases part with
  | error x => rfl
  | ok v => exact h v

theorem login_withCache (l : Login) :
    login (c.withCache k) now l = withCache k (login c now l) := by
  unfold login
  cases l.problem? with
  | some problem => rfl
  | none =>
    have hauth : (c.withCache k).auth = c.auth := rfl
    rw [hauth]
    cases c.auth.login l.token now <;> rfl

theorem typeahead_withCache (kind : String) (q : SuggestionQuery) :
    typeahead (c.withCache k) now kind q = withCache k (typeahead c now kind q) := by
  unfold typeahead
  cases segmentProblem? "Kind" kind with
  | some problem => rfl
  | none =>
    have hlookup : (c.withCache k).typeahead.lookup kind (normalizeQuery q.query) now
        = c.typeahead.lookup kind (normalizeQuery q.query) now := rfl
    simp only [hlookup]
    split
    · rfl
    · cases (c.typeahead.lookup kind (normalizeQuery q.query) now).2 <;> rfl

theorem dataRequest_withCache (id : String) :
    dataRequest (c.withCache k) now id = withCache k (dataRequest c now id) := by
  unfold dataRequest
  cases segmentProblem? "Request id" id with
  | some problem => rfl
  | none =>
    have hlookup : (c.withCache k).dataRequests.lookup id now = c.dataRequests.lookup id now := rfl
    have hauth : (c.withCache k).auth = c.auth := rfl
    simp only [hlookup, hauth]
    cases (c.dataRequests.lookup id now).2 with
    | some value => rfl
    | none => cases c.auth.token now <;> rfl

theorem react_withCache {route : Route} {m : Method} (hcache : route.isCache = false)
    (hstats : route ≠ .stats) (hlogout : ¬ (route = .session ∧ m = .delete)) :
    react (c.withCache k) now r route m = withCache k (react c now r route m) := by
  cases route with
  | session =>
    cases m with
    | delete => exact absurd ⟨rfl, rfl⟩ hlogout
    | post => exact orReject_withCache login_withCache
    | _ => rfl
  | profile => rfl
  | previousRoute =>
    cases m with
    | put =>
      apply orReject_withCache
      intro choice
      unfold setPreviousRoute
      cases choice.problem? <;> rfl
    | _ => rfl
  | typeahead kind =>
    exact orReject_withCache fun kind => orReject_withCache (typeahead_withCache kind)
  | dataRequests => exact orReject_withCache fun body => rfl
  | dataRequest id => exact orReject_withCache dataRequest_withCache
  | stats => exact absurd rfl hstats
  | health => rfl
  | _ => cases hcache

theorem settle_withCache (p : Pending) (v : Json) :
    settle (c.withCache k) now p v
      = ((settle c now p v).1.withCache k, (settle c now p v).2) := by
  refine Prod.ext ?_ ?_
  · have hauth : (c.withCache k).auth = c.auth := rfl
    rw [settle_fst, settle_fst, hauth]
    split
    · cases p.call.slot? v with
      | none => rfl
      | some s => cases s <;> rfl
    · rfl
  · obtain ⟨call, token⟩ := p
    cases call <;> rfl

end Handler

theorem Request.exists_apply_of_isOnCache {r : Request} (h : r.isOnCache) (now : Instant)
    (c : Context) : ∃ k, (r.change now).apply c = c.withCache k := by
  have not_elsewhere {route : Route} (hr : r.route? = some route) : route.isCache := by
    rw [← isOnCache_of_route? hr, h]
  have hmakes := r.makes_change now
  generalize r.change now = ch at hmakes ⊢
  cases hmakes with
  | keep => exact ⟨c.cache, rfl⟩
  | enter route => cases not_elsewhere route
  | leave logout => cases not_elsewhere logout.1
  | remember route => cases not_elsewhere route
  | count asks =>
    have hnone := asks?_of_isOnCache h
    rw [asks?_of_asks asks] at hnone
    cases hnone
  | write => exact ⟨_, rfl⟩
  | clearCategory => exact ⟨_, rfl⟩
  | clearCache => exact ⟨_, rfl⟩

namespace Gateway

variable {g : Gateway} {now : Instant} {r : Request} {k : CategorizedCache}

theorem arrive_withCache (hr : r.isOnCache = false) (hstats : r.route? ≠ some .stats)
    (hlogout : ¬ r.IsLogout) :
    (g.withCache k).arrive now r = ((g.arrive now r).1.withCache k, (g.arrive now r).2) := by
  cases hroute : r.route? with
  | none =>
    obtain ⟨response, -, he⟩ := arrive_of_no_route hroute
    rw [he, he]
  | some route =>
    have hcache : route.isCache = false := by rw [← Request.isOnCache_of_route? hroute, hr]
    have hreact : Handler.react (g.context.withCache k) now r route r.method
        = Handler.withCache k (Handler.react g.context now r route r.method) := by
      apply Handler.react_withCache hcache
      · rintro rfl
        exact hstats hroute
      · rintro ⟨rfl, hm⟩
        exact hlogout ⟨hroute, hm⟩
    rw [arrive_of_route hroute, arrive_of_route hroute,
      show (g.withCache k).context = g.context.withCache k from rfl, hreact]
    rfl

theorem complete_withCache (w : Waiting) (outcome : Portal.Outcome) :
    (g.withCache k).complete now w outcome
      = ((g.complete now w outcome).1.withCache k, (g.complete now w outcome).2) := by
  have hvalue : (g.withCache k).value w outcome = g.value w outcome := rfl
  unfold complete
  rw [hvalue]
  cases g.value w outcome with
  | error e => rfl
  | ok v =>
    simp only [show (g.withCache k).context = g.context.withCache k from rfl,
      Handler.settle_withCache]
    rfl

theorem arrive_logout (h : r.IsLogout) :
    g.arrive now r = (⟨g.base, g.context.reset⟩,
      .finished (.ofAnswer (.cleared "Session cleared" g.context.size))) := by
  rw [arrive_of_route h.1, h.2]
  rfl

end Gateway

/-- One event as it comes in two runs, answered alike in both but for the number of free-form
entries. This number is told in the statistics, and is a part of what a logout removes. -/
structure AgreesButForCache (m m' : Traffic × Event) : Prop where
  event : m'.2 = m.2
  other : ¬ m.2.IsStats → ¬ m.2.IsLogout → (m'.1.step m'.2).2 = (m.1.step m.2).2
  stats : m.2.IsStats → ∃ headOnly suggestions dataRequests,
    (m.1.step m.2).2 = some (Gateway.respond headOnly
        (.ofAnswer (.stats suggestions dataRequests m.1.gateway.context.cache.size)))
      ∧ (m'.1.step m'.2).2 = some (Gateway.respond headOnly
        (.ofAnswer (.stats suggestions dataRequests m'.1.gateway.context.cache.size)))
  logout : m.2.IsLogout → ∃ others,
    (m.1.step m.2).2 = some
        (.ofAnswer (.cleared "Session cleared" (others + m.1.gateway.context.cache.size)))
      ∧ (m'.1.step m'.2).2 = some
        (.ofAnswer (.cleared "Session cleared" (others + m'.1.gateway.context.cache.size)))

namespace Traffic

variable {t t' : Traffic} {e : Event} {es es' : List Event} {k : CategorizedCache}

theorem withCache_withCache (t : Traffic) (k k' : CategorizedCache) :
    (t.withCache k).withCache k' = t.withCache k' := rfl

theorem exists_step_of_isOnCache (h : e.isOnCache) (t : Traffic) :
    ∃ k, (t.step e).1 = t.withCache k := by
  cases e with
  | completion ticket now outcome => cases h
  | arrival ticket now r =>
    obtain ⟨k, hk⟩ := Request.exists_apply_of_isOnCache h now t.gateway.context
    obtain ⟨response, hfinished, -⟩ :=
      Gateway.arrive_of_not_asks t.gateway now (Request.asks?_of_isOnCache h)
    refine ⟨k, ?_⟩
    rw [step_of_finished hfinished, Gateway.arrive_context, hk]
    rfl

theorem step_withCache (hcache : e.isOnCache = false) (hstats : ¬ e.IsStats)
    (hlogout : ¬ e.IsLogout) :
    (t.withCache k).step e = ((t.step e).1.withCache k, (t.step e).2) := by
  have hgateway : (t.withCache k).gateway = t.gateway.withCache k := rfl
  cases e with
  | arrival ticket now r =>
    rw [step, step, hgateway, Gateway.arrive_withCache hcache hstats hlogout]
    obtain ⟨g, progress⟩ := t.gateway.arrive now r
    cases progress <;> rfl
  | completion ticket now outcome =>
    have hwaiting : (t.withCache k).waiting? ticket = t.waiting? ticket := rfl
    rw [step, step, hwaiting]
    cases t.waiting? ticket with
    | none => rfl
    | some w =>
      simp only [hgateway, Gateway.complete_withCache]
      rfl

theorem step_logout {ticket : Nat} {now : Instant} {r : Request} (h : r.IsLogout) :
    t.step (.arrival ticket now r)
      = (⟨⟨t.gateway.base, t.gateway.context.reset⟩, t.underWay⟩,
        some (.ofAnswer (.cleared "Session cleared" t.gateway.context.size))) := by
  rw [step, Gateway.arrive_logout h]

theorem agrees_of_stats {ticket : Nat} {now : Instant} {r : Request} (h : r.route? = some .stats)
    (t : Traffic) (k : CategorizedCache) :
    AgreesButForCache (t, .arrival ticket now r) (t.withCache k, .arrival ticket now r) where
  event := rfl
  other hstats _ := absurd h hstats
  stats _ := ⟨_, _, _, by rw [step_stats h], by rw [step_stats h]; rfl⟩
  logout hlogout := by
    have hroute : r.route? = some .session := hlogout.1
    rw [h] at hroute
    cases hroute

theorem agrees_of_logout {ticket : Nat} {now : Instant} {r : Request} (h : r.IsLogout)
    (t : Traffic) (k : CategorizedCache) :
    AgreesButForCache (t, .arrival ticket now r) (t.withCache k, .arrival ticket now r) where
  event := rfl
  other _ hlogout := absurd h hlogout
  stats hstats := by
    have hroute : r.route? = some .stats := hstats
    rw [h.1] at hroute
    cases hroute
  logout _ := by
    let c := t.gateway.context
    refine ⟨c.auth.size + c.typeahead.size + c.dataRequests.size, ?_, ?_⟩
    · rw [step_logout h]
      rfl
    · rw [step_logout h]
      rfl

theorem agrees_withCache (h : e.isOnCache = false) (t : Traffic) (k : CategorizedCache) :
    AgreesButForCache (t, e) (t.withCache k, e)
      ∧ ∃ k', ((t.withCache k).step e).1 = (t.step e).1.withCache k' := by
  by_cases hstats : e.IsStats
  · cases e with
    | completion ticket now outcome => exact hstats.elim
    | arrival ticket now r =>
      refine ⟨agrees_of_stats hstats t k, k, ?_⟩
      rw [step_stats hstats, step_stats hstats]
  · by_cases hlogout : e.IsLogout
    · cases e with
      | completion ticket now outcome => exact hlogout.elim
      | arrival ticket now r =>
        refine ⟨agrees_of_logout hlogout t k, .empty, ?_⟩
        rw [step_logout hlogout, step_logout hlogout]
        rfl
    · have hstep := step_withCache (t := t) (k := k) h hstats hlogout
      refine ⟨⟨rfl, fun _ _ => ?_, fun h => absurd h hstats, fun h => absurd h hlogout⟩, k, ?_⟩
      · rw [hstep]
      · rw [hstep]

def momentsOf (pick : Event → Bool) (t : Traffic) (es : List Event) : List (Traffic × Event) :=
  (t.moments es).filter (pick ·.2)

theorem momentsOf_cons (pick : Event → Bool) (t : Traffic) (e : Event) (es : List Event) :
    t.momentsOf pick (e :: es)
      = if pick e then (t, e) :: (t.step e).1.momentsOf pick es
        else (t.step e).1.momentsOf pick es := by
  rw [momentsOf, moments, List.filter_cons]
  rfl

/-- While only requests on the cache are left out, the two runs stay equal but for the cache. -/
theorem agrees_of_thinned (h : Event.Thinned (·.isOnCache = true) es es') (t : Traffic)
    (k : CategorizedCache) :
    List.Forall₂ AgreesButForCache (t.momentsOf (! ·.isOnCache) es)
      ((t.withCache k).momentsOf (! ·.isOnCache) es') := by
  -- a request on the cache, kept or left out, moves the caches apart, so both vary
  induction h generalizing t k with
  | nil => exact .nil
  | keep e _ ih =>
    rw [momentsOf_cons, momentsOf_cons]
    cases he : e.isOnCache with
    | false =>
      obtain ⟨hagrees, k', hstep⟩ := agrees_withCache he t k
      rw [hstep]
      exact .cons hagrees (ih _ k')
    | true =>
      obtain ⟨k₁, hstep⟩ := exists_step_of_isOnCache he t
      obtain ⟨k₂, hstep'⟩ := exists_step_of_isOnCache he (t.withCache k)
      rw [hstep, hstep', withCache_withCache, ← t.withCache_withCache k₁ k₂]
      exact ih _ k₂
  | drop he _ ih =>
    rw [momentsOf_cons, he]
    obtain ⟨k₁, hstep⟩ := exists_step_of_isOnCache he t
    rw [hstep, ← t.withCache_withCache k₁ k]
    exact ih _ k

theorem cache_step_of_not_edits (hcache : e.isOnCache = false) (hlogout : ¬ e.IsLogout)
    (t : Traffic) : (t.step e).1.gateway.context.cache = t.gateway.context.cache := by
  rw [cache_step, Event.cacheOp?_eq_none hcache hlogout]
  rfl

theorem response_of_isOnCache (he : e.isOnCache)
    (hc : t'.gateway.context.cache = t.gateway.context.cache) :
    (t'.step e).2 = (t.step e).2 := by
  cases e with
  | completion ticket now outcome => cases he
  | arrival ticket now r =>
    rw [response_step, response_step, Gateway.arrive_snd_of_isOnCache he hc]

theorem responses_of_thinned
    (h : Event.Thinned (fun e => e.isOnCache = false ∧ ¬ e.IsLogout) es es')
    (hc : t'.gateway.context.cache = t.gateway.context.cache) :
    (t'.momentsOf Event.isOnCache es').map (fun m => (m.1.step m.2).2)
      = (t.momentsOf Event.isOnCache es).map fun m => (m.1.step m.2).2 := by
  -- the answers need equal caches only, so the two runs may differ in all else
  induction h generalizing t t' with
  | nil => rfl
  | keep e _ ih =>
    have hnext : (t'.step e).1.gateway.context.cache = (t.step e).1.gateway.context.cache := by
      rw [cache_step, cache_step, hc]
    rw [momentsOf_cons, momentsOf_cons]
    cases he : e.isOnCache with
    | false => exact ih hnext
    | true =>
      have hresponse := response_of_isOnCache he hc
      simp only [↓reduceIte, List.map_cons, hresponse, ih hnext]
  | drop left _ ih =>
    rw [momentsOf_cons, left.1]
    apply ih
    rw [hc, cache_step_of_not_edits left.1 left.2]

/-- In any run events can be left out that are neither requests on the free-form cache nor logouts,
and the requests on the cache are answered as before. Requests on the cache can be left out, and all
other events are answered as before, except that the statistics tell another number of free-form
entries and a logout removes another number of them: in each run the number that the cache holds
when the event comes. -/
theorem cache_apart_from_stores (base : Url) (config : Config) (es es' : List Event) :
    (Event.Thinned (fun e => e.isOnCache = false ∧ ¬ e.IsLogout) es es' →
      ((start base config).momentsOf Event.isOnCache es').map (fun m => (m.1.step m.2).2)
        = ((start base config).momentsOf Event.isOnCache es).map fun m => (m.1.step m.2).2)
    ∧ (Event.Thinned (·.isOnCache = true) es es' →
      List.Forall₂ AgreesButForCache ((start base config).momentsOf (! ·.isOnCache) es)
        ((start base config).momentsOf (! ·.isOnCache) es')) :=
  ⟨fun h => responses_of_thinned h rfl, fun h => agrees_of_thinned h (start base config) .empty⟩

theorem login_unseen_and_write_counted :
    (((start Sample.base {}).momentsOf Event.isOnCache
        [.arrival 1 0 (Sample.putOne "/cache/a/b"), .arrival 2 0 (Sample.get "/cache/a/b")]).map
          (fun m => (m.1.step m.2).2)
      = ((start Sample.base {}).momentsOf Event.isOnCache
        [.arrival 1 0 (Sample.putOne "/cache/a/b"), .arrival 3 0 (Sample.login Sample.alice),
          .arrival 2 0 (Sample.get "/cache/a/b")]).map fun m => (m.1.step m.2).2)
    ∧ ∃ headOnly suggestions dataRequests,
      (((start Sample.base {}).step (.arrival 1 0 (Sample.putOne "/cache/a/b"))).1.step
          (.arrival 2 0 (Sample.get "/stats"))).2
        = some (Gateway.respond headOnly (.ofAnswer (.stats suggestions dataRequests 1)))
      ∧ ((start Sample.base {}).step (.arrival 2 0 (Sample.get "/stats"))).2
        = some (Gateway.respond headOnly (.ofAnswer (.stats suggestions dataRequests 0))) := by
  have hput : (Event.arrival 1 0 (Sample.putOne "/cache/a/b")).isOnCache = true := by
    decide +kernel
  have hlogin : (Event.arrival 3 0 (Sample.login Sample.alice)).isOnCache = false := by
    decide +kernel
  have notLogout : ¬ (Event.arrival 3 0 (Sample.login Sample.alice)).IsLogout :=
    fun h => nomatch h.2
  have hstats : (Event.arrival 2 0 (Sample.get "/stats")).isOnCache = false := by decide +kernel
  have hroute : (Sample.get "/stats").route? = some .stats := by decide +kernel
  constructor
  · apply (cache_apart_from_stores Sample.base {} _ _).1
    exact .keep _ (.drop ⟨hlogin, notLogout⟩ (.keep _ .nil))
  · have hagrees := (cache_apart_from_stores Sample.base {}
      [.arrival 1 0 (Sample.putOne "/cache/a/b"), .arrival 2 0 (Sample.get "/stats")]
      [.arrival 2 0 (Sample.get "/stats")]).2 (.drop hput (.keep _ .nil))
    simp only [momentsOf_cons, hput, hstats, Bool.not_true, Bool.not_false, ↓reduceIte,
      Bool.false_eq_true] at hagrees
    obtain ⟨headOnly, suggestions, dataRequests, hwith, hwithout⟩ :=
      (List.forall₂_cons.mp hagrees).1.stats hroute
    have hsize : ((start Sample.base {}).step
        (.arrival 1 0 (Sample.putOne "/cache/a/b"))).1.gateway.context.cache.size = 1 := by
      obtain ⟨e, hcacheOp⟩ := Sample.exists_cacheOp?_putOne
      have hop := hcacheOp 1 "/cache/a/b" "a" "b" (by decide +kernel) (by decide +kernel)
      rw [cache_step, hop]
      rfl
    dsimp only at hwith
    rw [hsize] at hwith
    exact ⟨headOnly, suggestions, dataRequests, hwith, hwithout⟩

end Traffic
end SessionGateway
