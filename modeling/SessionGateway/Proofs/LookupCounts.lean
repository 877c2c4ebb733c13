import SessionGateway.Proofs.ServedFromMemory

/-!
What the statistics tell. Each lookup of a run is counted once, as it comes out and whatever becomes
of its request, and nothing else is counted; the entries are counted as they are held. Main
statement: `Traffic.stats_account_for_lookups`.
-/

namespace SessionGateway

inductive Store where
  | suggestions
  | dataRequests
  deriving DecidableEq

def Slot.store? : Slot → Option Store
  | profile => none
  | suggestions _ _ => some .suggestions
  | dataRequest _ => some .dataRequests

def Route.store? : Route → Option Store
  | typeahead _ => some .suggestions
  | dataRequest _ => some .dataRequests
  | _ => none

/-! ## Counters -/

namespace Stats

def count (s : Stats) : LookupOutcome → UInt64
  | .hit => s.hits
  | .miss => s.misses
  | .stale => s.stale

theorem count_record (s : Stats) (o o' : LookupOutcome) :
    (s.record o).count o' = s.count o' + if o = o' then 1 else 0 := by
  cases o <;> cases o' <;> simp [record, count]

theorem count_foldl_record (s : Stats) (os : List LookupOutcome) (o : LookupOutcome) :
    (os.foldl record s).count o = s.count o + UInt64.ofNat (os.count o) := by
  induction os generalizing s with
  | nil => simp
  | cons o' os ih =>
    rw [List.foldl_cons, ih, count_record, List.count_cons, Nat.add_comm, UInt64.ofNat_add,
      ← UInt64.add_assoc]
    by_cases h : o' = o <;> simp [h]

/-- The counters tell how often each outcome occurs, and their sum is the number of lookups. -/
structure Counts (s : Stats) (os : List LookupOutcome) : Prop where
  hits : s.hits.toNat = os.count .hit
  misses : s.misses.toNat = os.count .miss
  stale : s.stale.toNat = os.count .stale
  sum : os.count .hit + os.count .miss + os.count .stale = os.length
  lookups : s.lookups.toNat = os.length

theorem count_add_count_add_count (os : List LookupOutcome) :
    os.count .hit + os.count .miss + os.count .stale = os.length := by
  induction os with
  | nil => rfl
  | cons o os ih => cases o <;> simp <;> omega

theorem counts_foldl_record {os : List LookupOutcome} (h : os.length < UInt64.size) :
    (os.foldl record zero).Counts os := by
  have htoNat {n : Nat} (hn : n ≤ os.length) : (UInt64.ofNat n).toNat = n :=
    UInt64.toNat_ofNat_of_lt' (Nat.lt_of_le_of_lt hn h)
  have hcount (o : LookupOutcome) :
      (os.foldl record zero).count o = UInt64.ofNat (os.count o) := by
    rw [count_foldl_record]
    cases o <;> exact UInt64.zero_add _
  -- the counters are added before they are read as numbers, so only the whole sum has to fit
  have hsum := count_add_count_add_count os
  have hlookups : (os.foldl record zero).lookups = UInt64.ofNat os.length := by
    rw [← hsum, UInt64.ofNat_add, UInt64.ofNat_add, ← hcount, ← hcount, ← hcount]
    rfl
  refine ⟨?_, ?_, ?_, hsum, ?_⟩
  · exact (congrArg UInt64.toNat (hcount .hit)).trans (htoNat List.count_le_length)
  · exact (congrArg UInt64.toNat (hcount .miss)).trans (htoNat List.count_le_length)
  · exact (congrArg UInt64.toNat (hcount .stale)).trans (htoNat List.count_le_length)
  · rw [hlookups, htoNat (Nat.le_refl _)]

theorem Counts.snapshot {s : Stats} {os : List LookupOutcome} (h : s.Counts os)
    (totalEntries : Nat) : (s.snapshot totalEntries).Counts os :=
  ⟨h.hits, h.misses, h.stale, h.sum, h.lookups⟩

end Stats

namespace Context

variable {c : Context} {store : Store}

def counters (c : Context) : Store → Stats
  | .suggestions => c.typeahead.counters
  | .dataRequests => c.dataRequests.counters

def stats (c : Context) : Store → Stats
  | .suggestions => c.typeahead.stats
  | .dataRequests => c.dataRequests.stats

def places (c : Context) : Store → List Slot
  | .suggestions => c.typeahead.cache.addresses.map fun a => .suggestions a.1 a.2
  | .dataRequests => c.dataRequests.cache.keys.map .dataRequest

theorem mem_places_iff {s : Slot} :
    s ∈ c.places store ↔ s.store? = some store ∧ (c.held? s).isSome := by
  cases store with
  | suggestions =>
    cases s with
    | suggestions kind key =>
      simp [places, Slot.store?, held?, ← CategorizedCache.mem_addresses_iff]
    | _ => simp [places, Slot.store?]
  | dataRequests =>
    cases s with
    | dataRequest id => simp [places, Slot.store?, held?, ← Table.mem_keys_iff]
    | _ => simp [places, Slot.store?]

theorem nodup_places (c : Context) (store : Store) : (c.places store).Nodup := by
  cases store with
  | suggestions =>
    refine List.pairwise_map.mpr (c.typeahead.cache.nodup_addresses.imp fun hne he => hne ?_)
    injection he with hkind hkey
    exact Prod.ext hkind hkey
  | dataRequests =>
    refine List.pairwise_map.mpr (c.dataRequests.cache.nodup_keys.imp fun hne he => hne ?_)
    injection he

theorem stats_eq_snapshot (c : Context) (store : Store) :
    c.stats store = (c.counters store).snapshot (c.places store).length := by
  cases store with
  | suggestions =>
    rw [places, List.length_map, CategorizedCache.length_addresses]
    rfl
  | dataRequests =>
    rw [places, List.length_map, Table.length_keys]
    rfl

theorem counters_put (c : Context) (e : Entry) (s : Slot) (store : Store) :
    (c.put e s).counters store = c.counters store := by
  cases s <;> cases store <;> rfl

def outcome (c : Context) (now : Instant) (s : Slot) : LookupOutcome :=
  .of (c.window s) now (c.held? s)

end Context

theorem Change.counters_ofCall (c : Context) (now : Instant) (call : Portal.Call) (store : Store) :
    ((ofCall now call).apply c).counters store
      = (call.place?.filter (·.store? = some store)).elim (c.counters store)
        fun s => (c.counters store).record (c.outcome now s) := by
  cases call <;> cases store <;> rfl

theorem Request.Makes.counters_apply {r : Request} {now : Instant} {ch : Change}
    (h : r.Makes now ch) (hasks : r.asks? = none) (c : Context) (store : Store) :
    (ch.apply c).counters store = c.counters store := by
  cases h with
  | count asks =>
    rw [asks?_of_asks asks] at hasks
    cases hasks
  | _ => cases store <;> rfl

/-! ## Requests that are refused -/

def Reaction.Refuses : Reaction → Prop
  | .reject _ => True
  | .fail e => e.status ≠ 200
  | _ => False

theorem Reaction.Refuses.progress {x : Reaction} (h : x.Refuses) (headOnly : Bool) :
    ∃ response, x.progress headOnly = .finished response ∧ response.status ≠ 200 := by
  have status_respond (response : Response) :
      (Gateway.respond headOnly response).status = response.status := by
    cases headOnly <;> rfl
  cases x with
  | reject r =>
    refine ⟨_, rfl, ?_⟩
    rw [status_respond]
    cases r <;> decide
  | fail e =>
    refine ⟨_, rfl, ?_⟩
    rw [status_respond, Response.ofError]
    cases e.body? <;> exact h
  | _ => exact h.elim

theorem Auth.refuses_of_token {a : Auth} {now : Instant} {e : GatewayError}
    (h : a.token now = .error e) : (Reaction.fail e).Refuses := by
  unfold token at h
  split at h
  · cases h
    exact (by decide : 401 ≠ 200)
  · split at h
    · cases h
      exact (by decide : 401 ≠ 200)
    · cases h

namespace Handler

variable {c : Context} {now : Instant} {r : Request} {store : Store}

theorem typeahead_refuses {kind : String} {q : SuggestionQuery} (h : q.call? kind = none) :
    (typeahead c now kind q).2.Refuses := by
  unfold SuggestionQuery.call? at h
  unfold typeahead
  cases hproblem : segmentProblem? "Kind" kind with
  | some problem => exact (by decide : 400 ≠ 200)
  | none =>
    have hblank : (normalizeQuery q.query).isEmpty = true := by simpa [hproblem] using h
    simp only [hblank, ↓reduceIte]
    exact (by decide : 204 ≠ 200)

theorem dataRequest_refuses {id : String} (h : dataRequestCall? id = none) :
    (dataRequest c now id).2.Refuses := by
  unfold dataRequestCall? at h
  unfold dataRequest
  cases hproblem : segmentProblem? "Request id" id with
  | some problem => exact (by decide : 400 ≠ 200)
  | none => simp [hproblem] at h

theorem react_refuses {route : Route} (hroute : route.store? = some store)
    (h : r.asksAt? route = none) (m : Method) : (react c now r route m).2.Refuses := by
  cases route with
  | typeahead raw =>
    rw [Request.asksAt?] at h
    rw [react]
    cases hkind : parameter raw with
    | error x => trivial
    | ok kind =>
      cases hq : pairs SuggestionQuery.ofPairs? r with
      | error x => trivial
      | ok q =>
        rw [hkind, hq] at h
        exact typeahead_refuses h
  | dataRequest raw =>
    rw [Request.asksAt?] at h
    rw [react]
    cases hid : parameter raw with
    | error x => trivial
    | ok id =>
      rw [hid] at h
      exact dataRequest_refuses h
  | _ => cases hroute

end Handler

theorem Request.Asks.store?_eq {r : Request} {call : Portal.Call} (h : r.Asks call) :
    call.place?.bind Slot.store? = r.route?.bind Route.store? := by
  cases h with
  | profile route | suggestions route | submission route | dataRequest route =>
    rw [route]
    rfl

theorem Context.ask_refuses (c : Context) (now : Instant) (call : Portal.Call) :
    (∃ p, c.ask now call = .call p) ∨ (c.ask now call).Refuses := by
  unfold ask
  cases htoken : c.auth.token now with
  | ok token => exact .inl ⟨_, rfl⟩
  | error e =>
    cases call.isSuggestions with
    | true => exact .inl ⟨_, rfl⟩
    | false => exact .inr (Auth.refuses_of_token htoken)

/-- On the route of a store no request succeeds at once but by an entry of the store. -/
theorem Gateway.served_of_status {g : Gateway} {now : Instant} {r : Request} {route : Route}
    {store : Store} {response : Response} (hr : r.route? = some route)
    (hs : route.store? = some store) (h : (g.arrive now r).2 = .finished response)
    (hstatus : response.status = 200) :
    ∃ s, r.LooksUp s ∧ s.store? = some store ∧ ∃ v, g.context.served? now s = some v := by
  have not_refuses {x : Reaction} (hx : x.Refuses) :
      (g.arrive now r).2 ≠ x.progress (r.method == .head) := by
    intro he
    obtain ⟨response', hresponse', hne⟩ := hx.progress (r.method == .head)
    rw [h, hresponse'] at he
    cases he
    exact hne hstatus
  cases hcall : r.asksAt? route with
  | none =>
    have hrefuses : (Handler.react g.context now r route r.method).2.Refuses :=
      Handler.react_refuses hs hcall r.method
    refine absurd ?_ (not_refuses hrefuses)
    rw [arrive_of_route hr]
  | some call =>
    have hasks : r.asks? = some call := by rw [Request.asks?, hr, Option.bind_some, hcall]
    have hstore : call.place?.bind Slot.store? = some store := by
      rw [(Request.asks_of_asks? hasks).store?_eq, hr, Option.bind_some, hs]
    obtain ⟨s, hplace, hstore⟩ := Option.bind_eq_some_iff.mp hstore
    have hlooksUp : r.LooksUp s := by
      refine Request.looksUp_of_asks? hasks hplace ?_
      rintro rfl
      cases hstore
    have hreaction := arrive_of_asks g now hasks
    rw [Context.inquire, hplace, Option.bind_some] at hreaction
    cases hserved : g.context.served? now s with
    | some v => exact ⟨s, hlooksUp, hstore, v, hserved⟩
    | none =>
      -- the request waits, or is refused for want of a live session
      rw [hserved] at hreaction
      rcases g.context.ask_refuses now call with ⟨p, hp⟩ | hrefuses
      · rw [hp, h] at hreaction
        cases hreaction
      · exact absurd hreaction (not_refuses hrefuses)

/-! ## Lookups of a run -/

def Request.place? (r : Request) : Option Slot := r.asks?.bind Portal.Call.place?

theorem Request.place?_filter_eq_some_iff {r : Request} {s : Slot} {store : Store} :
    r.place?.filter (·.store? = some store) = some s ↔ r.LooksUp s ∧ s.store? = some store := by
  rw [Option.filter_eq_some_iff, decide_eq_true_eq]
  refine and_congr_left fun hs => ⟨fun h => ?_, fun h => ?_⟩
  · obtain ⟨call, hcall, hplace⟩ := Option.bind_eq_some_iff.mp h
    refine looksUp_of_asks? hcall hplace ?_
    rintro rfl
    cases hs
  · obtain ⟨call, hcall, hplace, -⟩ := h.exists_call
    rw [place?, hcall, Option.bind_some, hplace]

/-- Whether an event looks up something in a store. Requests that are refused, blank queries, and
requests to other routes do not. -/
def Event.LooksIn (e : Event) (store : Store) : Prop :=
  ∃ ticket now r s, e = .arrival ticket now r ∧ r.LooksUp s ∧ s.store? = some store

def Sample.lookups : List Event :=
  [.arrival 1 0 (Sample.get "/typeahead/street?query=a"), .completion 1 1 Sample.one,
    .arrival 2 2 (Sample.get "/typeahead/street?query=a"),
    .arrival 3 120001 (Sample.get "/typeahead/street?query=A"),
    .arrival 4 3 (Sample.get "/data-requests/7")]

namespace Traffic

variable {t : Traffic} {e : Event} {store : Store}

/-- How the lookup that an event makes in a store comes out. What waited for the portal looks up
nothing when it comes back. -/
def lookupIn? (t : Traffic) (store : Store) : Event → Option LookupOutcome
  | .arrival _ now r =>
    (r.place?.filter (·.store? = some store)).map (t.gateway.context.outcome now)
  | .completion _ _ _ => none

def outcomes (t : Traffic) (store : Store) (es : List Event) : List LookupOutcome :=
  (t.moments es).filterMap fun m => m.1.lookupIn? store m.2

theorem lookupIn?_of_write? {w : Write} (h : t.write? e = some w) : t.lookupIn? store e = none := by
  cases e with
  | arrival ticket now r => cases h
  | completion ticket now outcome => rfl

theorem counters_step (t : Traffic) (e : Event) (store : Store) :
    (t.step e).1.gateway.context.counters store
      = (t.lookupIn? store e).elim (t.gateway.context.counters store)
        (t.gateway.context.counters store).record := by
  rw [step_gateway]
  cases hw : t.write? e with
  | some w =>
    -- what writes an entry is a call that comes back, and that is no lookup
    rw [lookupIn?_of_write? hw]
    exact Context.counters_put ..
  | none =>
    cases e with
    | completion ticket now outcome => rfl
    | arrival ticket now r =>
      rw [Option.elim_none, Event.change, lookupIn?, Request.place?]
      cases hasks : r.asks? with
      | none => exact (r.makes_change now).counters_apply hasks ..
      | some call =>
        rw [Request.change_of_asks? hasks, Change.counters_ofCall, Option.bind_some]
        cases call.place?.filter (·.store? = some store) <;> rfl

theorem counters_run (t : Traffic) (store : Store) (es : List Event) :
    (t.run es).1.gateway.context.counters store
      = (t.outcomes store es).foldl Stats.record (t.gateway.context.counters store) := by
  induction es generalizing t with
  | nil => rfl
  | cons e es ih =>
    rw [run_cons, ih, counters_step, outcomes, outcomes, moments, List.filterMap_cons]
    cases t.lookupIn? store e <;> rfl

theorem lookupIn?_eq_some_iff {o : LookupOutcome} :
    t.lookupIn? store e = some o
      ↔ ∃ ticket now r s, e = .arrival ticket now r ∧ r.LooksUp s ∧ s.store? = some store
        ∧ t.gateway.context.outcome now s = o := by
  cases e with
  | completion ticket now outcome => simp [lookupIn?]
  | arrival ticket now r =>
    rw [lookupIn?, Option.map_eq_some_iff]
    simp only [Request.place?_filter_eq_some_iff]
    constructor
    · rintro ⟨s, ⟨hlooksUp, hstore⟩, ho⟩
      exact ⟨ticket, now, r, s, rfl, hlooksUp, hstore, ho⟩
    · rintro ⟨_, _, _, s, ⟨⟩, hlooksUp, hstore, ho⟩
      exact ⟨s, ⟨hlooksUp, hstore⟩, ho⟩

theorem lookupIn?_eq_hit_iff :
    t.lookupIn? store e = some .hit
      ↔ ∃ ticket now r v, e = .arrival ticket now r ∧ r.route?.bind Route.store? = some store
        ∧ (t.step e).2 = some (Gateway.respond (r.method == .head) (.ofAnswer (.data true v))) := by
  rw [lookupIn?_eq_some_iff]
  constructor
  · rintro ⟨ticket, now, r, s, rfl, hlooksUp, hstore, ho⟩
    obtain ⟨v, hv⟩ := LookupOutcome.of_eq_hit_iff.mp ho
    obtain ⟨call, hcall, hplace, -⟩ := hlooksUp.exists_call
    refine ⟨ticket, now, r, v, rfl, ?_, (step_of_served (.lookup hlooksUp) hv).1⟩
    rw [← (Request.asks_of_asks? hcall).store?_eq, hplace, Option.bind_some, hstore]
  · rintro ⟨ticket, now, r, v, rfl, hroute, hresponse⟩
    obtain ⟨route, hr, hs⟩ := Option.bind_eq_some_iff.mp hroute
    rw [response_step] at hresponse
    cases hprogress : (t.gateway.arrive now r).2 with
    | waiting w =>
      rw [hprogress] at hresponse
      cases hresponse
    | finished response =>
      rw [hprogress] at hresponse
      have hstatus : response.status = 200 := by
        rw [Option.some.inj hresponse]
        cases r.method == .head <;> rfl
      obtain ⟨s, hlooksUp, hstore, hserved⟩ := Gateway.served_of_status hr hs hprogress hstatus
      exact ⟨ticket, now, r, s, rfl, hlooksUp, hstore, LookupOutcome.of_eq_hit_iff.mpr hserved⟩

theorem lookupIn?_eq_miss_iff :
    t.lookupIn? store e = some .miss
      ↔ ∃ ticket now r s, e = .arrival ticket now r ∧ r.LooksUp s ∧ s.store? = some store
        ∧ t.held? s = none := by
  simp only [lookupIn?_eq_some_iff, Context.outcome, LookupOutcome.of_eq_miss_iff]
  rfl

theorem lookupIn?_eq_stale_iff :
    t.lookupIn? store e = some .stale
      ↔ ∃ ticket now r s, e = .arrival ticket now r ∧ r.LooksUp s ∧ s.store? = some store
        ∧ ∃ entry, t.held? s = some entry
          ∧ entry.isFresh (t.gateway.context.window s) now = false := by
  simp only [lookupIn?_eq_some_iff, Context.outcome, LookupOutcome.of_eq_stale_iff]
  rfl

theorem lookupIn?_eq_none (h : ¬ e.LooksIn store) : t.lookupIn? store e = none := by
  rw [Option.eq_none_iff_forall_ne_some]
  intro o ho
  obtain ⟨ticket, now, r, s, he, hlooksUp, hstore, -⟩ := lookupIn?_eq_some_iff.mp ho
  exact h ⟨ticket, now, r, s, he, hlooksUp, hstore⟩

structure Tells (t : Traffic) (store : Store) (os : List LookupOutcome) : Prop where
  answered : ∀ ticket now r, r.route? = some .stats →
    t.step (.arrival ticket now r) = (t, some (Gateway.respond (r.method == .head) (.ofAnswer
      (.stats (t.gateway.context.stats .suggestions) (t.gateway.context.stats .dataRequests)
        t.gateway.context.cache.size))))
  counts : (t.gateway.context.stats store).Counts os
  totalEntries : (t.gateway.context.stats store).totalEntries
    = (t.gateway.context.places store).length
  nodup_places : (t.gateway.context.places store).Nodup
  mem_places_iff : ∀ s,
    s ∈ t.gateway.context.places store ↔ s.store? = some store ∧ (t.held? s).isSome

structure Adds (t : Traffic) (window : Slot → Window) (store : Store) (e : Event) : Prop where
  hit : t.lookupIn? store e = some .hit
    ↔ ∃ ticket now r v, e = .arrival ticket now r ∧ r.route?.bind Route.store? = some store
      ∧ (t.step e).2 = some (Gateway.respond (r.method == .head) (.ofAnswer (.data true v)))
  miss : t.lookupIn? store e = some .miss
    ↔ ∃ ticket now r s, e = .arrival ticket now r ∧ r.LooksUp s ∧ s.store? = some store
      ∧ t.held? s = none
  stale : t.lookupIn? store e = some .stale
    ↔ ∃ ticket now r s, e = .arrival ticket now r ∧ r.LooksUp s ∧ s.store? = some store
      ∧ ∃ entry, t.held? s = some entry ∧ entry.isFresh (window s) now = false
  other : ¬ e.LooksIn store →
    (t.step e).1.gateway.context.counters store = t.gateway.context.counters store

theorem tells_of_counters {os : List LookupOutcome} (h : os.length < UInt64.size)
    (hcounters : t.gateway.context.counters store = os.foldl Stats.record .zero) :
    t.Tells store os where
  answered ticket now r hroute := step_stats hroute
  counts := by
    rw [Context.stats_eq_snapshot, hcounters]
    exact (Stats.counts_foldl_record h).snapshot _
  totalEntries := by
    rw [Context.stats_eq_snapshot]
    rfl
  nodup_places := Context.nodup_places ..
  mem_places_iff s := Context.mem_places_iff

theorem adds_of_window {window : Slot → Window}
    (h : ∀ s, t.gateway.context.window s = window s) (store : Store) (e : Event) :
    t.Adds window store e where
  hit := lookupIn?_eq_hit_iff
  miss := lookupIn?_eq_miss_iff
  stale := by simp only [lookupIn?_eq_stale_iff, h]
  other hnone := by
    rw [counters_step, lookupIn?_eq_none hnone]
    rfl

theorem moments_append (t : Traffic) (es fs : List Event) :
    t.moments (es ++ fs) = t.moments es ++ (t.run es).1.moments fs := by
  induction es generalizing t with
  | nil => rfl
  | cons e es ih => rw [List.cons_append, moments, moments, ih, run_cons, List.cons_append]

theorem outcomes_concat (t : Traffic) (store : Store) (es : List Event) (e : Event) :
    t.outcomes store (es ++ [e])
      = t.outcomes store es ++ ((t.run es).1.lookupIn? store e).toList := by
  rw [outcomes, outcomes, moments_append, List.filterMap_append, moments, moments,
    List.filterMap_cons]
  cases (t.run es).1.lookupIn? store e <;> rfl

theorem counters_start (base : Url) (config : Config) (store : Store) :
    (start base config).gateway.context.counters store = .zero := by
  cases store <;> rfl

/-- As long as a store is looked into fewer than 2⁶⁴ times, its statistics tell how many of the
lookups were hits, misses and stale, and how many entries it holds. A hit is a request of the store
that is answered from memory, by GET or by HEAD; a lookup that finds nothing, or an entry outside
the window, is a miss or stale whatever becomes of it, and nothing but a lookup changes a
counter. -/
theorem stats_account_for_lookups (base : Url) (config : Config) (es : List Event)
    (store : Store) :
    (((start base config).outcomes store es).length < UInt64.size →
      ((start base config).run es).1.Tells store ((start base config).outcomes store es))
    ∧ ∀ e : Event,
      (start base config).outcomes store (es ++ [e])
          = (start base config).outcomes store es
            ++ (((start base config).run es).1.lookupIn? store e).toList
        ∧ ((start base config).run es).1.Adds config.window store e := by
  refine ⟨fun h => tells_of_counters h ?_, fun e => ⟨outcomes_concat .., adds_of_window ?_ ..⟩⟩
  · rw [counters_run, counters_start]
  · intro s
    rw [window_run]
    exact Context.window_new config s

theorem lookups_of_nobody_counted :
    (((start Sample.base {}).run Sample.lookups).1.gateway.context.stats .suggestions).Counts
        [.miss, .hit, .stale]
    ∧ (((start Sample.base {}).run Sample.lookups).1.gateway.context.stats
        .suggestions).totalEntries = 1
    ∧ (((start Sample.base {}).run Sample.lookups).1.gateway.context.stats .dataRequests).Counts
        [.miss]
    ∧ ((start Sample.base {}).run Sample.lookups).2.map (·.map (·.status))
      = [none, some 200, some 200, none, some 401] := by
  have hsuggestions : (start Sample.base {}).outcomes .suggestions Sample.lookups
      = [.miss, .hit, .stale] := by decide +kernel
  have hdataRequests : (start Sample.base {}).outcomes .dataRequests Sample.lookups
      = [.miss] := by decide +kernel
  have suggestions :=
    (stats_account_for_lookups Sample.base {} Sample.lookups .suggestions).1
      (by rw [hsuggestions]; decide)
  have dataRequests :=
    (stats_account_for_lookups Sample.base {} Sample.lookups .dataRequests).1
      (by rw [hdataRequests]; decide)
  rw [hsuggestions] at suggestions
  rw [hdataRequests] at dataRequests
  refine ⟨suggestions.counts, ?_, dataRequests.counts, by decide +kernel⟩
  rw [suggestions.totalEntries]
  decide +kernel

end Traffic
end SessionGateway
