import SessionGateway.Proofs.CacheSeparation
import SessionGateway.Proofs.LoginHistory
import SessionGateway.Proofs.LookupCounts

/-!
What a reset tells and what it leaves. It tells how many addresses hold an entry, over all stores
and whatever the age of the entries, and it leaves none of them; the windows and the counts of
lookups stay. Main statement: `Context.resets_after_history`.
-/

namespace SessionGateway

inductive Address where
  | place (s : Slot)
  | pair (category key : String)

namespace Context

/-! ## Histories -/

inductive Op where
  | auth (op : Auth.Op)
  | typeahead (op : Typeahead.Op)
  | dataRequests (op : DataRequests.Op)
  | cache (op : CategorizedCache.Op)
  | reset

def apply (c : Context) : Op → Context
  | .auth op => { c with auth := c.auth.apply op }
  | .typeahead op => { c with typeahead := c.typeahead.apply op }
  | .dataRequests op => { c with dataRequests := c.dataRequests.apply op }
  | .cache op => { c with cache := c.cache.apply op }
  | .reset => c.reset

def run (c : Context) (ops : List Op) : Context := ops.foldl apply c

def entryAt? (c : Context) : Address → Option Entry
  | .place s => c.held? s
  | .pair category key => c.cache.get? category key

end Context

def Effect.ofPut : Option (Option Entry) → Effect
  | none => keep
  | some none => clear
  | some (some e) => write e

theorem Effect.apply_ofPut (put : Option (Option Entry)) (held : Option Entry) :
    (ofPut put).apply held = put.getD held := by
  rcases put with _ | _ | e <;> rfl

namespace Context

def Op.effect : Address → Op → Effect
  | _, .reset => .clear
  | .place .profile, .auth op => .ofPut op.profile?
  | .place (.suggestions kind key), .typeahead op => op.effect (kind, key)
  | .place (.dataRequest id), .dataRequests op => op.effect id
  | .pair category key, .cache op => op.effect category key
  | _, _ => .keep

theorem entryAt?_apply (c : Context) (op : Op) (a : Address) :
    (c.apply op).entryAt? a = (op.effect a).apply (c.entryAt? a) := by
  -- each address is of one store, and the operations on the others leave it
  cases a with
  | place s =>
    cases s with
    | profile =>
      cases op with
      | auth op =>
        rw [Op.effect, Effect.apply_ofPut]
        exact c.auth.profileEntry_apply op
      | _ => rfl
    | suggestions kind key =>
      cases op with
      | typeahead op => exact Typeahead.readThrough_lawful.held?_step c.typeahead op (kind, key)
      | _ => rfl
    | dataRequest id =>
      cases op with
      | dataRequests op => exact DataRequests.readThrough_lawful.held?_step c.dataRequests op id
      | _ => rfl
  | pair category key =>
    cases op with
    | cache op => exact CategorizedCache.get?_apply c.cache op category key
    | _ => rfl

theorem entryAt?_run (c : Context) (ops : List Op) (a : Address) :
    (c.run ops).entryAt? a = Effect.replay (Op.effect a) (c.entryAt? a) ops :=
  (List.foldl_hom (entryAt? · a) fun c op => (c.entryAt?_apply op a).symm).symm

theorem entryAt?_run_eq_some_iff {c : Context} {ops : List Op} {a : Address} {e : Entry}
    (h : c.entryAt? a = none) :
    (c.run ops).entryAt? a = some e ↔ Effect.IsLastWrite (Op.effect a) ops e := by
  rw [entryAt?_run, h, Effect.replay_eq_some_iff]
  simp

theorem entryAt?_new (config : Config) (a : Address) : (new config).entryAt? a = none := by
  cases a with
  | place s => exact held?_new config s
  | pair => rfl

/-! ## Addresses that hold an entry -/

def liveSlots (c : Context) : List Slot :=
  (c.auth.profileEntry.map fun _ => Slot.profile).toList
    ++ (c.places .suggestions ++ c.places .dataRequests)

def live (c : Context) : List Address :=
  c.liveSlots.map .place ++ c.cache.addresses.map fun p => .pair p.1 p.2

theorem mem_liveSlots_iff {c : Context} {s : Slot} : s ∈ c.liveSlots ↔ (c.held? s).isSome := by
  simp only [liveSlots, List.mem_append, Option.mem_toList, Option.map_eq_some_iff, mem_places_iff]
  cases s <;> simp [Slot.store?, held?, Option.isSome_iff_exists]

theorem mem_live_iff {c : Context} {a : Address} : a ∈ c.live ↔ (c.entryAt? a).isSome := by
  cases a with
  | place s => simp [live, entryAt?, mem_liveSlots_iff]
  | pair category key => simp [live, entryAt?, CategorizedCache.mem_addresses_iff]

theorem nodup_liveSlots (c : Context) : c.liveSlots.Nodup := by
  have hprofile : ((c.auth.profileEntry.map fun _ => Slot.profile).toList).Nodup := by
    cases c.auth.profileEntry <;> simp
  -- the parts have no place in common, as each place is of one store or of none
  refine List.nodup_append.mpr ⟨hprofile, List.nodup_append.mpr
    ⟨c.nodup_places _, c.nodup_places _, ?_⟩, ?_⟩
  · rintro s hs s' hs' rfl
    cases (mem_places_iff.mp hs).1.symm.trans (mem_places_iff.mp hs').1
  · rintro s hs s' hs' rfl
    obtain ⟨-, -, rfl⟩ := Option.map_eq_some_iff.mp (Option.mem_toList.mp hs)
    rcases List.mem_append.mp hs' with hs' | hs' <;> cases (mem_places_iff.mp hs').1

theorem nodup_live (c : Context) : c.live.Nodup := by
  refine List.nodup_append.mpr ⟨?_, ?_, ?_⟩
  · exact List.pairwise_map.mpr (c.nodup_liveSlots.imp fun hne he => hne (Address.place.inj he))
  · refine List.pairwise_map.mpr (c.cache.nodup_addresses.imp fun hne he => hne ?_)
    injection he with hcategory hkey
    exact Prod.ext hcategory hkey
  · intro a ha b hb heq
    obtain ⟨s, -, rfl⟩ := List.mem_map.mp ha
    obtain ⟨p, -, rfl⟩ := List.mem_map.mp hb
    cases heq

theorem length_live (c : Context) : c.live.length = c.size := by
  have hprofile : (c.auth.profileEntry.map fun _ => Slot.profile).toList.length = c.auth.size := by
    rw [Auth.size_eq]
    cases c.auth.profileEntry <;> rfl
  have hsuggestions : (c.places .suggestions).length = c.typeahead.size :=
    (List.length_map _).trans c.typeahead.cache.length_addresses
  have hrequests : (c.places .dataRequests).length = c.dataRequests.size :=
    (List.length_map _).trans c.dataRequests.cache.length_keys
  rw [live, List.length_append, List.length_map, List.length_map, liveSlots, List.length_append,
    List.length_append, hprofile, hsuggestions, hrequests, CategorizedCache.length_addresses, size]
  omega

/-! ## Resets -/

structure Emptied (before after : Context) : Prop where
  session : after.auth.session = none
  profileEntry : after.auth.profileEntry = none
  previousRoute : after.auth.previousRoute = none
  size : after.size = 0
  profile_missed : ∀ now, after.auth.profile now = none
  suggestions_missed : ∀ kind query now, after.typeahead.lookup kind query now
    = ({ after.typeahead with counters := after.typeahead.counters.record .miss }, none)
  dataRequest_missed : ∀ id now, after.dataRequests.lookup id now
    = ({ after.dataRequests with counters := after.dataRequests.counters.record .miss }, none)
  pair_missed : ∀ category key, after.cache.get? category key = none
  /-- Whatever is held later was written later. -/
  held_later_iff : ∀ later a e,
    (after.run later).entryAt? a = some e ↔ Effect.IsLastWrite (Op.effect a) later e
  window : ∀ s, after.window s = before.window s
  stats : ∀ store, after.stats store = (before.stats store).snapshot 0

theorem entryAt?_reset (c : Context) (a : Address) : c.reset.entryAt? a = none :=
  c.entryAt?_apply .reset a

theorem size_reset (c : Context) : c.reset.size = 0 := rfl

theorem emptied_reset (c : Context) : c.Emptied c.reset where
  session := rfl
  profileEntry := rfl
  previousRoute := rfl
  size := c.size_reset
  profile_missed _ := rfl
  suggestions_missed _ _ _ := rfl
  dataRequest_missed _ _ := rfl
  pair_missed _ _ := rfl
  held_later_iff _ _ _ := entryAt?_run_eq_some_iff (c.entryAt?_reset _)
  window s := by cases s <;> rfl
  stats store := by cases store <;> rfl

structure ResetsAfter (ops : List Op) (c : Context) : Prop where
  /-- As many entries as there are addresses with a write that nothing has undone. -/
  live : ∃ live : List Address, live.Nodup
    ∧ (∀ a, a ∈ live ↔ ∃ e, Effect.IsLastWrite (Op.effect a) ops e) ∧ live.length = c.size
  size_eq : c.size = (c.stats .suggestions).totalEntries + (c.stats .dataRequests).totalEntries
    + c.cache.size + if c.auth.profileEntry.isSome then 1 else 0
  emptied : c.Emptied c.reset
  stats_told : ∀ base now r, r.route? = some .stats → (Gateway.arrive ⟨base, c⟩ now r).2
    = .finished (Gateway.respond (r.method == .head)
        (.ofAnswer (.stats (c.stats .suggestions) (c.stats .dataRequests) c.cache.size)))
  reset_told : ∀ base now r, r.IsLogout → Gateway.arrive ⟨base, c⟩ now r
    = (⟨base, c.reset⟩, .finished (.ofAnswer (.cleared "Session cleared" c.size)))
  again : ∀ base now r, r.IsLogout → Gateway.arrive ⟨base, c.reset⟩ now r
    = (⟨base, c.reset⟩, .finished (.ofAnswer (.cleared "Session cleared" 0)))

theorem size_eq (c : Context) :
    c.size = (c.stats .suggestions).totalEntries + (c.stats .dataRequests).totalEntries
      + c.cache.size + if c.auth.profileEntry.isSome then 1 else 0 := by
  have hsuggestions : (c.stats .suggestions).totalEntries = c.typeahead.size := rfl
  have hrequests : (c.stats .dataRequests).totalEntries = c.dataRequests.size := rfl
  rw [size, hsuggestions, hrequests, Auth.size_eq]
  omega

/-- Whatever has been done to a new context, a reset of it tells how many addresses hold what was
last written to them, as many as the statistics show and one for a profile, and then nothing is
remembered but windows and counts. -/
theorem resets_after_history (config : Config) (ops : List Op) :
    ((new config).run ops).ResetsAfter ops where
  live := by
    refine ⟨_, nodup_live _, fun a => ?_, length_live _⟩
    simp only [mem_live_iff, Option.isSome_iff_exists,
      entryAt?_run_eq_some_iff (entryAt?_new config a)]
  size_eq := size_eq _
  emptied := emptied_reset _
  stats_told base now r h := by
    rw [Gateway.arrive_stats h]
    rfl
  reset_told base now r h := Gateway.arrive_logout h
  again base now r h := by
    rw [Gateway.arrive_logout h, size_reset]
    rfl

/-- A session with its profile, one query in two spellings, a data request that is written twice,
and two pairs of the free-form cache, of which one is cleared with its category. -/
def Op.busy : List Op :=
  [.auth (.login Sample.alice 0), .auth (.storeProfile (.str "Alice") 0),
    .auth (.setPreviousRoute "/requests"), .typeahead (.store "address" "Main St" .null 1),
    .typeahead (.store "address" " MAIN  st" .null 2), .typeahead (.lookup "address" "main st" 3),
    .dataRequests (.store "7" .null 4), .dataRequests (.store "7" (.bool true) 5),
    .cache (.set "a" "b" ⟨.null, 6⟩), .cache (.set "b" "a" ⟨.null, 7⟩),
    .cache (.clearCategory "a")]

theorem reset_of_busy_context :
    Gateway.arrive ⟨Sample.base, (new {}).run Op.busy⟩ 8 Sample.logout
      = (⟨Sample.base, ((new {}).run Op.busy).reset⟩,
        .finished (.ofAnswer (.cleared "Session cleared" 4)))
    ∧ Gateway.arrive ⟨Sample.base, ((new {}).run Op.busy).reset⟩ 9 Sample.logout
      = (⟨Sample.base, ((new {}).run Op.busy).reset⟩,
        .finished (.ofAnswer (.cleared "Session cleared" 0)))
    ∧ (((new {}).run Op.busy).reset.dataRequests.lookup "7" 9).2 = none
    ∧ ((new {}).run Op.busy).reset.stats .suggestions = ⟨1, 0, 0, 0⟩ := by
  have resets := resets_after_history {} Op.busy
  have hlogout : Sample.logout.IsLogout := ⟨by decide +kernel, rfl⟩
  have hsize : ((new {}).run Op.busy).size = 4 := by decide +kernel
  have hcounts : (((new {}).run Op.busy).stats .suggestions).snapshot 0 = ⟨1, 0, 0, 0⟩ := by
    decide +kernel
  refine ⟨?_, resets.again _ _ _ hlogout, ?_, (resets.emptied.stats _).trans hcounts⟩
  · rw [resets.reset_told _ _ _ hlogout, hsize]
  · rw [resets.emptied.dataRequest_missed]

end Context
end SessionGateway
