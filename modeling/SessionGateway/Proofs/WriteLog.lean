import SessionGateway.Session.DataRequests

/-!
The read-through stores as logs of writes. Whatever operations have run, a lookup is answered by the
last of them that touched its address: with the data that this one wrote, while it is fresh, and
with nothing if it cleared the address. Main statement: `stores_follow_their_writes`.
-/

namespace SessionGateway

inductive Effect where
  | keep
  | clear
  | write (e : Entry)

namespace Effect

variable {Op : Type} {effect : Op → Effect} {ops : List Op} {held : Option Entry} {e : Entry}

def apply (held : Option Entry) : Effect → Option Entry
  | keep => held
  | clear => none
  | write e => some e

def replay (effect : Op → Effect) (held : Option Entry) (ops : List Op) : Option Entry :=
  ops.foldl (fun held op => (effect op).apply held) held

/-- The last operation that does anything to the entry writes it. -/
def IsLastWrite (effect : Op → Effect) (ops : List Op) (e : Entry) : Prop :=
  ∃ before op after, ops = before ++ op :: after ∧ effect op = .write e
    ∧ ∀ later ∈ after, effect later = .keep

theorem isLastWrite_cons {op : Op} :
    IsLastWrite effect (op :: ops) e
      ↔ IsLastWrite effect ops e
        ∨ (effect op = .write e ∧ ∀ later ∈ ops, effect later = .keep) := by
  constructor
  · rintro ⟨before, op', after, hops, hwrite, hkeep⟩
    cases before with
    | nil =>
      obtain ⟨rfl, rfl⟩ := List.cons.inj hops
      exact .inr ⟨hwrite, hkeep⟩
    | cons first before =>
      obtain ⟨-, rfl⟩ := List.cons.inj hops
      exact .inl ⟨before, op', after, rfl, hwrite, hkeep⟩
  · rintro (⟨before, op', after, rfl, hwrite, hkeep⟩ | ⟨hwrite, hkeep⟩)
    · exact ⟨op :: before, op', after, rfl, hwrite, hkeep⟩
    · exact ⟨[], op, ops, rfl, hwrite, hkeep⟩

theorem replay_eq_some_iff :
    replay effect held ops = some e
      ↔ IsLastWrite effect ops e ∨ (held = some e ∧ ∀ op ∈ ops, effect op = .keep) := by
  induction ops generalizing held with
  | nil => simp [replay, IsLastWrite]
  | cons op ops ih =>
    -- what the first operation leaves is what is held before the others
    have hnext : replay effect held (op :: ops) = replay effect ((effect op).apply held) ops := rfl
    rw [hnext, ih, isLastWrite_cons, List.forall_mem_cons, or_assoc]
    cases effect op with
    | keep => simp [apply]
    | clear => simp [apply]
    | write e' => simp [apply]

theorem replay_of_no_write (h : ∀ op ∈ ops, ∀ e, effect op ≠ .write e) (held : Option Entry) :
    replay effect held ops = held ∨ replay effect held ops = none := by
  cases hreplay : replay effect held ops with
  | none => exact .inr rfl
  | some e =>
    rcases replay_eq_some_iff.mp hreplay with ⟨before, op, after, rfl, hwrite, -⟩ | ⟨rfl, -⟩
    · exact absurd hwrite (h op (by simp) e)
    · exact .inl rfl

end Effect

/-- A store with its operations. Queries that stand for one address are answered from one entry. -/
structure ReadThrough (σ Op Query Address : Type) where
  step : σ → Op → σ
  lookup : σ → Query → Instant → σ × Option Json
  address : Query → Address
  held? : σ → Address → Option Entry
  window : σ → Window
  counters : σ → Stats
  effect : Op → Address → Effect

namespace ReadThrough

variable {σ Op Query Address : Type} {store : ReadThrough σ Op Query Address}

def run (store : ReadThrough σ Op Query Address) (s : σ) (ops : List Op) : σ :=
  ops.foldl store.step s

/-- From a start, every run of operations is followed by lookups that its log of writes explains. -/
structure FollowsLog (store : ReadThrough σ Op Query Address) (start : σ) (w : Window) : Prop where
  served_iff : ∀ ops q now d, (store.lookup (store.run start ops) q now).2 = some d
    ↔ ∃ e, Effect.IsLastWrite (store.effect · (store.address q)) ops e
      ∧ e.isFresh w now ∧ e.data = d
  entries_stay : ∀ s q now a, store.held? (store.lookup s q now).1 a = store.held? s a
  /-- A lookup counts a stale read. After it, with no write to its address, no later lookup of the
  address returns data, however the query is spelled. -/
  stays_stale : ∀ ops q now, store.counters (store.lookup (store.run start ops) q now).1
      = (store.counters (store.run start ops)).record .stale →
    ∀ later, (∀ op ∈ later, ∀ e, store.effect op (store.address q) ≠ .write e) →
    ∀ q' now', store.address q' = store.address q → now ≤ now' →
      (store.lookup (store.run (store.lookup (store.run start ops) q now).1 later) q' now').2 = none

structure Lawful (store : ReadThrough σ Op Query Address) : Prop where
  held?_step : ∀ s op a,
    store.held? (store.step s op) a = (store.effect op a).apply (store.held? s a)
  window_step : ∀ s op, store.window (store.step s op) = store.window s
  held?_lookup : ∀ s q now a, store.held? (store.lookup s q now).1 a = store.held? s a
  window_lookup : ∀ s q now, store.window (store.lookup s q now).1 = store.window s
  lookup_snd : ∀ s q now, (store.lookup s q now).2
    = Entry.served? (store.window s) now (store.held? s (store.address q))
  counters_lookup : ∀ s q now, store.counters (store.lookup s q now).1
    = (store.counters s).record (.of (store.window s) now (store.held? s (store.address q)))

namespace Lawful

theorem held?_run (h : store.Lawful) (s : σ) (ops : List Op) (a : Address) :
    store.held? (store.run s ops) a = Effect.replay (store.effect · a) (store.held? s a) ops :=
  (List.foldl_hom (store.held? · a) fun s op => (h.held?_step s op a).symm).symm

theorem window_run (h : store.Lawful) (s : σ) (ops : List Op) :
    store.window (store.run s ops) = store.window s := by
  induction ops generalizing s with
  | nil => rfl
  | cons op ops ih => exact (ih (store.step s op)).trans (h.window_step s op)

theorem lookup_run_of_stale (h : store.Lawful) {s : σ} {q q' : Query} {now now' : Instant}
    (hstale : store.counters (store.lookup s q now).1 = (store.counters s).record .stale)
    {later : List Op} (hlater : ∀ op ∈ later, ∀ e, store.effect op (store.address q) ≠ .write e)
    (haddress : store.address q' = store.address q) (hnow : now ≤ now') :
    (store.lookup (store.run (store.lookup s q now).1 later) q' now').2 = none := by
  rw [h.counters_lookup] at hstale
  obtain ⟨e, hheld, hold⟩ := LookupOutcome.of_eq_stale_iff.mp (Stats.eq_stale_of_record hstale)
  rw [h.lookup_snd, h.window_run, h.window_lookup, h.held?_run, h.held?_lookup, haddress,
    Option.eq_none_iff_forall_ne_some]
  intro d hd
  obtain ⟨e', hreplay, hfresh, -⟩ := Entry.served?_eq_some_iff.mp hd
  -- without a write the stale entry is still there, or a clear has taken it away
  rcases Effect.replay_of_no_write hlater (store.held? s (store.address q)) with hkept | hgone
  · rw [hkept, hheld] at hreplay
    cases hreplay
    rw [Entry.isFresh_of_le hnow hfresh] at hold
    cases hold
  · rw [hgone] at hreplay
    cases hreplay

theorem followsLog (h : store.Lawful) {start : σ} {w : Window}
    (hempty : ∀ a, store.held? start a = none) (hwindow : store.window start = w) :
    store.FollowsLog start w where
  served_iff ops q now d := by
    rw [h.lookup_snd, h.window_run, h.held?_run, hwindow, hempty, Entry.served?_eq_some_iff]
    simp [Effect.replay_eq_some_iff]
  entries_stay := h.held?_lookup
  stays_stale ops q now hstale later hlater q' now' haddress hnow :=
    h.lookup_run_of_stale hstale hlater haddress hnow

end Lawful
end ReadThrough

namespace Typeahead

inductive Op where
  | lookup (kind query : String) (now : Instant)
  | store (kind query : String) (data : Json) (now : Instant)
  | clearKind (kind : String)
  | clear

def apply (t : Typeahead) : Op → Typeahead
  | .lookup kind query now => (t.lookup kind query now).1
  | .store kind query data now => t.store kind query data now
  | .clearKind kind => t.clearKind kind
  | .clear => t.clear

def Op.effect (address : String × String) : Op → Effect
  | lookup _ _ _ => .keep
  | store kind query data now =>
    if (kind, normalizeQuery query) = address then .write ⟨data, now⟩ else .keep
  | clearKind kind => if kind = address.1 then .clear else .keep
  | clear => .clear

def readThrough : ReadThrough Typeahead Op (String × String) (String × String) where
  step := apply
  lookup t q now := t.lookup q.1 q.2 now
  address q := (q.1, normalizeQuery q.2)
  held? t a := t.cache.get? a.1 a.2
  window := window
  counters := counters
  effect op a := op.effect a

theorem readThrough_lawful : readThrough.Lawful where
  held?_step t op a := by
    obtain ⟨kind, key⟩ := a
    cases op with
    | lookup kind' query now => rfl
    | store kind' query data now =>
      simp only [readThrough, apply, store, CategorizedCache.get?_insert, Op.effect, Prod.mk.injEq,
        eq_comm (a := kind), eq_comm (a := key)]
      split <;> rfl
    | clearKind kind' =>
      simp only [readThrough, apply, clearKind, CategorizedCache.get?_clearCategory, Op.effect,
        eq_comm (a := kind)]
      split <;> rfl
    | clear => rfl
  window_step t op := by cases op <;> rfl
  held?_lookup _ _ _ _ := rfl
  window_lookup _ _ _ := rfl
  lookup_snd _ _ _ := rfl
  counters_lookup _ _ _ := rfl

end Typeahead

namespace DataRequests

inductive Op where
  | lookup (id : String) (now : Instant)
  | store (id : String) (data : Json) (now : Instant)
  | recordSubmission (response : Json) (now : Instant)
  | clear

def apply (d : DataRequests) : Op → DataRequests
  | .lookup id now => (d.lookup id now).1
  | .store id data now => d.store id data now
  | .recordSubmission response now => d.recordSubmission response now
  | .clear => d.clear

def Op.effect (id : String) : Op → Effect
  | lookup _ _ => .keep
  | store id' data now => if id' = id then .write ⟨data, now⟩ else .keep
  | recordSubmission response now =>
    if requestId? response = some id then .write ⟨response, now⟩ else .keep
  | clear => .clear

def readThrough : ReadThrough DataRequests Op String String where
  step := apply
  lookup := lookup
  address := id
  held? d id := d.cache.get? id
  window := window
  counters := counters
  effect op id := op.effect id

theorem readThrough_lawful : readThrough.Lawful where
  held?_step d op id := by
    cases op with
    | lookup id' now => rfl
    | store id' data now =>
      simp only [readThrough, apply, store, Table.get?_insert, Op.effect, eq_comm (a := id)]
      split <;> rfl
    | recordSubmission response now =>
      simp only [readThrough, apply, recordSubmission, Op.effect]
      cases requestId? response with
      | none => rfl
      | some id' =>
        simp only [store, Table.get?_insert, Option.some.injEq, eq_comm (a := id)]
        split <;> rfl
    | clear => rfl
  window_step d op := by
    cases op with
    | recordSubmission response now =>
      simp only [readThrough, apply, recordSubmission]
      cases requestId? response <;> rfl
    | _ => rfl
  held?_lookup _ _ _ _ := rfl
  window_lookup _ _ _ := rfl
  lookup_snd _ _ _ := rfl
  counters_lookup _ _ _ := rfl

end DataRequests

/-- In suggestions and in data requests a lookup returns the data of the last write to its address
exactly if no clear came after it and it is fresh by the window of the store. Lookups leave all
entries as they are, and an entry that was found stale is not served again before a write. -/
theorem stores_follow_their_writes (w : Window) :
    Typeahead.readThrough.FollowsLog (.new w) w
      ∧ DataRequests.readThrough.FollowsLog (.new w) w :=
  ⟨Typeahead.readThrough_lawful.followsLog (fun _ => rfl) rfl,
    DataRequests.readThrough_lawful.followsLog (fun _ => rfl) rfl⟩

theorem suggestions_for_street_go_stale :
    (∃ d, (Typeahead.readThrough.lookup (Typeahead.readThrough.run (.new 1000)
        [.store "address" "Main St" .null 0]) ("address", " MAIN  st") 500).2 = some d)
    ∧ (Typeahead.readThrough.lookup (Typeahead.readThrough.run (Typeahead.readThrough.lookup
          (Typeahead.readThrough.run (.new 1000) [.store "address" "Main St" .null 0])
          ("address", "main st") 1500).1
        [.clearKind "name"]) ("address", " MAIN  st") 1500).2 = none := by
  have hspelling : normalizeQuery " MAIN  st" = normalizeQuery "Main St" := by decide +kernel
  have haddress : Typeahead.readThrough.address ("address", " MAIN  st")
      = Typeahead.readThrough.address ("address", "main st") := by decide +kernel
  have hstale : Typeahead.readThrough.counters (Typeahead.readThrough.lookup
      (Typeahead.readThrough.run (.new 1000) [.store "address" "Main St" .null 0])
        ("address", "main st") 1500).1
      = (Typeahead.readThrough.counters (Typeahead.readThrough.run (.new 1000)
        [.store "address" "Main St" .null 0])).record .stale := by decide +kernel
  refine ⟨⟨.null, ?_⟩, ?_⟩
  · refine ((stores_follow_their_writes 1000).1.served_iff _ _ _ _).mpr ?_
    refine ⟨⟨.null, 0⟩, ⟨[], _, [], rfl, ?_, by simp⟩, by decide, rfl⟩
    simp only [Typeahead.readThrough, Typeahead.Op.effect, hspelling, ↓reduceIte]
  · have hnow : (1500 : Instant) ≤ 1500 := by decide
    refine (stores_follow_their_writes 1000).1.stays_stale _ _ _ hstale _ ?_ _ _ haddress hnow
    intro op hop e
    rw [List.mem_singleton.mp hop]
    nofun

end SessionGateway
