import SessionGateway.Proofs.Steps

/-!
Where the entries in memory come from. A run is followed with a mark at each place: the write that
its entry goes back to. What the marks and the calls under way have in common with the session is
`Sound`, which every event preserves.
-/

namespace SessionGateway

def Event.IsLogout : Event → Prop
  | .arrival _ _ r => r.IsLogout
  | .completion _ _ _ => False

theorem Event.clears_of_isLogout {e : Event} (h : e.IsLogout) (s : Slot) :
    e.change.clears s = true := by
  cases e with
  | completion ticket now outcome => exact h.elim
  | arrival ticket now r =>
    obtain ⟨hr, hm⟩ := h
    simp [Event.change, Request.change, hr, hm, Request.changeAt, Change.clears]

/-- Traffic in which each place is marked with the write that its entry goes back to. -/
structure Traced where
  traffic : Traffic
  origin? : Slot → Option Write

namespace Traced

def start (base : Url) (config : Config) : Traced :=
  ⟨.quiet ⟨base, .new config⟩, fun _ => none⟩

def step (x : Traced) (e : Event) : Traced where
  traffic := (x.traffic.step e).1
  origin? s :=
    if (x.traffic.write? e).map (·.slot) = some s then x.traffic.write? e
    else if e.change.clears s then none
    else x.origin? s

def run (x : Traced) (es : List Event) : Traced := es.foldl step x

variable {x : Traced} {e : Event} {es : List Event} {s : Slot} {w : Write}

theorem run_append (x : Traced) (es fs : List Event) : x.run (es ++ fs) = (x.run es).run fs :=
  List.foldl_append

theorem traffic_run (x : Traced) (es : List Event) :
    (x.run es).traffic = (x.traffic.run es).1 := by
  induction es generalizing x with
  | nil => rfl
  | cons e es ih => exact ih (x.step e)

theorem base_run (x : Traced) (es : List Event) :
    (x.run es).traffic.gateway.base = x.traffic.gateway.base := by
  rw [traffic_run, Traffic.base_run]

theorem origin?_step (h : (x.step e).origin? s = some w) :
    (x.traffic.write? e = some w ∧ w.slot = s)
      ∨ (x.origin? s = some w ∧ e.change.clears s = false) := by
  simp only [step] at h
  split at h
  · rename_i hs
    rw [h] at hs
    exact .inl ⟨h, Option.some.inj hs⟩
  · split at h
    · cases h
    · rename_i hc
      exact .inr ⟨h, by simpa using hc⟩

theorem origin?_run (h : (x.run es).origin? s = some w) :
    (x.origin? s = some w ∧ ∀ e ∈ es, e.change.clears s = false)
      ∨ ∃ before event after, es = before ++ event :: after
        ∧ (x.run before).traffic.write? event = some w ∧ w.slot = s
        ∧ ∀ e ∈ after, e.change.clears s = false := by
  -- what the rest of the run says of the mark after the first event is said of the first event
  induction es generalizing x with
  | nil => exact .inl ⟨h, by simp⟩
  | cons e es ih =>
    rcases ih h with ⟨hx, hes⟩ | ⟨before, event, after, rfl, hw, hs, hafter⟩
    · rcases origin?_step hx with ⟨hw, hs⟩ | ⟨ho, hc⟩
      · exact .inr ⟨[], e, es, rfl, hw, hs, hes⟩
      · exact .inl ⟨ho, by simpa [hc] using hes⟩
    · exact .inr ⟨e :: before, event, after, rfl, hw, hs, hafter⟩

/-- Every mark of a run from the start has a last write in the run, after which its place was not
emptied. -/
theorem exists_write {base : Url} {config : Config}
    (h : ((start base config).run es).origin? s = some w) :
    ∃ before event after, es = before ++ event :: after
      ∧ ((start base config).run before).traffic.write? event = some w ∧ w.slot = s
      ∧ ∀ e ∈ after, e.change.clears s = false := by
  rcases origin?_run h with ⟨hn, -⟩ | h
  · cases hn
  · exact h

/-- Marks belong to the entries, and calls and entries to sessions. Only suggestions can be
without a token. -/
structure Sound (x : Traced) : Prop where
  held?_eq : ∀ s, x.traffic.held? s = (x.origin? s).map (·.entry)
  slot_eq : ∀ s w, x.origin? s = some w → w.slot = s
  calls : ∀ y ∈ x.traffic.underWay, y.2.pending.token = none → y.2.pending.call.isSuggestions
  anonymous : ∀ s w, x.origin? s = some w → w.pending.token = none → s.isSuggestions
  no_session : x.traffic.session? = none → ∀ s w, x.origin? s = some w → w.pending.token = none
  profile : ∀ w, x.origin? .profile = some w → w.pending.token = x.traffic.token?

theorem sound_start (base : Url) (config : Config) : (start base config).Sound where
  held?_eq s := by simp [start, Traffic.held?, Traffic.quiet]
  slot_eq _ _ h := by cases h
  calls _ h := by cases h
  anonymous _ _ h := by cases h
  no_session _ _ _ h := by cases h
  profile _ h := by cases h

theorem held?_eq_step (h : x.Sound) (e : Event) (s : Slot) :
    (x.step e).traffic.held? s = ((x.step e).origin? s).map (·.entry) := by
  simp only [step, Traffic.held?_step, h.held?_eq]
  split
  · rfl
  · split <;> rfl

theorem calls_step (h : x.Sound) {y : Nat × Waiting} (hy : y ∈ (x.step e).traffic.underWay)
    (hn : y.2.pending.token = none) : y.2.pending.call.isSuggestions := by
  rcases Traffic.mem_underWay_step hy with hy | ⟨now, r, call, -, -, hc⟩
  · exact h.calls y hy hn
  · exact Context.isSuggestions_of_inquire hc hn

theorem isSuggestions_of_write? (h : x.Sound) (hw : x.traffic.write? e = some w)
    (hn : w.pending.token = none) : w.slot.isSuggestions := by
  obtain ⟨ticket, outcome, y, -, hy, hp, -, hs, -⟩ := Traffic.write?_eq_some hw
  rw [Portal.Call.isSuggestions_of_slot? hs, ← hp]
  exact h.calls (ticket, y) (Traffic.mem_of_waiting? hy) (by rw [hp, hn])

theorem session?_of_write? (hw : x.traffic.write? e = some w) :
    (x.step e).traffic.session? = x.traffic.session? := by
  rw [step, Traffic.session?_step, Traffic.change_of_write? hw]
  rfl

theorem no_session_step (h : x.Sound) (hn : (x.step e).traffic.session? = none)
    (ho : (x.step e).origin? s = some w) : w.pending.token = none := by
  rcases origin?_step ho with ⟨hw, -⟩ | ⟨ho, hc⟩
  · rw [session?_of_write? hw] at hn
    cases hp : w.pending.token with
    | none => rfl
    | some token =>
      have current := Traffic.token?_eq_of_write? hw hp
      rw [Traffic.token?, hn] at current
      cases current
  · rw [step, Traffic.session?_step] at hn
    exact h.no_session (Change.session?_eq_none_of_not_clears hn hc) s w ho

theorem profile_step (h : x.Sound) (ho : (x.step e).origin? .profile = some w) :
    w.pending.token = (x.step e).traffic.token? := by
  rcases origin?_step ho with ⟨hw, hs⟩ | ⟨ho, hc⟩
  · rw [Traffic.token?, session?_of_write? hw]
    cases hp : w.pending.token with
    | none =>
      -- only suggestions are written without a token, and they have places of their own
      have suggested := isSuggestions_of_write? h hw hp
      rw [hs] at suggested
      cases suggested
    | some token => exact (Traffic.token?_eq_of_write? hw hp).symm
  · rw [h.profile w ho, step, Traffic.token?, Traffic.token?, Traffic.session?_step,
      Change.session?_of_not_clears_profile hc]

theorem Sound.step (h : x.Sound) (e : Event) : (x.step e).Sound where
  held?_eq := held?_eq_step h e
  slot_eq s w ho := by
    rcases origin?_step ho with ⟨-, hs⟩ | ⟨ho, -⟩
    · exact hs
    · exact h.slot_eq s w ho
  calls _ := calls_step h
  anonymous s w ho hn := by
    rcases origin?_step ho with ⟨hw, rfl⟩ | ⟨ho, -⟩
    · exact isSuggestions_of_write? h hw hn
    · exact h.anonymous s w ho hn
  no_session hn _ _ := no_session_step h hn
  profile _ := profile_step h

theorem Sound.run (h : x.Sound) (es : List Event) : (x.run es).Sound := by
  induction es generalizing x with
  | nil => exact h
  | cons e es ih => exact ih (h.step e)

theorem origin?_of_served {now : Instant} {v : Json} (h : x.Sound)
    (hv : x.traffic.gateway.context.served? now s = some v) :
    ∃ w, x.origin? s = some w ∧ w.entry.data = v := by
  obtain ⟨entry, he, -, rfl⟩ := Context.served?_eq_some_iff.mp hv
  have hentry := h.held?_eq s
  rw [Traffic.held?, he] at hentry
  obtain ⟨w, ho, rfl⟩ := Option.map_eq_some_iff.mp hentry.symm
  exact ⟨w, ho, rfl⟩

theorem held?_eq_none_of_no_session (h : x.Sound) (hn : x.traffic.session? = none) (s : Slot)
    (hs : s.isSuggestions = false) : x.traffic.held? s = none := by
  rw [h.held?_eq, Option.map_eq_none_iff, Option.eq_none_iff_forall_ne_some]
  intro w hw
  have suggested := h.anonymous s w hw (h.no_session hn s w hw)
  rw [hs] at suggested
  cases suggested

theorem sound_run (base : Url) (config : Config) (es : List Event) :
    ((start base config).run es).Sound :=
  (sound_start base config).run es

end Traced

/-! ## Requests of two users -/

namespace Sample

def base : Url := ⟨"http", some ⟨"", none, .name "portal", none⟩, .segments [], none, none, false⟩

/-- A token whose claims name `a` as its subject. -/
def alice : String := "h.eyJzdWIiOiJhIn0.s"

def bob : String := "h.eyJzdWIiOiJiIn0.s"

/-- A token that expires ten seconds after the start of time. -/
def brief : String := "h.eyJleHAiOjEwfQ.s"

def login (token : String) : Request :=
  ⟨.post, "/session", some "application/json",
    Text.Utf8.encode ("\x7b\"token\":\"" ++ token ++ "\"\x7d").toList⟩

def logout : Request := ⟨.delete, "/session", none, []⟩

def get (target : String) : Request := ⟨.get, target, none, []⟩

def one : Portal.Outcome := .replied ⟨200, [0x31]⟩

def aliceRequest : List Event :=
  [.arrival 1 0 (login alice), .arrival 2 0 (get "/data-requests/7"), .completion 2 0 one]

def twoUsers : List Event :=
  aliceRequest ++ [.arrival 3 0 (get "/data-requests/8"), .arrival 4 0 (login bob)]

def profileOf (token : String) : List Event :=
  [.arrival 1 0 (login token), .arrival 2 0 (get "/session/profile"), .completion 2 0 one]

end Sample
end SessionGateway
