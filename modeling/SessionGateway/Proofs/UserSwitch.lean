import SessionGateway.Proofs.Provenance

/-!
What a login over a running session leaves in memory. A login drops the profile alone, so a run in
which every user sees only what was brought for them is one in which no user takes over from
another while suggestions or data requests of a token are in memory.
-/

namespace SessionGateway

def Write.IsFor (token : String) (w : Write) : Prop :=
  w.pending.token = some token ∨ w.pending.token = none ∧ w.slot.isSuggestions

theorem Request.typeahead_of_asks? {r : Request} {call : Portal.Call} (h : r.asks? = some call)
    (hs : call.isSuggestions) : ∃ kind, r.route? = some (.typeahead kind) := by
  cases asks_of_asks? h with
  | suggestions route => exact ⟨_, route⟩
  | profile | submission | dataRequest => cases hs

namespace Traced

variable {x : Traced} {e : Event} {es : List Event}

def Clean (x : Traced) : Prop :=
  ∀ token, x.traffic.token? = some token → ∀ s w, x.origin? s = some w → w.IsFor token

/-- An event by which one token takes over from another, while there is something in memory that a
token brought and a login does not drop. -/
def Leaks (x : Traced) (e : Event) : Prop :=
  ∃ old new, x.traffic.token? = some old ∧ (x.step e).traffic.token? = some new ∧ old ≠ new
    ∧ ∃ s w, x.origin? s = some w ∧ s ≠ .profile ∧ w.pending.token.isSome

theorem clean_start (base : Url) (config : Config) : (start base config).Clean := by
  intro token h
  cases h

theorem token?_of_write? {w : Write} (hw : x.traffic.write? e = some w) :
    (x.step e).traffic.token? = x.traffic.token? := by
  rw [Traffic.token?, session?_of_write? hw, Traffic.token?]

theorem origin?_step_of_takeover {old new : String} {s : Slot}
    (hold : x.traffic.token? = some old) (hnew : (x.step e).traffic.token? = some new)
    (hne : old ≠ new) (hs : s ≠ .profile) : (x.step e).origin? s = x.origin? s := by
  have hw : x.traffic.write? e = none := by
    cases hw : x.traffic.write? e with
    | none => rfl
    | some w =>
      rw [token?_of_write? hw, hold] at hnew
      exact absurd (Option.some.inj hnew) hne
  have hc : e.change.clears s = false := by
    rw [step, Traffic.token?, Traffic.session?_step] at hnew
    cases hch : e.change with
    | leave => rw [hch] at hnew; cases hnew
    | enter session => cases s <;> first | rfl | exact absurd rfl hs
    | _ => rfl
  simp [step, hw, hc]

theorem not_clean_of_leaks (hx : x.Clean) (h : x.Leaks e) : ¬ (x.step e).Clean := by
  obtain ⟨old, new, hold, hnew, hne, s, w, ho, hs, ht⟩ := h
  intro hclean
  have hkept : (x.step e).origin? s = some w := by
    rw [origin?_step_of_takeover hold hnew hne hs, ho]
  obtain ⟨token, htoken⟩ := Option.isSome_iff_exists.mp ht
  have of_old := hx old hold s w ho
  have of_new := hclean new hnew s w hkept
  simp only [Write.IsFor, htoken, Option.some.injEq, reduceCtorEq, false_and, or_false]
    at of_old of_new
  exact hne (of_old.symm.trans of_new)

theorem token_of_kept {s : Slot} {w : Write} {token new : String} (h : x.Sound) (hx : x.Clean)
    (he : ¬ x.Leaks e) (hnew : (x.step e).traffic.token? = some new) (ho : x.origin? s = some w)
    (hc : e.change.clears s = false) (hp : w.pending.token = some token) : token = new := by
  cases hold : x.traffic.token? with
  | none =>
    have hn := h.no_session (Option.map_eq_none_iff.mp hold) s w ho
    rw [hp] at hn
    cases hn
  | some old =>
    have of_old := hx old hold s w ho
    simp only [Write.IsFor, hp, Option.some.injEq, reduceCtorEq, false_and, or_false] at of_old
    subst of_old
    refine Decidable.byContradiction fun hne => he ?_
    refine ⟨token, new, hold, hnew, hne, s, w, ho, ?_, by rw [hp]; rfl⟩
    -- a profile that is kept is kept by an event that keeps the session
    rintro rfl
    rw [step, Traffic.token?, Traffic.session?_step, Change.session?_of_not_clears_profile hc,
      ← Traffic.token?, hold] at hnew
    exact hne (Option.some.inj hnew)

theorem clean_step (h : x.Sound) (hx : x.Clean) (he : ¬ x.Leaks e) : (x.step e).Clean := by
  intro new hnew s w ho
  cases hp : w.pending.token with
  | none =>
    have hs := (h.step e).anonymous s w ho hp
    rw [← (h.step e).slot_eq s w ho] at hs
    exact .inr ⟨hp, hs⟩
  | some token =>
    refine .inl (hp.trans (congrArg some ?_))
    rcases origin?_step ho with ⟨hw, -⟩ | ⟨ho, hc⟩
    · rw [token?_of_write? hw, Traffic.token?_eq_of_write? hw hp] at hnew
      exact Option.some.inj hnew
    · exact token_of_kept h hx he hnew ho hc hp

theorem clean_run (h : x.Sound) (hx : x.Clean)
    (hes : ∀ before event after, es = before ++ event :: after → ¬ (x.run before).Leaks event) :
    (x.run es).Clean := by
  -- from the start of the run, so that what is left has the later events only
  induction es generalizing x with
  | nil => exact hx
  | cons e es ih =>
    refine ih (h.step e) (clean_step h hx (hes [] e es rfl)) ?_
    rintro before event after rfl
    exact hes (e :: before) event after rfl

theorem data_of_clean {ticket : Nat} {now : Instant} {r : Request} {v : Json} {token : String}
    (h : x.Sound) (hx : x.Clean) (ht : x.traffic.token? = some token)
    (hr : (x.traffic.step (.arrival ticket now r)).2 = some (.ofAnswer (.data true v))) :
    ∃ s w, x.origin? s = some w ∧ w.entry.data = v
      ∧ (w.pending.token = some token
        ∨ w.pending.token = none ∧ ∃ kind, r.route? = some (.typeahead kind)) := by
  obtain ⟨call, s, hcall, hs, hv⟩ := Traffic.served_of_response hr
  obtain ⟨w, ho, rfl⟩ := origin?_of_served h hv
  refine ⟨s, w, ho, rfl, ?_⟩
  rcases hx token ht s w ho with hw | ⟨hn, hsug⟩
  · exact .inl hw
  · refine .inr ⟨hn, Request.typeahead_of_asks? hcall ?_⟩
    rw [h.slot_eq s w ho] at hsug
    rw [← hsug, Portal.Call.isSuggestions_of_place? hs]

/-- In a run all that is in memory is at every time for the token of the current session, exactly
if no token takes over from another while suggestions or data requests of a token are in memory.
Where that is so, every answer from memory is data that was brought for the current token. What is
in memory are the entries of the marks. -/
theorem clean_iff_no_takeover (base : Url) (config : Config) (es : List Event) :
    (∀ s, ((start base config).run es).traffic.held? s
      = (((start base config).run es).origin? s).map (·.entry))
    ∧ ((∀ before after, es = before ++ after → ((start base config).run before).Clean)
      ↔ ∀ before event after, es = before ++ event :: after →
          ¬ ((start base config).run before).Leaks event)
    ∧ (((start base config).run es).Clean →
      ∀ token, ((start base config).run es).traffic.token? = some token →
        ∀ ticket now r v, (((start base config).run es).traffic.step (.arrival ticket now r)).2
            = some (.ofAnswer (.data true v)) →
          ∃ s w, ((start base config).run es).origin? s = some w ∧ w.entry.data = v
            ∧ (w.pending.token = some token
              ∨ w.pending.token = none ∧ ∃ kind, r.route? = some (.typeahead kind))) := by
  have hs : ((start base config).run es).Sound := sound_run base config es
  refine ⟨hs.held?_eq, ⟨?_, ?_⟩, fun hx _ ht _ _ _ _ => data_of_clean hs hx ht⟩
  · rintro hclean before event after rfl hleaks
    refine not_clean_of_leaks (hclean before (event :: after) rfl) hleaks ?_
    have hnext := hclean (before ++ [event]) after (by simp)
    rwa [run_append] at hnext
  · rintro hno before after rfl
    refine clean_run (sound_start base config) (clean_start base config) ?_
    rintro before' event after' rfl
    exact hno before' event (after' ++ after) (by simp)

theorem response_to_seven {t : Traffic} (ticket : Nat) {v : Json}
    (hv : t.gateway.context.served? 0 (.dataRequest "7") = some v) :
    (t.step (.arrival ticket 0 (Sample.get "/data-requests/7"))).2
      = some (.ofAnswer (.data true v)) := by
  have hasks : (Sample.get "/data-requests/7").asks?.bind (·.place?) = some (.dataRequest "7") := by
    decide +kernel
  obtain ⟨call, hcall, hplace⟩ := Option.bind_eq_some_iff.mp hasks
  exact Traffic.response_of_served hcall rfl hplace hv

theorem clean_while_alice_stays :
    ∃ v, (((start Sample.base {}).run Sample.aliceRequest).traffic.step
        (.arrival 3 0 (Sample.get "/data-requests/7"))).2 = some (.ofAnswer (.data true v))
      ∧ ∃ s w, ((start Sample.base {}).run Sample.aliceRequest).origin? s = some w
        ∧ w.entry.data = v
        ∧ (w.pending.token = some Sample.alice ∨ w.pending.token = none
          ∧ ∃ kind, (Sample.get "/data-requests/7").route? = some (.typeahead kind)) := by
  obtain ⟨-, clean_iff, cached⟩ := clean_iff_no_takeover Sample.base {} Sample.aliceRequest
  have htoken : ∀ n < 3, ((start Sample.base {}).run
      (Sample.aliceRequest.take (n + 1))).traffic.token? = some Sample.alice := by decide +kernel
  have hclean : ((start Sample.base {}).run Sample.aliceRequest).Clean := by
    refine clean_iff.mpr ?_ _ [] (List.append_nil _).symm
    rintro before event after hes ⟨old, new, hold, hnew, hne, -⟩
    have hlength : 3 = before.length + (after.length + 1) :=
      (congrArg List.length hes).trans List.length_append
    have hbefore : before = Sample.aliceRequest.take before.length := by simp [hes]
    have hnext : before ++ [event] = Sample.aliceRequest.take (before.length + 1) := by
      rw [hes, List.take_length_add_append]
      rfl
    have hnew : ((start Sample.base {}).run (before ++ [event])).traffic.token? = some new := by
      rwa [run_append]
    rw [hnext, htoken _ (by omega)] at hnew
    cases hn : before.length with
    | zero =>
      rw [List.eq_nil_of_length_eq_zero hn] at hold
      cases hold
    | succ n =>
      rw [hbefore, hn, htoken _ (by omega)] at hold
      exact hne (Option.some.inj (hold.symm.trans hnew))
  have hserved : (((start Sample.base {}).run Sample.aliceRequest).traffic.gateway.context.served?
      0 (.dataRequest "7")).isSome := by decide +kernel
  obtain ⟨v, hv⟩ := Option.isSome_iff_exists.mp hserved
  have hr := response_to_seven 3 hv
  exact ⟨v, hr, cached hclean _ (htoken 2 (by decide)) 3 0 _ v hr⟩

/-- Alice's data request is still in memory when Bob has logged in, and is answered to him. -/
theorem alice_request_shown_to_bob :
    ((start Sample.base {}).run Sample.twoUsers).traffic.token? = some Sample.bob
      ∧ ∃ w, ((start Sample.base {}).run Sample.twoUsers).origin? (.dataRequest "7") = some w
        ∧ w.pending.token = some Sample.alice ∧ ¬ w.IsFor Sample.bob
        ∧ (((start Sample.base {}).run Sample.twoUsers).traffic.step
            (.arrival 5 0 (Sample.get "/data-requests/7"))).2
          = some (.ofAnswer (.data true w.entry.data)) := by
  have hbob : ((start Sample.base {}).run Sample.twoUsers).traffic.token? = some Sample.bob := by
    decide +kernel
  have hmark : (((start Sample.base {}).run Sample.twoUsers).origin? (.dataRequest "7")).map
      (·.pending.token) = some (some Sample.alice) := by decide +kernel
  have hserved : (((start Sample.base {}).run Sample.twoUsers).traffic.gateway.context.served?
      0 (.dataRequest "7")).isSome := by decide +kernel
  obtain ⟨w, ho, ht⟩ := Option.map_eq_some_iff.mp hmark
  obtain ⟨v, hv⟩ := Option.isSome_iff_exists.mp hserved
  obtain ⟨w', ho', hdata⟩ := origin?_of_served (sound_run Sample.base {} Sample.twoUsers) hv
  obtain rfl : w = w' := Option.some.inj (ho.symm.trans ho')
  refine ⟨hbob, w, ho, ht, ?_, ?_⟩
  · rintro (hb | ⟨hn, -⟩)
    · rw [ht] at hb
      exact absurd hb (by decide)
    · rw [ht] at hn
      cases hn
  · rw [hdata]
    exact response_to_seven 5 hv

end Traced
end SessionGateway
