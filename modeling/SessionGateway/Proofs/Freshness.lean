import Mathlib.Data.List.TakeWhile
import SessionGateway.Proofs.FlatCache
import SessionGateway.Proofs.JsonLexeme
import SessionGateway.Proofs.Percent

/-!
Which entries are fresh, by the exact time since they were written. The age of an entry stops at the
ends of the range of instants and a window does not, so a window beyond the greatest instant takes
every entry for fresh; below that the age is as good as the exact time. Main statement:
`Entry.freshness_by_elapsed`.
-/

namespace SessionGateway

/-! ## Age and elapsed time -/

namespace Entry

variable {e : Entry} {window : Window} {now : Instant}

def elapsed (e : Entry) (now : Instant) : Int := now.toInt - e.timestamp.toInt

theorem age_cases (e : Entry) (now : Instant) :
    (e.age now).toInt = e.elapsed now
      ∨ (Int64.maxValue.toInt < e.elapsed now ∧ (e.age now).toInt = Int64.maxValue.toInt)
      ∨ (e.elapsed now < 0 ∧ (e.age now).toInt < 0) := by
  have hmin : Int64.minValue.toInt < 0 := by decide
  rcases toInt_ofIntClamp_cases (e.elapsed now) with ⟨-, -, hage⟩ | ⟨habove, hage⟩ | ⟨hbelow, hage⟩
  · exact .inl hage
  · exact .inr (.inl ⟨habove, hage⟩)
  · exact .inr (.inr ⟨Int.lt_trans hbelow hmin, Int.lt_of_le_of_lt (Int.le_of_eq hage) hmin⟩)

theorem isFresh_iff :
    e.isFresh window now = true
      ↔ e.elapsed now < window.toNat ∨ Int64.maxValue.toInt < window.toNat := by
  -- where the age is exact a window beyond the instants is beyond it too
  have hle := Int64.toInt_le (e.age now)
  rw [isFresh, decide_eq_true_iff]
  rcases age_cases e now with hage | ⟨habove, hage⟩ | ⟨hbelow, hage⟩ <;> omega

theorem isFresh_iff_elapsed_lt_iff :
    (e.isFresh window now = true ↔ e.elapsed now < window.toNat)
      ↔ ¬ (Int64.maxValue.toInt < window.toNat ∧ window.toNat ≤ e.elapsed now) := by
  rw [isFresh_iff]
  omega

end Entry

/-! ## Numbers in a query -/

namespace Text

open Json (decimalChars intChars)

theorem digits?_decimalChars (n : Nat) : digits? (decimalChars n) = some n := by
  have hne := Json.decimalChars_ne_nil n
  have hdigits : (decimalChars n).all Char.isDigit = true :=
    List.all_eq_true.mpr fun c hc => Nat.isDigit_of_mem_toDigits (by decide) (by decide) hc
  have hvalue := Json.digitsValue_decimalChars n
  rw [Json.digitsValue] at hvalue
  simp [digits?, hne, hdigits, hvalue]

theorem exists_decimalChars_cons (n : Nat) :
    ∃ c cs, decimalChars n = c :: cs ∧ c ≠ '+' ∧ c ≠ '-' := by
  obtain ⟨c, cs, hcons⟩ := List.exists_cons_of_ne_nil (Json.decimalChars_ne_nil n)
  have hdigit : Json.isDigit c = true :=
    Json.isDigit_of_mem_decimalChars (hcons ▸ List.mem_cons_self)
  refine ⟨c, cs, hcons, ?_, ?_⟩ <;> rintro rfl <;> exact absurd hdigit (by decide)

theorem natural?_decimalChars {greatest n : Nat} (h : n ≤ greatest) :
    natural? greatest (String.ofList (decimalChars n)) = some n := by
  obtain ⟨c, cs, hcons, hplus, -⟩ := exists_decimalChars_cons n
  have hread := digits?_decimalChars n
  rw [hcons] at hread
  rw [natural?, String.toList_ofList, hcons]
  split
  · rename_i heq
    exact absurd (List.cons.inj heq).1 hplus
  · simp [hread, h]

theorem integer?_intChars {least greatest n : Int} (hleast : least ≤ n) (hgreatest : n ≤ greatest) :
    integer? least greatest (String.ofList (intChars n)) = some n := by
  have hrange : (some n).filter (fun m => least ≤ m && m ≤ greatest) = some n := by
    simp [hleast, hgreatest]
  rw [integer?, String.toList_ofList, intChars]
  by_cases hneg : n < 0
  · have hvalue : -(n.natAbs : Int) = n := by omega
    simp only [if_pos hneg, digits?_decimalChars]
    -- digits become a whole number inside the option, by a bind that computes
    show (some (-(n.natAbs : Int))).filter (fun m => least ≤ m && m ≤ greatest) = some n
    rw [hvalue, hrange]
  · obtain ⟨c, cs, hcons, hplus, hminus⟩ := exists_decimalChars_cons n.natAbs
    have hread := digits?_decimalChars n.natAbs
    have hvalue : (n.natAbs : Int) = n := by omega
    rw [hcons] at hread
    rw [if_neg hneg, hcons]
    split
    · rename_i heq
      exact absurd (List.cons.inj heq).1 hplus
    · rename_i heq
      exact absurd (List.cons.inj heq).1 hminus
    · rw [hread]
      show (some (n.natAbs : Int)).filter (fun m => least ≤ m && m ≤ greatest) = some n
      rw [hvalue, hrange]

end Text

/-! ## Questions by window and time -/

namespace FreshnessQuery

def pairs (q : FreshnessQuery) : List (String × String) :=
  (q.window.map fun w => ("interval_ms", String.ofList (Json.decimalChars w.toNat))).toList
    ++ (q.now.map fun t => ("now", String.ofList (Json.intChars t.toInt))).toList

theorem ofPairs?_pairs (q : FreshnessQuery) : ofPairs? q.pairs = some q := by
  have hwindow (w : Window) : Text.natural? (UInt64.size - 1)
      (String.ofList (Json.decimalChars w.toNat)) = some w.toNat :=
    Text.natural?_decimalChars (Nat.le_sub_one_of_lt w.toNat_lt_size)
  have hnow (t : Instant) : Text.integer? Int64.minValue.toInt Int64.maxValue.toInt
      (String.ofList (Json.intChars t.toInt)) = some t.toInt :=
    Text.integer?_intChars (Int64.minValue_le_toInt t) (Int64.toInt_le t)
  obtain ⟨window, now⟩ := q
  have hfirst : single? (pairs ⟨window, now⟩) "interval_ms"
      = some (window.map fun w => String.ofList (Json.decimalChars w.toNat)) := by
    cases window <;> cases now <;> simp [single?, pairs]
  have hsecond : single? (pairs ⟨window, now⟩) "now"
      = some (now.map fun t => String.ofList (Json.intChars t.toInt)) := by
    cases window <;> cases now <;> simp [single?, pairs]
  rw [ofPairs?, hfirst, hsecond]
  cases window <;> cases now <;>
    simp only [Option.map_some, Option.map_none, Option.mapM_some, Option.mapM_none,
      Option.map_eq_map, Option.bind_eq_bind, Option.bind_some, Option.pure_def, hwindow, hnow,
      UInt64.ofNat_toNat, Int64.ofInt_toInt]

def write (q : FreshnessQuery) : List Char := Text.Form.write q.pairs

theorem ofPairs?_write (q : FreshnessQuery) : ofPairs? (Text.Form.pairs q.write) = some q := by
  rw [write, Text.Form.pairs_write, ofPairs?_pairs]

end FreshnessQuery

namespace Request

structure ShowsEntry (r : Request) (category key : String) (q : FreshnessQuery) : Prop where
  route : ∃ rawCategory rawKey, r.route? = some (.cacheKey rawCategory rawKey)
    ∧ parameter? rawCategory = some category ∧ parameter? rawKey = some key
  method : r.method = .get
  query : FreshnessQuery.ofPairs? (Text.Form.pairs r.query) = some q

def IsPlain (r : Request) : Prop :=
  r.target.toList.head? = some '/' ∧ ∀ c ∈ r.target.toList, c ≠ '?' ∧ c ≠ '#'

def ask (r : Request) (q : FreshnessQuery) : Request :=
  { r with target := r.target ++ "?" ++ String.ofList q.write }

variable {r : Request} {q : FreshnessQuery}

theorem toList_target_ask (r : Request) (q : FreshnessQuery) :
    (r.ask q).target.toList = r.target.toList ++ '?' :: q.write := by
  simp [ask]

theorem path_ask (h : r.IsPlain) : (r.ask q).path = r.path := by
  obtain ⟨hhead, hplain⟩ := h
  have hdark : ∀ c ∈ r.target.toList, (! endsTargetPath c) = true := fun c hc => by
    simp [endsTargetPath, hplain c hc]
  have hhead' : (r.target.toList ++ '?' :: q.write).head? = some '/' := by
    rw [List.head?_append, hhead]
    rfl
  have hend : (! endsTargetPath '?') = false := rfl
  simp [path, toList_target_ask, hhead, hhead', List.takeWhile_append_of_pos hdark, hend,
    List.takeWhile_eq_self_iff.mpr hdark]

theorem query_ask (h : r.IsPlain) : (r.ask q).query = q.write := by
  have hdark : ∀ c ∈ r.target.toList, (c != '?') = true := fun c hc => by simp [h.2 c hc]
  have hwhole : ∀ c ∈ r.target.toList ++ '?' :: q.write, (c != '#') = true := by
    simp only [List.mem_append, List.mem_cons, bne_iff_ne]
    rintro c (hc | rfl | hc)
    · exact (h.2 c hc).2
    · decide
    · rintro rfl
      exact absurd (Text.Form.of_mem_write hc) (by decide)
  rw [query, toList_target_ask, List.takeWhile_eq_self_iff.mpr hwhole]
  simp [List.dropWhile_append_of_pos hdark]

theorem showsEntry_ask {category key : String} {before : FreshnessQuery} (h : r.IsPlain)
    (hshows : r.ShowsEntry category key before) : (r.ask q).ShowsEntry category key q where
  route := by
    have hroute : (r.ask q).route? = r.route? := by rw [route?, path_ask h]; rfl
    rw [hroute]
    exact hshows.route
  method := hshows.method
  query := by rw [query_ask h, FreshnessQuery.ofPairs?_write]

end Request

namespace Gateway

theorem arrive_of_showsEntry {g : Gateway} {clock : Instant} {r : Request} {category key : String}
    {q : FreshnessQuery} {e : Entry} (h : r.ShowsEntry category key q)
    (held : g.context.cache.get? category key = some e) :
    (g.arrive clock r).2 = .finished (.ofAnswer
      (.entry category key e (q.window.getD defaultWindow) (q.now.getD clock))) := by
  obtain ⟨rawCategory, rawKey, hroute, hcategory, hkey⟩ := h.route
  have hput : r.method ≠ .put := by simp [h.method]
  have hhead : (r.method == .head) = false := by simp [h.method]
  rw [arrive_of_cacheAnswer (.found hroute hput hcategory hkey h.query held), hhead]
  rfl

end Gateway

namespace Entry

/-- An entry is fresh if less time than the window has passed since it was written, or if the window
is beyond the greatest instant; so only a window beyond it that has passed makes the judgement other
than by the exact time. The judgement is what a request for the entry is told, by the window and at
the time that it asks for, and there is a request that asks so for any of them. -/
theorem freshness_by_elapsed (e : Entry) :
    (∀ (window : Window) (now : Instant),
      (e.isFresh window now = true
        ↔ e.elapsed now < window.toNat ∨ Int64.maxValue.toInt < window.toNat)
      ∧ ((e.isFresh window now = true ↔ e.elapsed now < window.toNat)
        ↔ ¬ (Int64.maxValue.toInt < window.toNat ∧ window.toNat ≤ e.elapsed now)))
    ∧ (∀ (g : Gateway) (clock : Instant) (r : Request) (category key : String)
        (q : FreshnessQuery), r.ShowsEntry category key q →
      g.context.cache.get? category key = some e →
      ∃ v, (g.arrive clock r).2 = .finished ⟨200, .json v, [], false⟩
        ∧ v.get? "valid"
          = some (.bool (e.isFresh (q.window.getD defaultWindow) (q.now.getD clock))))
    ∧ ∀ (r : Request) (category key : String) (before q : FreshnessQuery), r.IsPlain →
      r.ShowsEntry category key before → (r.ask q).ShowsEntry category key q := by
  refine ⟨fun window now => ⟨isFresh_iff, isFresh_iff_elapsed_lt_iff⟩, ?_,
    fun r category key before q => Request.showsEntry_ask⟩
  intro g clock r category key q hshows held
  exact ⟨_, Gateway.arrive_of_showsEntry hshows held, rfl⟩

end Entry

namespace Sample

def early : Entry := ⟨.null, 0⟩

def oldest : Entry := ⟨.null, Int64.minValue⟩

def longest : Window := .ofNat (UInt64.size - 1)

def holding (e : Entry) : Gateway :=
  ⟨base, { Context.new {} with cache := CategorizedCache.empty.insert "a" "b" e }⟩

def look : Request := get "/cache/a/b"

theorem look_isPlain : look.IsPlain := by
  have hall : look.target.toList.all (fun c => c != '?' && c != '#') = true := by decide +kernel
  refine ⟨by decide +kernel, fun c hc => ?_⟩
  simpa using List.all_eq_true.mp hall c hc

theorem look_showsEntry : look.ShowsEntry "a" "b" ⟨none, none⟩ where
  route := ⟨['a'], ['b'], by decide +kernel, by decide +kernel, by decide +kernel⟩
  method := rfl
  query := by decide +kernel

theorem get?_holding (e : Entry) : (holding e).context.cache.get? "a" "b" = some e := by
  simp [holding, CategorizedCache.get?_insert]

end Sample

namespace Entry

theorem early_entry_judged :
    Sample.look.IsPlain ∧ Sample.look.ShowsEntry "a" "b" ⟨none, none⟩
    ∧ (∃ v, ((Sample.holding Sample.early).arrive 0 (Sample.look.ask ⟨some 8, some 7⟩)).2
        = .finished ⟨200, .json v, [], false⟩ ∧ v.get? "valid" = some (.bool true))
    ∧ ∃ v, ((Sample.holding Sample.early).arrive 0 (Sample.look.ask ⟨some 7, some 7⟩)).2
        = .finished ⟨200, .json v, [], false⟩ ∧ v.get? "valid" = some (.bool false) := by
  obtain ⟨-, told, asked⟩ := freshness_by_elapsed Sample.early
  have asks (q : FreshnessQuery) : (Sample.look.ask q).ShowsEntry "a" "b" q :=
    asked _ _ _ _ q Sample.look_isPlain Sample.look_showsEntry
  have held := Sample.get?_holding Sample.early
  refine ⟨Sample.look_isPlain, Sample.look_showsEntry, ?_, ?_⟩
  · exact told _ 0 _ _ _ _ (asks ⟨some 8, some 7⟩) held
  · exact told _ 0 _ _ _ _ (asks ⟨some 7, some 7⟩) held

/-- At the greatest instant the time since the least one is the longest window, and an entry from
there is fresh by it all the same. -/
theorem oldest_entry_fresh_when_window_is_over :
    Sample.oldest.elapsed Int64.maxValue = Sample.longest.toNat
    ∧ Sample.oldest.isFresh Sample.longest Int64.maxValue = true := by
  decide +kernel

end Entry
end SessionGateway
