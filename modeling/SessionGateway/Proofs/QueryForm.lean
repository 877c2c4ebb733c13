import SessionGateway.Proofs.Utf8
import SessionGateway.Session.Typeahead

/-!
The normal form of queries is stable. Lower-case letters have no lower case of their own and are
never blank, and blanks hide the letters behind them from a sigma; both is read off the tables once.
So lowering goes word by word. Main statement: `normalizeQuery_canonical`.
-/

namespace SessionGateway.Text

/-- The numbers from `first` to `last`, `gap` apart; with no gap `first` alone. -/
structure Steps where
  first : Nat
  last : Nat
  gap : Nat

namespace Steps

def Has (s : Steps) (n : Nat) : Prop := (∃ k, n = s.first + s.gap * k) ∧ n ≤ s.last

/-- Whether two runs of numbers lie beside each other, or in different classes modulo what their
gaps have in common. -/
def apart (s t : Steps) : Bool :=
  (Nat.blt s.last t.first).or ((Nat.blt t.last s.first).or
    (! Nat.beq (s.first % Nat.gcd s.gap t.gap) (t.first % Nat.gcd s.gap t.gap)))

theorem not_has_of_apart {s t : Steps} {n : Nat} (h : s.apart t = true) (hs : s.Has n) :
    ¬ t.Has n := by
  rintro ⟨⟨j, hj⟩, ht⟩
  obtain ⟨⟨k, hk⟩, hs⟩ := hs
  obtain ⟨a, ha⟩ := Nat.gcd_dvd_left s.gap t.gap
  obtain ⟨b, hb⟩ := Nat.gcd_dvd_right s.gap t.gap
  have same : s.first + Nat.gcd s.gap t.gap * (a * k)
      = t.first + Nat.gcd s.gap t.gap * (b * j) := by
    rw [← Nat.mul_assoc, ← Nat.mul_assoc, ← ha, ← hb, ← hk, ← hj]
  have class_eq : s.first % Nat.gcd s.gap t.gap = t.first % Nat.gcd s.gap t.gap := by
    rw [← Nat.add_mul_mod_self_left s.first _ (a * k), same, Nat.add_mul_mod_self_left]
  simp only [apart, class_eq, Nat.blt_eq, Bool.or_eq_true, Nat.beq_refl, Bool.not_true,
    Bool.false_eq_true, or_false] at h
  omega

theorem has_iff_of_gap_one {first last n : Nat} :
    (⟨first, last, 1⟩ : Steps).Has n ↔ first ≤ n ∧ n ≤ last := by
  constructor
  · rintro ⟨⟨k, hk⟩, hn⟩
    exact ⟨by simp only at hk; omega, hn⟩
  · rintro ⟨hfirst, hlast⟩
    exact ⟨⟨n - first, by simp only; omega⟩, hlast⟩

end Steps

namespace ImageRow

def gap (row : ImageRow) : Nat := if row.first = row.last then 0 else row.stride

def sources (row : ImageRow) : Steps := ⟨row.first, row.last, row.gap⟩

def images (row : ImageRow) : List Steps :=
  row.image.map fun a => ⟨a, a + (row.last - row.first), row.gap⟩

theorem image?_eq_some {row : ImageRow} {n : Nat} {ns : List Nat} (h : row.image? n = some ns) :
    row.sources.Has n ∧ ∀ m ∈ ns, ∃ s ∈ row.images, s.Has m := by
  unfold image? at h
  split at h
  · rename_i hn
    simp only [Bool.and_eq_true, decide_eq_true_eq, beq_iff_eq] at hn
    obtain ⟨⟨hfirst, hlast⟩, hstride⟩ := hn
    have hstep : ∃ k, n - row.first = row.gap * k := by
      unfold gap
      split
      · exact ⟨0, by omega⟩
      · exact Nat.dvd_of_mod_eq_zero hstride
    obtain ⟨k, hk⟩ := hstep
    cases h
    refine ⟨⟨⟨k, by simp only [sources]; omega⟩, hlast⟩, fun m hm => ?_⟩
    obtain ⟨a, ha, rfl⟩ := List.mem_map.mp hm
    exact ⟨_, List.mem_map.mpr ⟨a, ha, rfl⟩, ⟨k, by rw [hk]⟩, by simp only; omega⟩
  · cases h

end ImageRow

def blankSteps : List Steps :=
  [⟨0x09, 0x0D, 1⟩, ⟨0x20, 0x20, 1⟩, ⟨0x85, 0x85, 1⟩, ⟨0xA0, 0xA0, 1⟩, ⟨0x1680, 0x1680, 1⟩,
    ⟨0x2000, 0x200A, 1⟩, ⟨0x2028, 0x2029, 1⟩, ⟨0x202F, 0x202F, 1⟩, ⟨0x205F, 0x205F, 1⟩,
    ⟨0x3000, 0x3000, 1⟩]

def capitalSigma : Steps := ⟨0x3A3, 0x3A3, 1⟩

def surrogates : Steps := ⟨0xD800, 0xDFFF, 1⟩

theorem exists_blankSteps {c : Char} (h : isBlank c = true) : ∃ s ∈ blankSteps, s.Has c.toNat := by
  simp only [isBlank, Bool.or_eq_true, Bool.and_eq_true, decide_eq_true_eq, beq_iff_eq] at h
  simp only [blankSteps, List.mem_cons, List.not_mem_nil, or_false, exists_eq_or_imp,
    exists_eq_left, Steps.has_iff_of_gap_one]
  omega

/-! ## What the table of letters says -/

theorem images_apart_sources :
    (lowerRows.all fun row => row.images.all fun s =>
      lowerRows.all fun other => s.apart other.sources) = true := by
  decide +kernel

theorem images_apart_others :
    (lowerRows.all fun row => row.images.all fun s =>
      (Nat.blt s.last 0x110000).and ((capitalSigma :: surrogates :: blankSteps).all s.apart))
        = true := by
  decide +kernel

theorem sources_apart_blanks :
    (lowerRows.all fun row => blankSteps.all row.sources.apart) = true := by
  decide +kernel

theorem image_ne_nil : (lowerRows.all fun row => ! row.image.isEmpty) = true := by
  decide +kernel

/-! ## Lower case -/

theorem lowerChar_cases (c : Char) :
    (lowerChar c = [c]) ∨ ∃ row ∈ lowerRows, ∃ ns, row.image? c.toNat = some ns
      ∧ lowerChar c = ns.map Char.ofNat := by
  unfold lowerChar
  split
  · rename_i ns hns
    obtain ⟨row, hrow, himage⟩ := List.exists_of_findSome?_eq_some hns
    exact .inr ⟨row, hrow, ns, himage, rfl⟩
  · exact .inl rfl

theorem lowerChar_of_not_source {c : Char} (h : ∀ row ∈ lowerRows, ¬ row.sources.Has c.toNat) :
    lowerChar c = [c] := by
  rcases lowerChar_cases c with hc | ⟨row, hrow, ns, hns, -⟩
  · exact hc
  · exact absurd (ImageRow.image?_eq_some hns).1 (h row hrow)

theorem lowerChar_ne_nil (c : Char) : lowerChar c ≠ [] := by
  rcases lowerChar_cases c with hc | ⟨row, hrow, ns, hns, hc⟩
  · simp [hc]
  · have hrow : row.image ≠ [] := by simpa using List.all_eq_true.mp image_ne_nil row hrow
    unfold ImageRow.image? at hns
    split at hns
    · cases hns
      simpa [hc] using hrow
    · cases hns

/-- A letter goes to itself, or its code point has a row and that of each of its lower-case letters
is among the images of the row. -/
theorem of_mem_lowerChar {c d : Char} (h : d ∈ lowerChar c) :
    (d = c ∧ lowerChar c = [c]) ∨ ∃ row ∈ lowerRows, row.sources.Has c.toNat
      ∧ ∃ s ∈ row.images, s.Has d.toNat := by
  rcases lowerChar_cases c with hc | ⟨row, hrow, ns, hns, hc⟩
  · rw [hc, List.mem_singleton] at h
    exact .inl ⟨h, hc⟩
  · rw [hc] at h
    obtain ⟨m, hm, rfl⟩ := List.mem_map.mp h
    obtain ⟨hsource, himages⟩ := ImageRow.image?_eq_some hns
    obtain ⟨s, hs, hms⟩ := himages m hm
    have others := List.all_eq_true.mp (List.all_eq_true.mp images_apart_others row hrow) s hs
    simp only [Bool.and_eq_true, Nat.blt_eq, List.all_cons] at others
    have hsize : m < 0x110000 := Nat.lt_of_le_of_lt hms.2 others.1
    have hsurrogate := Steps.not_has_of_apart others.2.2.1 hms
    rw [surrogates, Steps.has_iff_of_gap_one] at hsurrogate
    have hvalid : m.isValidChar := by
      unfold Nat.isValidChar
      omega
    refine .inr ⟨row, hrow, hsource, s, hs, ?_⟩
    rwa [toNat_ofNat_of_isValidChar hvalid]

def Settled (c : Char) : Prop := c ≠ '\u03A3' ∧ lowerChar c = [c]

theorem settled_of_mem_lowerChar {c d : Char} (hc : c ≠ '\u03A3') (h : d ∈ lowerChar c) :
    Settled d := by
  rcases of_mem_lowerChar h with ⟨rfl, hd⟩ | ⟨row, hrow, -, s, hs, hd⟩
  · exact ⟨hc, hd⟩
  · have sources := List.all_eq_true.mp (List.all_eq_true.mp images_apart_sources row hrow) s hs
    have others := List.all_eq_true.mp (List.all_eq_true.mp images_apart_others row hrow) s hs
    simp only [Bool.and_eq_true, List.all_cons] at others
    refine ⟨?_, lowerChar_of_not_source fun other hother => ?_⟩
    · rintro rfl
      exact Steps.not_has_of_apart others.2.1 hd (Steps.has_iff_of_gap_one.mpr (by decide))
    · exact Steps.not_has_of_apart (List.all_eq_true.mp sources other hother) hd

theorem isBlank_of_mem_lowerChar {c d : Char} (h : d ∈ lowerChar c) : isBlank d = isBlank c := by
  rcases of_mem_lowerChar h with ⟨rfl, -⟩ | ⟨row, hrow, hc, s, hs, hd⟩
  · rfl
  · have others := List.all_eq_true.mp (List.all_eq_true.mp images_apart_others row hrow) s hs
    simp only [Bool.and_eq_true, List.all_cons] at others
    have hdark : isBlank d = false := by
      rw [Bool.eq_false_iff]
      intro hblank
      obtain ⟨t, ht, hdt⟩ := exists_blankSteps hblank
      exact Steps.not_has_of_apart (List.all_eq_true.mp others.2.2.2 t ht) hd hdt
    have hcdark : isBlank c = false := by
      rw [Bool.eq_false_iff]
      intro hblank
      obtain ⟨t, ht, hct⟩ := exists_blankSteps hblank
      have hrows := List.all_eq_true.mp (List.all_eq_true.mp sources_apart_blanks row hrow) t ht
      exact Steps.not_has_of_apart hrows hc hct
    rw [hdark, hcdark]

theorem lowerChar_of_isBlank {c : Char} (h : isBlank c = true) : lowerChar c = [c] := by
  obtain ⟨t, ht, hct⟩ := exists_blankSteps h
  refine lowerChar_of_not_source fun row hrow hc => ?_
  have hrows := List.all_eq_true.mp (List.all_eq_true.mp sources_apart_blanks row hrow) t ht
  exact Steps.not_has_of_apart hrows hc hct

theorem lowerSigma_cases (before after : List Char) :
    lowerSigma before after = '\u03C2' ∨ lowerSigma before after = '\u03C3' := by
  unfold lowerSigma
  split
  · exact .inl rfl
  · exact .inr rfl

theorem settled_lowerSigma (before after : List Char) : Settled (lowerSigma before after) := by
  rcases lowerSigma_cases before after with h | h
  · rw [h]
    exact ⟨by decide, by decide +kernel⟩
  · rw [h]
    exact ⟨by decide, by decide +kernel⟩

theorem isBlank_lowerSigma (before after : List Char) :
    isBlank (lowerSigma before after) = false := by
  rcases lowerSigma_cases before after with h | h <;> rw [h] <;> decide

theorem settled_of_mem_lowerAfter {before cs : List Char} {d : Char}
    (h : d ∈ lowerAfter before cs) : Settled d := by
  induction cs generalizing before with
  | nil => cases h
  | cons c cs ih =>
    rw [lowerAfter] at h
    split at h
    · rcases List.mem_cons.mp h with rfl | h
      · exact settled_lowerSigma before cs
      · exact ih h
    · rename_i hc
      rcases List.mem_append.mp h with h | h
      · exact settled_of_mem_lowerChar hc h
      · exact ih h

theorem lowerAfter_of_settled {cs : List Char} (h : ∀ c ∈ cs, Settled c) (before : List Char) :
    lowerAfter before cs = cs := by
  induction cs generalizing before with
  | nil => rfl
  | cons c cs ih =>
    obtain ⟨hsigma, hc⟩ := h c (List.mem_cons_self ..)
    have hrest := ih fun d hd => h d (List.mem_cons_of_mem _ hd)
    rw [lowerAfter, if_neg hsigma, hc, hrest, List.singleton_append]

theorem lowerChars_lowerChars (cs : List Char) : lowerChars (lowerChars cs) = lowerChars cs :=
  lowerAfter_of_settled (fun _ h => settled_of_mem_lowerAfter h) []

/-! ## Blanks and case -/

theorem blanks_apart_case :
    (blankSteps.all fun s => (casedRanges ++ caseIgnorableRanges).all fun (first, last) =>
      s.apart ⟨first, last, 1⟩) = true := by
  decide +kernel

theorem inRanges_of_isBlank {c : Char} (h : isBlank c = true) {ranges : List (Nat × Nat)}
    (hranges : ∀ range ∈ ranges, range ∈ casedRanges ++ caseIgnorableRanges) :
    inRanges ranges c = false := by
  obtain ⟨s, hs, hc⟩ := exists_blankSteps h
  have apart := List.all_eq_true.mp (List.all_eq_true.mp blanks_apart_case s hs)
  rw [inRanges, List.any_eq_false]
  intro range hrange hin
  refine Steps.not_has_of_apart (apart range (hranges range hrange)) hc ?_
  simpa [Steps.has_iff_of_gap_one] using hin

theorem meetsCased_of_isBlank {c : Char} (h : isBlank c = true) (cs : List Char) :
    meetsCased (c :: cs) = false := by
  have hignorable : isCaseIgnorable c = false :=
    inRanges_of_isBlank h fun _ => List.mem_append_right _
  have hcased : isCased c = false := inRanges_of_isBlank h fun _ => List.mem_append_left _
  simp [meetsCased, hignorable, hcased]

theorem meetsCased_cons (c : Char) (cs : List Char) :
    meetsCased (c :: cs) = if isCaseIgnorable c then meetsCased cs else isCased c := by
  cases hc : isCaseIgnorable c <;> simp [meetsCased, hc]

theorem meetsCased_append_blank {b : Char} (hb : isBlank b = true) (w cs : List Char) :
    meetsCased (w ++ b :: cs) = meetsCased w := by
  induction w with
  | nil => exact meetsCased_of_isBlank hb cs
  | cons c w ih => rw [List.cons_append, meetsCased_cons, meetsCased_cons, ih]

/-- Of the text before it lowering looks at nothing but whether a letter with case is met there. -/
theorem lowerAfter_congr {before before' : List Char}
    (h : meetsCased before = meetsCased before') (cs : List Char) :
    lowerAfter before cs = lowerAfter before' cs := by
  induction cs generalizing before before' with
  | nil => rfl
  | cons c cs ih =>
    have hnext : meetsCased (c :: before) = meetsCased (c :: before') := by
      rw [meetsCased_cons, meetsCased_cons, h]
    rw [lowerAfter, lowerAfter, ih hnext, lowerSigma, lowerSigma, h]

theorem ne_sigma_of_isBlank {c : Char} (h : isBlank c = true) : c ≠ '\u03A3' := by
  rintro rfl
  revert h
  decide

theorem lowerAfter_append_blank {b : Char} (hb : isBlank b = true) (before w cs : List Char) :
    lowerAfter before (w ++ b :: cs) = lowerAfter before w ++ b :: lowerChars cs := by
  induction w generalizing before with
  | nil =>
    have hstart : meetsCased (b :: before) = meetsCased [] := meetsCased_of_isBlank hb before
    have hblank : lowerAfter before (b :: cs) = b :: lowerAfter (b :: before) cs := by
      rw [lowerAfter, if_neg (ne_sigma_of_isBlank hb), lowerChar_of_isBlank hb]
      rfl
    rw [List.nil_append, hblank, lowerAfter_congr hstart]
    rfl
  | cons c w ih =>
    rw [List.cons_append, lowerAfter, lowerAfter, ih, lowerSigma, meetsCased_append_blank hb]
    split <;> simp [lowerSigma]

theorem lowerChars_append_blank {b : Char} (hb : isBlank b = true) (w cs : List Char) :
    lowerChars (w ++ b :: cs) = lowerChars w ++ b :: lowerChars cs :=
  lowerAfter_append_blank hb [] w cs

theorem lowerChars_intercalate (ws : List (List Char)) :
    lowerChars ([' '].intercalate ws) = [' '].intercalate (ws.map lowerChars) := by
  induction ws with
  | nil => rfl
  | cons w ws ih =>
    cases ws with
    | nil => simp
    | cons v ws =>
      rw [List.intercalate_cons_cons, List.append_assoc, List.singleton_append,
        lowerChars_append_blank (by decide), ih]
      simp [List.intercalate_cons_cons]

theorem lowerChars_eq_nil_iff {cs : List Char} : lowerChars cs = [] ↔ cs = [] := by
  cases cs with
  | nil => exact ⟨fun _ => rfl, fun _ => rfl⟩
  | cons c cs =>
    simp only [reduceCtorEq, iff_false]
    rw [lowerChars, lowerAfter]
    split
    · exact List.cons_ne_nil _ _
    · exact fun h => lowerChar_ne_nil c (List.append_eq_nil_iff.mp h).1

theorem mem_of_isBlank_of_mem_lowerAfter {before cs : List Char} {d : Char}
    (h : d ∈ lowerAfter before cs) (hd : isBlank d = true) : d ∈ cs := by
  induction cs generalizing before with
  | nil => cases h
  | cons c cs ih =>
    rw [lowerAfter] at h
    split at h
    · rcases List.mem_cons.mp h with rfl | h
      · rw [isBlank_lowerSigma] at hd
        cases hd
      · exact List.mem_cons_of_mem _ (ih h)
    · rcases List.mem_append.mp h with h | h
      · have hc : isBlank c = true := isBlank_of_mem_lowerChar h ▸ hd
        rw [lowerChar_of_isBlank hc, List.mem_singleton] at h
        exact h ▸ List.mem_cons_self ..
      · exact List.mem_cons_of_mem _ (ih h)

theorem isBlank_of_mem_lowerChars {cs : List Char} (h : ∀ c ∈ cs, isBlank c = false) :
    ∀ d ∈ lowerChars cs, isBlank d = false := by
  intro d hd
  rw [Bool.eq_false_iff]
  intro hblank
  rw [h d (mem_of_isBlank_of_mem_lowerAfter hd hblank)] at hblank
  cases hblank

/-! ## Words -/

structure IsWord (w : List Char) : Prop where
  ne_nil : w ≠ []
  dark : ∀ c ∈ w, isBlank c = false

theorem isWord_of_mem_words {w cs : List Char} (h : w ∈ words cs) : IsWord w := by
  obtain ⟨hw, hne⟩ := List.mem_filter.mp h
  exact ⟨by simpa using hne, fun c hc => not_of_mem_pieces hw hc⟩

theorem IsWord.lowerChars {w : List Char} (h : IsWord w) : IsWord (Text.lowerChars w) :=
  ⟨fun hnil => h.ne_nil (lowerChars_eq_nil_iff.mp hnil), isBlank_of_mem_lowerChars h.dark⟩

theorem isWord_of_mem_map_lowerChars {w cs : List Char} (h : w ∈ (words cs).map Text.lowerChars) :
    IsWord w := by
  obtain ⟨v, hv, rfl⟩ := List.mem_map.mp h
  exact (isWord_of_mem_words hv).lowerChars

theorem words_intercalate {ws : List (List Char)} (h : ∀ w ∈ ws, IsWord w) :
    words ([' '].intercalate ws) = ws := by
  by_cases hne : ws = []
  · rw [hne]
    rfl
  · rw [words, pieces_intercalate (by decide) hne fun w hw => (h w hw).dark, List.filter_eq_self]
    intro w hw
    simpa using (h w hw).ne_nil

theorem words_append_blank {b : Char} (hb : isBlank b = true) (cs ds : List Char) :
    words (cs ++ b :: ds) = words cs ++ words ds := by
  rw [words, pieces_append_separator hb, List.filter_append, words, words]

theorem words_of_dark {w : List Char} (h : ∀ c ∈ w, isBlank c = false) :
    words w = if w = [] then [] else [w] := by
  rw [words, pieces_of_forall h]
  cases w <;> simp

/-- What holds of text without blanks, and of two texts with a blank between them if it holds of
each, holds of every text. -/
theorem blank_induction {motive : List Char → Prop}
    (dark : ∀ w, (∀ c ∈ w, isBlank c = false) → motive w)
    (append : ∀ cs b ds, isBlank b = true → motive cs → motive ds → motive (cs ++ b :: ds))
    (cs : List Char) : motive cs := by
  by_cases h : ∀ c ∈ cs, isBlank c = false
  · exact dark cs h
  · obtain ⟨b, hmem, hb⟩ : ∃ b ∈ cs, isBlank b = true := by simpa using h
    obtain ⟨before, after, hcs⟩ := List.append_of_mem hmem
    rw [hcs]
    exact append before b after hb (blank_induction dark append before)
      (blank_induction dark append after)
termination_by cs.length
decreasing_by all_goals simp only [hcs, List.length_append, List.length_cons]; omega

theorem words_eq_nil_iff {cs : List Char} : words cs = [] ↔ ∀ c ∈ cs, isBlank c = true := by
  induction cs using blank_induction with
  | dark w h =>
    rw [words_of_dark h]
    cases w with
    | nil => simp
    | cons c w => simp [h c (List.mem_cons_self ..)]
  | append cs b ds hb hcs hds =>
    rw [words_append_blank hb, List.append_eq_nil_iff, hcs, hds]
    simp [hb, or_imp, forall_and]

theorem words_lowerChars (cs : List Char) : words (lowerChars cs) = (words cs).map lowerChars := by
  induction cs using blank_induction with
  | dark w h =>
    rw [words_of_dark h, words_of_dark (isBlank_of_mem_lowerChars h)]
    simp only [lowerChars_eq_nil_iff]
    split <;> rfl
  | append cs b ds hb hcs hds =>
    rw [lowerChars_append_blank hb, words_append_blank hb, words_append_blank hb, hcs, hds,
      List.map_append]

theorem IsWord.exists_head? {w : List Char} (h : IsWord w) :
    ∃ d, w.head? = some d ∧ isBlank d = false := by
  obtain ⟨d, w, rfl⟩ := List.exists_cons_of_ne_nil h.ne_nil
  exact ⟨d, rfl, h.dark d (List.mem_cons_self ..)⟩

theorem IsWord.exists_getLast? {w : List Char} (h : IsWord w) :
    ∃ d, w.getLast? = some d ∧ isBlank d = false :=
  ⟨w.getLast h.ne_nil, List.getLast?_eq_some_getLast h.ne_nil, h.dark _ (List.getLast_mem _)⟩

theorem head?_intercalate {w : List Char} (h : IsWord w) (ws : List (List Char)) :
    ∃ d, ([' '].intercalate (w :: ws)).head? = some d ∧ isBlank d = false := by
  obtain ⟨d, hd, hdark⟩ := h.exists_head?
  refine ⟨d, ?_, hdark⟩
  cases ws with
  | nil => simpa using hd
  | cons v ws => rw [List.intercalate_cons_cons, List.append_assoc, List.head?_append, hd]; rfl

theorem between_words {ws : List (List Char)} (h : ∀ w ∈ ws, IsWord w) {before after : List Char}
    {c : Char} (hjoin : [' '].intercalate ws = before ++ c :: after) (hc : isBlank c = true) :
    c = ' ' ∧ (∃ d, before.getLast? = some d ∧ isBlank d = false)
      ∧ ∃ d, after.head? = some d ∧ isBlank d = false := by
  induction ws generalizing before with
  | nil => cases List.append_ne_nil_of_right_ne_nil before (List.cons_ne_nil c after) hjoin.symm
  | cons w ws ih =>
    have hw := h w (List.mem_cons_self ..)
    cases ws with
    | nil =>
      have hword : w = before ++ c :: after := by simpa using hjoin
      have hmem : c ∈ w := by simp [hword]
      rw [hw.dark c hmem] at hc
      cases hc
    | cons v ws =>
      have hrest := fun u hu => h u (List.mem_cons_of_mem _ hu)
      rw [List.intercalate_cons_cons, List.append_assoc, List.singleton_append,
        List.append_eq_append_iff] at hjoin
      -- a blank is in no word, so it is the space after `w` or lies behind it
      rcases hjoin with ⟨gap, rfl, hgap⟩ | ⟨gap, rfl, hgap⟩
      · cases gap with
        | nil =>
          obtain ⟨rfl, rfl⟩ := List.cons.inj hgap
          exact ⟨rfl, by simpa using hw.exists_getLast?, head?_intercalate (hrest v (by simp)) ws⟩
        | cons d gap =>
          obtain ⟨rfl, hafter⟩ := List.cons.inj hgap
          obtain ⟨hspace, ⟨d, hlast, hd⟩, hhead⟩ := ih hrest hafter
          exact ⟨hspace, ⟨d, by simp [List.getLast?_append, List.getLast?_cons, hlast], hd⟩, hhead⟩
      · cases gap with
        | nil =>
          obtain ⟨rfl, rfl⟩ := List.cons.inj hgap
          exact ⟨rfl, by simpa using hw.exists_getLast?, head?_intercalate (hrest v (by simp)) ws⟩
        | cons d gap =>
          obtain ⟨rfl, -⟩ := List.cons.inj hgap
          rw [hw.dark c (by simp)] at hc
          cases hc

end SessionGateway.Text

namespace SessionGateway

open Text

theorem normalizeQuery_eq (query : String) :
    normalizeQuery query
      = String.ofList ([' '].intercalate ((words query.toList).map lowerChars)) := by
  rw [normalizeQuery, lowerChars_intercalate]

theorem words_normalizeQuery (query : String) :
    words (normalizeQuery query).toList = (words query.toList).map lowerChars := by
  rw [normalizeQuery_eq, String.toList_ofList]
  exact words_intercalate fun w => isWord_of_mem_map_lowerChars

theorem normalizeQuery_eq_iff {query query' : String} :
    normalizeQuery query = normalizeQuery query'
      ↔ (words query.toList).map lowerChars = (words query'.toList).map lowerChars := by
  constructor
  · intro h
    rw [← words_normalizeQuery, h, words_normalizeQuery]
  · intro h
    rw [normalizeQuery_eq, h, ← normalizeQuery_eq]

theorem normalizeQuery_normalizeQuery (query : String) :
    normalizeQuery (normalizeQuery query) = normalizeQuery query := by
  have hlower : lowerChars ∘ lowerChars = lowerChars := funext lowerChars_lowerChars
  rw [normalizeQuery_eq_iff, words_normalizeQuery, List.map_map, hlower]

theorem normalizeQuery_lower (query : String) :
    normalizeQuery (lower query) = normalizeQuery query := by
  have hlower : lowerChars ∘ lowerChars = lowerChars := funext lowerChars_lowerChars
  rw [normalizeQuery_eq_iff, lower, String.toList_ofList, words_lowerChars, List.map_map, hlower]

theorem normalizeQuery_eq_empty_iff {query : String} :
    normalizeQuery query = "" ↔ ∀ c ∈ query.toList, isBlank c = true := by
  have hempty : normalizeQuery "" = "" := by decide
  rw [← hempty, normalizeQuery_eq_iff, ← words_eq_nil_iff]
  exact List.map_eq_nil_iff

/-- The normal form of a query has the words of the query, each lowered on its own, with a space
between any two of them and no other blank; it is empty for blank queries alone. Neither another
normalization nor lowering before it changes it, so two queries have one normal form exactly if
their words are the same when lowered, and suggestions are found and stored alike under a query and
under its normal form. -/
theorem normalizeQuery_canonical (query : String) :
    normalizeQuery query
      = String.ofList ([' '].intercalate ((words query.toList).map lowerChars))
    ∧ normalizeQuery (normalizeQuery query) = normalizeQuery query
    ∧ normalizeQuery (lower query) = normalizeQuery query
    ∧ (∀ before c after, (normalizeQuery query).toList = before ++ c :: after → isBlank c = true →
      c = ' ' ∧ (∃ d, before.getLast? = some d ∧ isBlank d = false)
        ∧ ∃ d, after.head? = some d ∧ isBlank d = false)
    ∧ (normalizeQuery query = "" ↔ ∀ c ∈ query.toList, isBlank c = true)
    ∧ (∀ query', normalizeQuery query = normalizeQuery query'
      ↔ (words query.toList).map lowerChars = (words query'.toList).map lowerChars)
    ∧ ∀ (t : Typeahead) (kind : String) (data : Json) (now : Instant),
      t.lookup kind (normalizeQuery query) now = t.lookup kind query now
        ∧ t.store kind (normalizeQuery query) data now = t.store kind query data now := by
  refine ⟨normalizeQuery_eq query, normalizeQuery_normalizeQuery query, normalizeQuery_lower query,
    fun before c after h hc => ?_, normalizeQuery_eq_empty_iff, fun _ => normalizeQuery_eq_iff,
    fun t kind data now => ⟨?_, ?_⟩⟩
  · rw [normalizeQuery_eq, String.toList_ofList] at h
    exact between_words (fun w hw => isWord_of_mem_map_lowerChars hw) h hc
  · rw [Typeahead.lookup, Typeahead.lookup, normalizeQuery_normalizeQuery]
  · rw [Typeahead.store, Typeahead.store, normalizeQuery_normalizeQuery]

theorem normalizeQuery_of_greek_street :
    normalizeQuery "\tΟΔΟΣ  ΣΑΣ " = "οδος σας"
    ∧ normalizeQuery (lower "\tΟΔΟΣ  ΣΑΣ ") = "οδος σας"
    ∧ (∃ d, "οδος".toList.getLast? = some d ∧ isBlank d = false)
    ∧ ∃ d, "σας".toList.head? = some d ∧ isBlank d = false := by
  obtain ⟨-, -, hlower, between, -⟩ := normalizeQuery_canonical "\tΟΔΟΣ  ΣΑΣ "
  have hform : normalizeQuery "\tΟΔΟΣ  ΣΑΣ " = "οδος σας" := by decide +kernel
  rw [hform] at hlower between
  exact ⟨hform, hlower,
    (between "οδος".toList ' ' "σας".toList (by decide +kernel) (by decide)).2⟩

end SessionGateway
