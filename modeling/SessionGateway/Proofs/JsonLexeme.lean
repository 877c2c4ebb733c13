import SessionGateway.Json.Printer
import SessionGateway.Json.Reader
import SessionGateway.Proofs.Utf8

/-!
Strings and whole numbers as they are printed are read back, whatever follows them. A number ends
where its text is followed by none of the characters that go on with a number.
-/

namespace SessionGateway.Json

/-! ## Strings -/

/-- A piece that stands for a character wherever it comes. -/
def Piece.IsFor (p : Piece) (c : Char) : Prop :=
  ∀ ps cs, pieceChars? ps = some cs → pieceChars? (p :: ps) = some (c :: cs)

theorem Piece.char_isFor (c : Char) : (Piece.char c).IsFor c := by
  intro ps cs h
  simp [pieceChars?, h]

theorem Piece.unit_isFor {c : Char} (h : c.toNat < 0x20) : (Piece.unit c.toNat).IsFor c := by
  intro ps cs hps
  have hlow : c.toNat < 0xD800 ∨ 0xDFFF < c.toNat := .inl (by omega)
  rw [pieceChars?.eq_def]
  simp [hlow, hps, Char.ofNat_toNat]

def ScansAs (text : List Char) (p : Piece) : Prop :=
  ∀ rest ps out, scanString rest = some (ps, out) → scanString (text ++ rest) = some (p :: ps, out)

theorem scansAs_escape {e c : Char} (hu : e ≠ 'u') (h : escapeMeaning? e = some c) :
    ScansAs ['\\', e] (.char c) := by
  intro rest ps out hrest
  simp [scanString, hu, h, hrest]

theorem hexUnit?_hexLower : ∀ n < 0x20,
    hexUnit? '0' '0' (Text.hexLower (n / 16)) (Text.hexLower (n % 16)) = some n := by
  decide

theorem scansAs_unit {a b c d : Char} {n : Nat} (h : hexUnit? a b c d = some n) :
    ScansAs ['\\', 'u', a, b, c, d] (.unit n) := by
  intro rest ps out hrest
  simp [scanString, h, hrest]

theorem scansAs_plain {c : Char} (hquote : c ≠ '"') (hslash : c ≠ '\\')
    (hlow : ¬ c.toNat < 0x20) : ScansAs [c] (.char c) := by
  intro rest ps out hrest
  simp [scanString, hslash, hlow, hrest]

theorem eq_of_toNat_eq {c d : Char} (h : c.toNat = d.toNat) : c = d := Char.toNat_inj.mp h

/-- However a character is printed, it is scanned as one piece that stands for it. -/
theorem scansAs_escapedChar (c : Char) : ∃ p : Piece, p.IsFor c ∧ ScansAs (escapedChar c) p := by
  have escape (e : Char) (hu : e ≠ 'u') (h : escapeMeaning? e = some c) :
      ∃ p : Piece, p.IsFor c ∧ ScansAs ['\\', e] p :=
    ⟨.char c, Piece.char_isFor c, scansAs_escape hu h⟩
  unfold escapedChar
  split
  · rename_i h
    exact escape _ (by decide) (by rw [h]; decide)
  split
  · rename_i h
    exact escape _ (by decide) (by rw [h]; decide)
  split
  · rename_i h
    exact escape _ (by decide) (by rw [eq_of_toNat_eq (d := '\x08') h]; decide)
  split
  · rename_i h
    exact escape _ (by decide) (by rw [eq_of_toNat_eq (d := '\x0C') h]; decide)
  split
  · rename_i h
    exact escape _ (by decide) (by rw [h]; decide)
  split
  · rename_i h
    exact escape _ (by decide) (by rw [h]; decide)
  split
  · rename_i h
    exact escape _ (by decide) (by rw [h]; decide)
  split
  · rename_i hlow
    exact ⟨.unit c.toNat, Piece.unit_isFor hlow, scansAs_unit (hexUnit?_hexLower _ hlow)⟩
  · rename_i hquote hslash _ _ _ _ _ hlow
    exact ⟨.char c, Piece.char_isFor c, scansAs_plain hquote hslash hlow⟩

theorem scanString_flatMap (cs rest : List Char) :
    ∃ ps, scanString (cs.flatMap escapedChar ++ '"' :: rest) = some (ps, rest)
      ∧ pieceChars? ps = some cs := by
  induction cs with
  | nil => exact ⟨[], rfl, rfl⟩
  | cons c cs ih =>
    obtain ⟨ps, hscan, hchars⟩ := ih
    obtain ⟨p, hp, hone⟩ := scansAs_escapedChar c
    refine ⟨p :: ps, ?_, hp ps cs hchars⟩
    rw [List.flatMap_cons, List.append_assoc]
    exact hone _ _ _ hscan

theorem stringChars_append (s : String) (rest : List Char) :
    stringChars s ++ rest = '"' :: (s.toList.flatMap escapedChar ++ '"' :: rest) := by
  simp [stringChars]

theorem readStringTail_append (s : String) (rest : List Char) :
    readStringTail (s.toList.flatMap escapedChar ++ '"' :: rest) = .ok (s, rest) := by
  obtain ⟨ps, hscan, hchars⟩ := scanString_flatMap s.toList rest
  simp only [readStringTail, hscan, hchars, String.ofList_toList]

/-! ## Whole numbers -/

def EndsNumber : List Char → Prop
  | [] => True
  | c :: _ => isDigit c = false ∧ c ≠ '.' ∧ c ≠ 'e' ∧ c ≠ 'E'

theorem isDigit_of_mem_decimalChars {n : Nat} {c : Char} (h : c ∈ decimalChars n) :
    isDigit c = true := by
  have hdigit : c.isDigit = true := Nat.isDigit_of_mem_toDigits (by decide) (by decide) h
  simpa [Char.isDigit, isDigit, Char.le_def] using hdigit

theorem decimalChars_ne_nil (n : Nat) : decimalChars n ≠ [] := Nat.toDigits_ne_nil

theorem eq_zero_of_decimalChars {n : Nat} {cs : List Char} (h : decimalChars n = '0' :: cs) :
    n = 0 ∧ cs = [] := by
  have hdigit : ∀ d < 10, Nat.digitChar d = '0' → d = 0 := by decide
  -- the digits of a longer number begin with those of its tenth, which is not zero
  induction n using Nat.strongRecOn generalizing cs with
  | ind n ih =>
    rw [decimalChars] at h
    by_cases hn : n < 10
    · rw [Nat.toDigits_of_lt_base hn] at h
      injection h with hhead htail
      exact ⟨hdigit n hn hhead, htail.symm⟩
    · rw [Nat.toDigits_of_base_le (by decide) (by omega)] at h
      rcases List.append_eq_cons_iff.mp h with ⟨hnil, -⟩ | ⟨ds, hds, -⟩
      · exact absurd hnil Nat.toDigits_ne_nil
      · have hzero := ih (n / 10) (by omega) hds
        omega

theorem digitsValue_decimalChars (n : Nat) : digitsValue (decimalChars n) = n := by
  have hfold : Nat.ofDigitChars 10 (decimalChars n) 0 = n := Nat.ofDigitChars_ten_toDigits
  rwa [Nat.ofDigitChars_eq_foldl] at hfold

section

variable {rest : List Char} (hrest : EndsNumber rest)

include hrest

theorem takeWhile_append {ds : List Char} (hds : ∀ c ∈ ds, isDigit c = true) :
    (ds ++ rest).takeWhile isDigit = ds := by
  rw [List.takeWhile_append_of_pos hds]
  cases rest with
  | nil => simp
  | cons c cs => simp [hrest.1]

theorem dropWhile_append {ds : List Char} (hds : ∀ c ∈ ds, isDigit c = true) :
    (ds ++ rest).dropWhile isDigit = rest := by
  rw [List.dropWhile_append_of_pos hds]
  cases rest with
  | nil => rfl
  | cons c cs => simp [hrest.1]

theorem scanDigits_append {ds : List Char} (hne : ds ≠ []) (hds : ∀ c ∈ ds, isDigit c = true) :
    scanDigits (ds ++ rest) = some (ds, rest) := by
  simp only [scanDigits, takeWhile_append hrest hds, dropWhile_append hrest hds]
  simp [hne]

theorem scanWhole_append (n : Nat) :
    scanWhole (decimalChars n ++ rest) = some (decimalChars n, rest) := by
  have hdigits : ∀ c ∈ decimalChars n, isDigit c = true := fun c => isDigit_of_mem_decimalChars
  unfold scanWhole
  split
  · -- a zero in front is the whole number, and what follows is no digit
    rename_i c cs hinput
    rcases List.append_eq_cons_iff.mp hinput with ⟨hnil, -⟩ | ⟨ds, hds, hcs⟩
    · exact absurd hnil (decimalChars_ne_nil n)
    · obtain ⟨-, rfl⟩ := eq_zero_of_decimalChars hds
      rw [List.nil_append] at hcs
      subst hcs
      simp [hds, hrest.1]
  · exact scanDigits_append hrest (decimalChars_ne_nil n) hdigits

theorem scanUnsigned_append (negative : Bool) (n : Nat) :
    scanUnsigned negative (decimalChars n ++ rest)
      = some (⟨negative, decimalChars n, none, none⟩, rest) := by
  have hfraction : scanFraction rest = some (none, rest) := by
    unfold scanFraction
    split
    · exact absurd rfl hrest.2.1
    · rfl
  have hexponent : scanExponent rest = some (none, rest) := by
    cases rest with
    | nil => rfl
    | cons c cs => simp [scanExponent, hrest.2.2.1, hrest.2.2.2]
  simp [scanUnsigned, scanWhole_append hrest, hfraction, hexponent]

theorem scanNumber_intChars (n : Int) :
    scanNumber (intChars n ++ rest)
      = some (⟨decide (n < 0), decimalChars n.natAbs, none, none⟩, rest) := by
  unfold intChars
  split
  · rename_i hn
    rw [decide_eq_true hn]
    exact scanUnsigned_append hrest true n.natAbs
  · rename_i hn
    rw [decide_eq_false hn, ← scanUnsigned_append hrest false n.natAbs]
    unfold scanNumber
    split
    · -- a digit is no sign
      rename_i cs hinput
      rcases List.append_eq_cons_iff.mp hinput with ⟨hnil, -⟩ | ⟨ds, hds, -⟩
      · exact absurd hnil (decimalChars_ne_nil _)
      · have hdigit : isDigit '-' = true := isDigit_of_mem_decimalChars (by rw [hds]; simp)
        cases hdigit
    · rfl

end

def InRange (n : Int) : Prop := -Nat.pow 2 63 ≤ n ∧ n < UInt64.size

theorem value?_of_inRange {n : Int} (hn : InRange n) :
    (NumberText.mk (decide (n < 0)) (decimalChars n.natAbs) none none).value? = some (.int n) := by
  have hdigits := digitsValue_decimalChars n.natAbs
  obtain ⟨hlow, hhigh⟩ := hn
  simp only [NumberText.value?, Option.isSome_none, Bool.or_self, Bool.false_eq_true, ↓reduceIte,
    hdigits, decide_eq_true_eq]
  by_cases hneg : n < 0
  · have hrange : 0 < n.natAbs ∧ n.natAbs ≤ Nat.pow 2 63 := by omega
    have habs : -(n.natAbs : Int) = n := by omega
    simp only [hneg, hrange, and_self, ↓reduceIte, habs]
  · have hrange : n.natAbs < UInt64.size := by omega
    have habs : (n.natAbs : Int) = n := by omega
    simp only [hneg, hrange, ↓reduceIte, habs]

theorem readNumber_intChars {n : Int} {rest : List Char} (hn : InRange n)
    (hrest : EndsNumber rest) : readNumber (intChars n ++ rest) = .ok (.int n, rest) := by
  simp only [readNumber, scanNumber_intChars hrest, value?_of_inRange hn]

theorem inRange_of_value? {t : NumberText} {v : Json} (h : t.value? = some v) :
    (∃ x, v = .float x) ∨ ∃ n, v = .int n ∧ InRange n := by
  have hfloat {x? : Option Binary64} (h : x?.map Json.float = some v) : ∃ x, v = .float x := by
    obtain ⟨x, -, hx⟩ := Option.map_eq_some_iff.mp h
    exact ⟨x, hx.symm⟩
  simp only [NumberText.value?] at h
  split at h
  · exact .inl (hfloat h)
  split at h
  · split at h
    · rename_i hrange
      cases h
      exact .inr ⟨_, rfl, by simp only [InRange]; omega⟩
    · exact .inl (hfloat h)
  · split at h
    · rename_i hrange
      cases h
      exact .inr ⟨_, rfl, by simp only [InRange]; omega⟩
    · exact .inl (hfloat h)

end SessionGateway.Json
