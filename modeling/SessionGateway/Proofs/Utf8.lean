import SessionGateway.Text.Utf8

/-!
UTF-8 as it is written is read back. The bytes are looked at by their numbers, one lemma for each
length of a character.
-/

namespace SessionGateway.Text

theorem toNat_ofNat_of_isValidChar {n : Nat} (h : n.isValidChar) : (Char.ofNat n).toNat = n := by
  rw [Char.ofNat, dif_pos h]
  rfl

namespace Utf8

variable {a b c d : UInt8} {rest : List UInt8}

theorem toNat_toUInt8 {n : Nat} (h : n < 256) : n.toUInt8.toNat = n := by
  simpa using Nat.mod_eq_of_lt h

theorem isContinuation_iff : isContinuation b = true ↔ 0x80 ≤ b.toNat ∧ b.toNat ≤ 0xBF := by
  simp [isContinuation, UInt8.le_iff_toNat_le]

/-- The least and the greatest second byte are those of a continuation, except after four first
bytes. -/
theorem isSecond_of_bounds (hb : 0x80 ≤ b.toNat ∧ b.toNat ≤ 0xBF)
    (h1 : a.toNat = 0xE0 → 0xA0 ≤ b.toNat) (h2 : a.toNat = 0xED → b.toNat ≤ 0x9F)
    (h3 : a.toNat = 0xF0 → 0x90 ≤ b.toNat) (h4 : a.toNat = 0xF4 → b.toNat ≤ 0x8F) :
    isSecond a b = true := by
  simp only [isSecond, beq_iff_eq, ← UInt8.toNat_inj, isContinuation, UInt8.le_iff_toNat_le]
  repeat' split
  all_goals simp_all

theorem units_one (ha : a.toNat < 0x80) :
    units (a :: rest) = some (Char.ofNat a.toNat) :: units rest := by
  have hlt : a < 0x80 := UInt8.lt_iff_toNat_lt.mpr ha
  rw [units.eq_def]
  simp only [hlt, ↓reduceIte]

theorem units_two (ha : 0xC2 ≤ a.toNat ∧ a.toNat ≤ 0xDF) (hb : isContinuation b = true) :
    units (a :: b :: rest)
      = some (Char.ofNat (a.toNat % 0x20 * 0x40 + low b)) :: units rest := by
  have h1 : ¬ a < 0x80 := by
    simp [UInt8.lt_iff_toNat_lt]
    omega
  have h2 : (0xC2 ≤ a && a ≤ 0xDF) = true := by simpa [UInt8.le_iff_toNat_le] using ha
  rw [units.eq_def]
  simp only [h1, h2, hb, ↓reduceIte]

theorem units_three (ha : 0xE0 ≤ a.toNat ∧ a.toNat ≤ 0xEF) (hb : isSecond a b = true)
    (hc : isContinuation c = true) :
    units (a :: b :: c :: rest)
      = some (Char.ofNat (a.toNat % 0x10 * 0x1000 + low b * 0x40 + low c)) :: units rest := by
  have h1 : ¬ a < 0x80 := by
    simp [UInt8.lt_iff_toNat_lt]
    omega
  have h2 : ¬ (0xC2 ≤ a && a ≤ 0xDF) = true := by
    simp [UInt8.le_iff_toNat_le]
    omega
  have h3 : (0xE0 ≤ a && a ≤ 0xEF) = true := by simpa [UInt8.le_iff_toNat_le] using ha
  rw [units.eq_def]
  simp only [h1, h2, h3, hb, hc, Bool.false_eq_true, ↓reduceIte]

theorem units_four (ha : 0xF0 ≤ a.toNat ∧ a.toNat ≤ 0xF4) (hb : isSecond a b = true)
    (hc : isContinuation c = true) (hd : isContinuation d = true) :
    units (a :: b :: c :: d :: rest)
      = some (Char.ofNat (a.toNat % 8 * 0x40000 + low b * 0x1000 + low c * 0x40 + low d))
        :: units rest := by
  have h1 : ¬ a < 0x80 := by
    simp [UInt8.lt_iff_toNat_lt]
    omega
  have h2 : ¬ (0xC2 ≤ a && a ≤ 0xDF) = true := by
    simp [UInt8.le_iff_toNat_le]
    omega
  have h3 : ¬ (0xE0 ≤ a && a ≤ 0xEF) = true := by
    simp [UInt8.le_iff_toNat_le]
    omega
  have h4 : (0xF0 ≤ a && a ≤ 0xF4) = true := by simpa [UInt8.le_iff_toNat_le] using ha
  rw [units.eq_def]
  simp only [h1, h2, h3, h4, hb, hc, hd, Bool.false_eq_true, ↓reduceIte]

theorem toNat_bounds (c : Char) : c.toNat < 0xD800 ∨ 0xDFFF < c.toNat ∧ c.toNat < 0x110000 :=
  c.valid

theorem units_encodeChar_append (c : Char) (rest : List UInt8) :
    units (encodeChar c ++ rest) = some c :: units rest := by
  have hbounds := toNat_bounds c
  unfold encodeChar
  -- by the number of bytes that the character is written with
  by_cases h1 : c.toNat < 0x80
  · have ha := toNat_toUInt8 (n := c.toNat) (by omega)
    simp only [h1, ↓reduceIte, List.cons_append, List.nil_append]
    rw [units_one (by omega), ha, Char.ofNat_toNat]
  · by_cases h2 : c.toNat < 0x800
    · have ha := toNat_toUInt8 (n := 0xC0 + c.toNat / 0x40) (by omega)
      have hb := toNat_toUInt8 (n := 0x80 + c.toNat % 0x40) (by omega)
      simp only [h1, h2, ↓reduceIte, List.cons_append, List.nil_append]
      rw [units_two (by omega) (isContinuation_iff.mpr (by omega)), low, ha, hb]
      have hn : (0xC0 + c.toNat / 0x40) % 0x20 * 0x40 + (0x80 + c.toNat % 0x40) % 0x40
          = c.toNat := by omega
      rw [hn, Char.ofNat_toNat]
    · by_cases h3 : c.toNat < 0x10000
      · have ha := toNat_toUInt8 (n := 0xE0 + c.toNat / 0x1000) (by omega)
        have hb := toNat_toUInt8 (n := 0x80 + c.toNat / 0x40 % 0x40) (by omega)
        have hc := toNat_toUInt8 (n := 0x80 + c.toNat % 0x40) (by omega)
        simp only [h1, h2, h3, ↓reduceIte, List.cons_append, List.nil_append]
        rw [units_three (by omega)
          (isSecond_of_bounds (by omega) (by omega) (by omega) (by omega) (by omega))
          (isContinuation_iff.mpr (by omega)), low, low, ha, hb, hc]
        have hn : (0xE0 + c.toNat / 0x1000) % 0x10 * 0x1000
            + (0x80 + c.toNat / 0x40 % 0x40) % 0x40 * 0x40 + (0x80 + c.toNat % 0x40) % 0x40
            = c.toNat := by omega
        rw [hn, Char.ofNat_toNat]
      · have ha := toNat_toUInt8 (n := 0xF0 + c.toNat / 0x40000) (by omega)
        have hb := toNat_toUInt8 (n := 0x80 + c.toNat / 0x1000 % 0x40) (by omega)
        have hc := toNat_toUInt8 (n := 0x80 + c.toNat / 0x40 % 0x40) (by omega)
        have hd := toNat_toUInt8 (n := 0x80 + c.toNat % 0x40) (by omega)
        simp only [h1, h2, h3, ↓reduceIte, List.cons_append, List.nil_append]
        rw [units_four (by omega)
          (isSecond_of_bounds (by omega) (by omega) (by omega) (by omega) (by omega))
          (isContinuation_iff.mpr (by omega)) (isContinuation_iff.mpr (by omega)),
          low, low, low, ha, hb, hc, hd]
        have hn : (0xF0 + c.toNat / 0x40000) % 8 * 0x40000
            + (0x80 + c.toNat / 0x1000 % 0x40) % 0x40 * 0x1000
            + (0x80 + c.toNat / 0x40 % 0x40) % 0x40 * 0x40 + (0x80 + c.toNat % 0x40) % 0x40
            = c.toNat := by omega
        rw [hn, Char.ofNat_toNat]

theorem exists_encodeChar_cons (c : Char) :
    ∃ b bs, encodeChar c = b :: bs ∧ (b.toNat < 0x80 → b.toNat = c.toNat) := by
  have hbounds := toNat_bounds c
  unfold encodeChar
  by_cases h1 : c.toNat < 0x80
  · have ha := toNat_toUInt8 (n := c.toNat) (by omega)
    simp only [h1, ↓reduceIte]
    exact ⟨_, _, rfl, fun _ => ha⟩
  · by_cases h2 : c.toNat < 0x800
    · have ha := toNat_toUInt8 (n := 0xC0 + c.toNat / 0x40) (by omega)
      simp only [h1, h2, ↓reduceIte]
      exact ⟨_, _, rfl, fun h => by omega⟩
    · by_cases h3 : c.toNat < 0x10000
      · have ha := toNat_toUInt8 (n := 0xE0 + c.toNat / 0x1000) (by omega)
        simp only [h1, h2, h3, ↓reduceIte]
        exact ⟨_, _, rfl, fun h => by omega⟩
      · have ha := toNat_toUInt8 (n := 0xF0 + c.toNat / 0x40000) (by omega)
        simp only [h1, h2, h3, ↓reduceIte]
        exact ⟨_, _, rfl, fun h => by omega⟩

theorem units_encode (cs : List Char) : units (encode cs) = cs.map some := by
  induction cs with
  | nil => rfl
  | cons c cs ih => rw [encode, List.flatMap_cons, units_encodeChar_append, ← encode, ih]; rfl

theorem validStart_encode (cs : List Char) : validStart (encode cs) = cs := by
  rw [validStart, units_encode]
  induction cs with
  | nil => rfl
  | cons c cs ih => simpa using ih

theorem decodeLossy_encode (cs : List Char) : decodeLossy (encode cs) = cs := by
  simp [decodeLossy, units_encode, Function.comp_def]

theorem isValid_encode (cs : List Char) : isValid (encode cs) = true := by
  simp [isValid, units_encode]

end Utf8
end SessionGateway.Text
