import SessionGateway.Proofs.Utf8
import SessionGateway.Text.Form

/-!
Percent-encoded text is read back, and so are pairs that are written as a form. A form is
percent-encoded text but for its spaces, and nothing that separates its parts is left in them.
-/

namespace SessionGateway.Text

namespace Percent

variable {inSet : Char → Bool} {c d : Char} {cs : List Char}

def standsForItself (inSet : Char → Bool) (c : Char) : Bool := c.toNat < 0x80 && ! inSet c

def hexDigits : List Char :=
  ['0', '1', '2', '3', '4', '5', '6', '7', '8', '9', 'A', 'B', 'C', 'D', 'E', 'F']

theorem hexUpper_mem : ∀ n < 16, hexUpper n ∈ hexDigits := by decide

theorem mem_encodeByte {b : UInt8} (h : c ∈ encodeByte b) : c = '%' ∨ c ∈ hexDigits := by
  have hb : b.toNat < 256 := UInt8.toNat_lt b
  simp only [encodeByte, List.mem_cons, List.not_mem_nil, or_false] at h
  rcases h with rfl | rfl | rfl
  · exact .inl rfl
  · exact .inr (hexUpper_mem _ (by omega))
  · exact .inr (hexUpper_mem _ (by omega))

theorem encodeChar_of_standsForItself (h : standsForItself inSet c = true) :
    encodeChar inSet c = [c] := if_pos h

theorem mem_encode (h : d ∈ encode inSet cs) : d = '%' ∨ d ∈ hexDigits ∨ inSet d = false := by
  obtain ⟨c, -, hd⟩ := List.mem_flatMap.mp h
  unfold encodeChar at hd
  split at hd
  · rename_i hc
    rw [List.mem_singleton] at hd
    subst hd
    exact .inr (.inr (by simpa using (Bool.and_eq_true_iff.mp hc).2))
  · obtain ⟨b, -, hb⟩ := List.mem_flatMap.mp hd
    exact (mem_encodeByte hb).imp_right .inl

theorem encode_cons (inSet : Char → Bool) (c : Char) (cs : List Char) :
    encode inSet (c :: cs) = encodeChar inSet c ++ encode inSet cs := List.flatMap_cons

theorem hexValue?_hexUpper : ∀ n < 16, hexValue? (hexUpper n) = some n := by decide

theorem decode_encodeByte_append (b : UInt8) (rest : List Char) :
    decode (encodeByte b ++ rest) = b :: decode rest := by
  have hb : b.toNat < 256 := UInt8.toNat_lt b
  have hbyte : 16 * (b.toNat / 16) + b.toNat % 16 = b.toNat := by omega
  simp only [encodeByte, List.cons_append, List.nil_append, decode,
    hexValue?_hexUpper (b.toNat / 16) (by omega), hexValue?_hexUpper (b.toNat % 16) (by omega),
    hbyte]
  exact congrArg (· :: decode rest) UInt8.ofNat_toNat

theorem decode_flatMap_encodeByte_append (bytes : List UInt8) (rest : List Char) :
    decode (bytes.flatMap encodeByte ++ rest) = bytes ++ decode rest := by
  induction bytes with
  | nil => rfl
  | cons b bytes ih =>
    rw [List.flatMap_cons, List.append_assoc, decode_encodeByte_append, ih, List.cons_append]

theorem decode_cons_of_ne (hc : c ≠ '%') (rest : List Char) :
    decode (c :: rest) = Utf8.encodeChar c ++ decode rest := by
  rw [decode]
  exact fun _ _ _ h => absurd h hc

theorem decode_encode (hset : inSet '%' = true) (cs : List Char) :
    decode (encode inSet cs) = Utf8.encode cs := by
  induction cs with
  | nil => rfl
  | cons c cs ih =>
    rw [encode_cons, Utf8.encode, List.flatMap_cons, ← Utf8.encode, ← ih]
    cases hc : standsForItself inSet c with
    | true =>
      have hne : c ≠ '%' := by
        rintro rfl
        simp [standsForItself, hset] at hc
      rw [encodeChar_of_standsForItself hc, List.singleton_append, decode_cons_of_ne hne]
    | false =>
      have hcoded : encodeChar inSet c = (Utf8.encodeChar c).flatMap encodeByte :=
        if_neg (Bool.eq_false_iff.mp hc)
      rw [hcoded, decode_flatMap_encodeByte_append]

end Percent

theorem cutAt_append_cons {sep : Char} {name : List Char} (h : sep ∉ name) (value : List Char) :
    cutAt sep (name ++ sep :: value) = (name, some value) := by
  have hdark : ∀ c ∈ name, (c != sep) = true := fun c hc => by
    simpa using fun heq : c = sep => h (heq ▸ hc)
  simp [cutAt, List.dropWhile_append_of_pos hdark, List.takeWhile_append_of_pos hdark]

theorem of_mem_intercalate {sep d : Char} {ws : List (List Char)} (h : d ∈ [sep].intercalate ws) :
    d = sep ∨ ∃ w ∈ ws, d ∈ w := by
  induction ws with
  | nil => cases h
  | cons w ws ih =>
    cases ws with
    | nil => exact .inr ⟨w, List.mem_cons_self, by simpa using h⟩
    | cons v ws =>
      rw [List.intercalate_cons_cons, List.mem_append, List.mem_append, List.mem_singleton] at h
      rcases h with (hd | hd) | hd
      · exact .inr ⟨w, List.mem_cons_self, hd⟩
      · exact .inl hd
      · exact (ih hd).imp_right fun ⟨u, hu, hmem⟩ => ⟨u, List.mem_cons_of_mem _ hu, hmem⟩

namespace Form

variable {c d : Char} {cs : List Char}

def isCoded (c : Char) : Bool := ! isKept c && c != ' '

def encodeChar (c : Char) : List Char :=
  if c == ' ' then ['+'] else Percent.encodeChar (! isKept ·) c

theorem encode_eq (cs : List Char) : encode cs = cs.flatMap encodeChar := rfl

theorem isKept_of_mem_hexDigits (h : d ∈ Percent.hexDigits) : isKept d = true := by
  have hall : Percent.hexDigits.all isKept = true := by decide
  exact List.all_eq_true.mp hall d h

theorem of_mem_percent (h : d ∈ Percent.encodeChar (! isKept ·) c) :
    d = '%' ∨ isKept d = true := by
  have hmem : d ∈ Percent.encode (! isKept ·) [c] := by simpa [Percent.encode] using h
  rcases Percent.mem_encode hmem with hd | hd | hd
  · exact .inl hd
  · exact .inr (isKept_of_mem_hexDigits hd)
  · exact .inr (by simpa using hd)

theorem of_mem_encode (h : d ∈ encode cs) : d = '+' ∨ d = '%' ∨ isKept d = true := by
  rw [encode_eq] at h
  obtain ⟨c, -, hd⟩ := List.mem_flatMap.mp h
  unfold encodeChar at hd
  split at hd
  · exact .inl (List.mem_singleton.mp hd)
  · exact .inr (of_mem_percent hd)

theorem not_mem_encode (hplus : d ≠ '+') (hpercent : d ≠ '%') (hkept : isKept d = false) :
    d ∉ encode cs := by
  intro h
  rcases of_mem_encode h with hd | hd | hd
  · exact hplus hd
  · exact hpercent hd
  · rw [hkept] at hd
    cases hd

def unplus (c : Char) : Char := if c == '+' then ' ' else c

theorem map_unplus_encodeChar (c : Char) :
    (encodeChar c).map unplus = Percent.encodeChar isCoded c := by
  by_cases hspace : c = ' '
  · subst hspace
    rfl
  · have hcoded : Percent.encodeChar isCoded c = Percent.encodeChar (! isKept ·) c := by
      simp [Percent.encodeChar, isCoded, hspace]
    have hplus : ∀ d ∈ Percent.encodeChar (! isKept ·) c, unplus d = d := by
      intro d hd
      have hne : d ≠ '+' := by
        rintro rfl
        exact absurd (of_mem_percent hd) (by decide)
      simp [unplus, hne]
    rw [encodeChar, if_neg (by simpa using hspace), hcoded, List.map_congr_left hplus, List.map_id']

/-- With spaces for its plus signs a form is percent-encoded text. -/
theorem map_unplus_encode (cs : List Char) :
    (encode cs).map unplus = Percent.encode isCoded cs := by
  rw [encode_eq, List.map_flatMap, funext map_unplus_encodeChar]
  rfl

theorem decode_encode (cs : List Char) : decode (encode cs) = cs := by
  have hbytes : Percent.decode ((encode cs).map unplus) = Utf8.encode cs := by
    rw [map_unplus_encode, Percent.decode_encode (by decide)]
  exact (congrArg Utf8.decodeLossy hbytes).trans (Utf8.decodeLossy_encode cs)

def part (p : String × String) : List Char := encode p.1.toList ++ '=' :: encode p.2.toList

def write (ps : List (String × String)) : List Char := ['&'].intercalate (ps.map part)

theorem part_ne_nil (p : String × String) : part p ≠ [] := by simp [part]

theorem cutAt_part (p : String × String) :
    cutAt '=' (part p) = (encode p.1.toList, some (encode p.2.toList)) :=
  cutAt_append_cons (not_mem_encode (by decide) (by decide) (by decide)) _

theorem not_mem_part (p : String × String) : '&' ∉ part p := by
  have hfree (cs : List Char) : '&' ∉ encode cs :=
    not_mem_encode (by decide) (by decide) (by decide)
  simp [part, hfree]

theorem of_mem_write {ps : List (String × String)} (h : d ∈ write ps) :
    d ∈ ['&', '=', '+', '%'] ∨ isKept d = true := by
  have hencode {cs : List Char} (hd : d ∈ encode cs) :
      d ∈ ['&', '=', '+', '%'] ∨ isKept d = true := by
    rcases of_mem_encode hd with rfl | rfl | hkept
    · simp
    · simp
    · exact .inr hkept
  rcases of_mem_intercalate h with rfl | ⟨w, hw, hd⟩
  · simp
  · obtain ⟨p, -, rfl⟩ := List.mem_map.mp hw
    rcases List.mem_append.mp hd with hd | hd
    · exact hencode hd
    · rcases List.mem_cons.mp hd with rfl | hd
      · simp
      · exact hencode hd

theorem filter_pieces_write (ps : List (String × String)) :
    (pieces (· == '&') (write ps)).filter (! ·.isEmpty) = ps.map part := by
  have hfull : (ps.map part).filter (! ·.isEmpty) = ps.map part := by
    rw [List.filter_eq_self]
    simp only [List.mem_map]
    rintro w ⟨p, -, rfl⟩
    simpa using part_ne_nil p
  cases ps with
  | nil => rfl
  | cons p ps =>
    rw [write, pieces_intercalate (by simp) (by simp), hfull]
    simp only [List.mem_map]
    rintro w ⟨p, -, rfl⟩ d hd
    simpa using fun heq : d = '&' => not_mem_part p (heq ▸ hd)

theorem pairs_write (ps : List (String × String)) : pairs (write ps) = ps := by
  have hread (p : String × String) : (String.ofList (decode (encode p.1.toList)),
      String.ofList (decode (encode p.2.toList))) = p := by
    simp [decode_encode]
  rw [pairs, filter_pieces_write, List.map_map]
  refine (List.map_congr_left fun p _ => ?_).trans ps.map_id'
  simp only [Function.comp_apply, cutAt_part, Option.getD_some, hread]

end Form
end SessionGateway.Text
