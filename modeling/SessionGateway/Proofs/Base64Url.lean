import SessionGateway.Proofs.Utf8
import SessionGateway.Text.Base64Url

/-!
Base64 as it is written is read back, and nothing else is read. Between bytes and symbols stand the
numbers of six bits each: packing bytes into them and `unpack` undo each other, and each has a
symbol of its own.
-/

namespace SessionGateway.Text.Base64Url

def sextets : List UInt8 → List Nat
  | [] => []
  | [a] => [a.toNat / 4, a.toNat % 4 * 16]
  | [a, b] => [a.toNat / 4, a.toNat % 4 * 16 + b.toNat / 16, b.toNat % 16 * 4]
  | a :: b :: c :: rest =>
    a.toNat / 4 :: (a.toNat % 4 * 16 + b.toNat / 16) :: (b.toNat % 16 * 4 + c.toNat / 64)
      :: c.toNat % 64 :: sextets rest

theorem encode_eq_map_symbol (bytes : List UInt8) : encode bytes = (sextets bytes).map symbol := by
  induction bytes using sextets.induct with
  | case1 => rfl
  | case2 a => rfl
  | case3 a b => rfl
  | case4 a b c rest ih => simp [encode, sextets, ih]

theorem lt_of_mem_sextets {bytes : List UInt8} : ∀ n ∈ sextets bytes, n < 64 := by
  induction bytes using sextets.induct with
  | case1 => simp [sextets]
  | case2 a =>
    have ha := UInt8.toNat_lt a
    simp only [sextets, List.forall_mem_cons]
    refine ⟨by omega, by omega, by simp⟩
  | case3 a b =>
    have ha := UInt8.toNat_lt a
    have hb := UInt8.toNat_lt b
    simp only [sextets, List.forall_mem_cons]
    refine ⟨by omega, by omega, by omega, by simp⟩
  | case4 a b c rest ih =>
    have ha := UInt8.toNat_lt a
    have hb := UInt8.toNat_lt b
    have hc := UInt8.toNat_lt c
    simp only [sextets, List.forall_mem_cons]
    exact ⟨by omega, by omega, by omega, by omega, ih⟩

/-- No bytes are packed into one more number than a multiple of four. -/
theorem length_sextets (bytes : List UInt8) : (sextets bytes).length % 4 ≠ 1 := by
  induction bytes using sextets.induct with
  | case1 => decide
  | case2 a => simp [sextets]
  | case3 a b => simp [sextets]
  | case4 a b c rest ih =>
    simp only [sextets, List.length_cons]
    omega

theorem toUInt8_eq {b : UInt8} {n : Nat} (h : n = b.toNat) : n.toUInt8 = b := by
  rw [h]
  exact UInt8.ofNat_toNat

theorem unpack_sextets (bytes : List UInt8) : unpack (sextets bytes) = some bytes := by
  induction bytes using sextets.induct with
  | case1 => rfl
  | case2 a =>
    have hfirst := toUInt8_eq (b := a) (n := a.toNat / 4 * 4 + a.toNat % 4 * 16 / 16) (by omega)
    have hrest : a.toNat % 4 * 16 % 16 = 0 := by omega
    simp only [sextets, unpack, hrest, ↓reduceIte, hfirst]
  | case3 a b =>
    have hb := UInt8.toNat_lt b
    have hfirst := toUInt8_eq (b := a)
      (n := a.toNat / 4 * 4 + (a.toNat % 4 * 16 + b.toNat / 16) / 16) (by omega)
    have hsecond := toUInt8_eq (b := b)
      (n := (a.toNat % 4 * 16 + b.toNat / 16) % 16 * 16 + b.toNat % 16 * 4 / 4) (by omega)
    have hrest : b.toNat % 16 * 4 % 4 = 0 := by omega
    simp only [sextets, unpack, hrest, ↓reduceIte, hfirst, hsecond]
  | case4 a b c rest ih =>
    have hb := UInt8.toNat_lt b
    have hc := UInt8.toNat_lt c
    have hfirst := toUInt8_eq (b := a)
      (n := a.toNat / 4 * 4 + (a.toNat % 4 * 16 + b.toNat / 16) / 16) (by omega)
    have hsecond := toUInt8_eq (b := b)
      (n := (a.toNat % 4 * 16 + b.toNat / 16) % 16 * 16 + (b.toNat % 16 * 4 + c.toNat / 64) / 4)
      (by omega)
    have hthird := toUInt8_eq (b := c)
      (n := (b.toNat % 16 * 4 + c.toNat / 64) % 4 * 64 + c.toNat % 64) (by omega)
    simp only [sextets, unpack, ih, Option.bind_eq_bind, Option.bind_some, Option.pure_def,
      hfirst, hsecond, hthird]

theorem value?_symbol : ∀ n < 64, value? (symbol n) = some n := by decide

theorem filterMap_value?_map_symbol {ns : List Nat} (h : ∀ n ∈ ns, n < 64) :
    (ns.map symbol).filterMap value? = ns := by
  induction ns with
  | nil => rfl
  | cons n ns ih =>
    have hn := value?_symbol n (h n (List.mem_cons_self ..))
    have hrest := ih fun m hm => h m (List.mem_cons_of_mem _ hm)
    simp [hn, hrest]

theorem exists_value?_of_mem_encode {bytes : List UInt8} {b : UInt8} (h : b ∈ encode bytes) :
    ∃ n, value? b = some n := by
  rw [encode_eq_map_symbol] at h
  obtain ⟨n, hn, rfl⟩ := List.mem_map.mp h
  exact ⟨n, value?_symbol n (lt_of_mem_sextets n hn)⟩

theorem strange?_eq_none_iff {bytes : List UInt8} :
    strange? bytes = none ↔ ∀ b ∈ bytes, (value? b).isSome := by
  rw [strange?, List.find?_eq_none]
  constructor
  · intro h b hb
    rw [← List.zipIdx_map_fst 0 bytes] at hb
    obtain ⟨x, hx, rfl⟩ := List.mem_map.mp hb
    simpa [Option.isSome_iff_ne_none] using h x hx
  · rintro h ⟨b, i⟩ hb
    simpa [Option.isSome_iff_ne_none] using h b (List.fst_mem_of_mem_zipIdx hb)

theorem strange?_encode (bytes : List UInt8) : strange? (encode bytes) = none := by
  rw [strange?_eq_none_iff]
  intro b hb
  obtain ⟨n, hn⟩ := exists_value?_of_mem_encode hb
  rw [hn]
  rfl

theorem decode_encode (bytes : List UInt8) : decode (encode bytes) = .ok bytes := by
  have hlength : (encode bytes).length % 4 ≠ 1 := by
    rw [encode_eq_map_symbol, List.length_map]
    exact length_sextets bytes
  have hunpack : unpack ((encode bytes).filterMap value?) = some bytes := by
    rw [encode_eq_map_symbol, filterMap_value?_map_symbol lt_of_mem_sextets, unpack_sextets]
  simp only [decode, hlength, false_and, ↓reduceIte, strange?_encode, hunpack]

def text (bytes : List UInt8) : List Char := (encode bytes).map fun b => Char.ofNat b.toNat

theorem of_value? {b : UInt8} {n : Nat} (h : value? b = some n) :
    b.toNat < 0x80 ∧ b.toNat ≠ 0x2E ∧ b.toNat ≠ 0x3D := by
  unfold value? at h
  grind

theorem toNat_ofNat_of_value? {b : UInt8} {n : Nat} (h : value? b = some n) :
    (Char.ofNat b.toNat).toNat = b.toNat := by
  have hascii := (of_value? h).1
  exact toNat_ofNat_of_isValidChar (.inl (by omega))

theorem of_mem_text {bytes : List UInt8} {c : Char} (h : c ∈ text bytes) :
    c ≠ '.' ∧ c ≠ '=' := by
  obtain ⟨b, hb, rfl⟩ := List.mem_map.mp h
  obtain ⟨n, hn⟩ := exists_value?_of_mem_encode hb
  obtain ⟨-, hdot, hpad⟩ := of_value? hn
  have hnat := toNat_ofNat_of_value? hn
  constructor
  · intro hc
    rw [hc] at hnat
    exact hdot hnat.symm
  · intro hc
    rw [hc] at hnat
    exact hpad hnat.symm

theorem flatMap_eq_self {f : UInt8 → List UInt8} {bytes : List UInt8}
    (h : ∀ b ∈ bytes, f b = [b]) : bytes.flatMap f = bytes := by
  induction bytes with
  | nil => rfl
  | cons b bytes ih =>
    have hrest := ih fun a ha => h a (List.mem_cons_of_mem _ ha)
    rw [List.flatMap_cons, h b (List.mem_cons_self ..), hrest]
    rfl

theorem utf8_encode_text (bytes : List UInt8) : Utf8.encode (text bytes) = encode bytes := by
  rw [Utf8.encode, text, List.flatMap_map]
  apply flatMap_eq_self
  intro b hb
  obtain ⟨n, hn⟩ := exists_value?_of_mem_encode hb
  obtain ⟨hascii, -⟩ := of_value? hn
  have hnat := toNat_ofNat_of_value? hn
  have hbyte : b.toNat.toUInt8 = b := toUInt8_eq rfl
  simp only [Utf8.encodeChar, hnat, hascii, ↓reduceIte, hbyte]

/-! ## What is read was written -/

theorem of_value?_eq_some {b : UInt8} {n : Nat} (h : value? b = some n) :
    n < 64 ∧ symbol n = b := by
  have table : ∀ k < 256, (value? k.toUInt8).all fun n => n < 64 ∧ symbol n = k.toUInt8 := by
    decide +kernel
  have hb := table b.toNat (UInt8.toNat_lt b)
  rw [toUInt8_eq rfl, h] at hb
  simpa using hb

theorem map_symbol_filterMap_value? {bytes : List UInt8} (h : ∀ b ∈ bytes, (value? b).isSome) :
    (bytes.filterMap value?).map symbol = bytes := by
  induction bytes with
  | nil => rfl
  | cons b bytes ih =>
    obtain ⟨n, hn⟩ := Option.isSome_iff_exists.mp (h b (List.mem_cons_self ..))
    have hrest := ih fun a ha => h a (List.mem_cons_of_mem _ ha)
    rw [List.filterMap_cons_some hn, List.map_cons, (of_value?_eq_some hn).2, hrest]

theorem sextets_of_unpack {ns : List Nat} {bytes : List UInt8} (hns : ∀ n ∈ ns, n < 64)
    (h : unpack ns = some bytes) : sextets bytes = ns := by
  -- a short last group was read only with zeros in its unused bits, and zeros are written there
  induction ns using unpack.induct generalizing bytes with
  | case1 =>
    cases h
    rfl
  | case2 a => cases h
  | case3 a b hb =>
    simp only [List.forall_mem_cons] at hns
    simp only [unpack, hb, ↓reduceIte, Option.some.injEq] at h
    cases h
    have hfirst := Utf8.toNat_toUInt8 (n := a * 4 + b / 16) (by omega)
    simp only [sextets, hfirst, List.cons.injEq, and_true]
    omega
  | case4 a b hb => simp [unpack, hb] at h
  | case5 a b c hc =>
    simp only [List.forall_mem_cons] at hns
    simp only [unpack, hc, ↓reduceIte, Option.some.injEq] at h
    cases h
    have hfirst := Utf8.toNat_toUInt8 (n := a * 4 + b / 16) (by omega)
    have hsecond := Utf8.toNat_toUInt8 (n := b % 16 * 16 + c / 4) (by omega)
    simp only [sextets, hfirst, hsecond, List.cons.injEq, and_true]
    omega
  | case6 a b c hc => simp [unpack, hc] at h
  | case7 a b c d rest ih =>
    simp only [List.forall_mem_cons] at hns
    obtain ⟨ha, hb, hc, hd, hrest⟩ := hns
    obtain ⟨bytes', hbytes, h⟩ := Option.bind_eq_some_iff.mp h
    cases h
    have hfirst := Utf8.toNat_toUInt8 (n := a * 4 + b / 16) (by omega)
    have hsecond := Utf8.toNat_toUInt8 (n := b % 16 * 16 + c / 4) (by omega)
    have hthird := Utf8.toNat_toUInt8 (n := c % 4 * 64 + d) (by omega)
    simp only [sextets, hfirst, hsecond, hthird, ih hrest hbytes, List.cons.injEq, and_true]
    omega

theorem encode_of_decode {symbols bytes : List UInt8} (h : decode symbols = .ok bytes) :
    encode bytes = symbols := by
  simp only [decode] at h
  split at h
  · cases h
  split at h
  · cases h
  rename_i hstrange
  split at h
  · cases h
  split at h
  · rename_i hunpack
    cases h
    have hns : ∀ n ∈ symbols.filterMap value?, n < 64 := by
      intro n hn
      obtain ⟨b, -, hb⟩ := List.mem_filterMap.mp hn
      exact (of_value?_eq_some hb).1
    rw [encode_eq_map_symbol, sextets_of_unpack hns hunpack,
      map_symbol_filterMap_value? (strange?_eq_none_iff.mp hstrange)]
  · cases h

theorem decode_utf8_encode_eq_ok_iff {cs : List Char} {bytes : List UInt8} :
    decode (Utf8.encode cs) = .ok bytes ↔ cs = text bytes := by
  constructor
  · intro h
    have hsame : Utf8.encode (text bytes) = Utf8.encode cs := by
      rw [utf8_encode_text, encode_of_decode h]
    rw [← Utf8.validStart_encode cs, ← hsame, Utf8.validStart_encode]
  · rintro rfl
    rw [utf8_encode_text, decode_encode]

/-! ## The form of what is written -/

def alphabet : List Char :=
  "ABCDEFGHIJKLMNOPQRSTUVWXYZabcdefghijklmnopqrstuvwxyz0123456789-_".toList

/-- Symbols alone, as many as bytes can be packed into, with no bit set in the last one that stands
for no byte. -/
structure IsCanonical (cs : List Char) : Prop where
  symbols : ∀ c ∈ cs, c ∈ alphabet
  length : cs.length % 4 ≠ 1
  two : cs.length % 4 = 2 → alphabet.idxOf (cs.getLastD 'A') % 16 = 0
  three : cs.length % 4 = 3 → alphabet.idxOf (cs.getLastD 'A') % 4 = 0

def letter (n : Nat) : Char := Char.ofNat (symbol n).toNat

theorem alphabet_eq : alphabet = (List.range 64).map letter := by decide +kernel

theorem idxOf_letter : ∀ n < 64, alphabet.idxOf (letter n) = n := by
  rw [alphabet_eq]
  decide +kernel

theorem mem_alphabet_iff {c : Char} : c ∈ alphabet ↔ ∃ n < 64, letter n = c := by
  simp [alphabet_eq]

theorem exists_map_letter {cs : List Char} (h : ∀ c ∈ cs, c ∈ alphabet) :
    ∃ ns : List Nat, (∀ n ∈ ns, n < 64) ∧ ns.map letter = cs := by
  induction cs with
  | nil => exact ⟨[], nofun, rfl⟩
  | cons c cs ih =>
    obtain ⟨n, hn, hletter⟩ := mem_alphabet_iff.mp (h c List.mem_cons_self)
    obtain ⟨ns, hns, hrest⟩ := ih fun d hd => h d (List.mem_cons_of_mem _ hd)
    exact ⟨n :: ns, List.forall_mem_cons.mpr ⟨hn, hns⟩, by rw [List.map_cons, hletter, hrest]⟩

theorem text_eq_map_letter (bytes : List UInt8) : text bytes = (sextets bytes).map letter := by
  rw [text, encode_eq_map_symbol, List.map_map]
  rfl

structure Packed (ns : List Nat) : Prop where
  length : ns.length % 4 ≠ 1
  two : ns.length % 4 = 2 → ns.getLastD 0 % 16 = 0
  three : ns.length % 4 = 3 → ns.getLastD 0 % 4 = 0

theorem packed_cons {a b c d : Nat} {ns : List Nat} :
    Packed (a :: b :: c :: d :: ns) ↔ Packed ns := by
  have hlength : (a :: b :: c :: d :: ns).length % 4 = ns.length % 4 := by
    simp only [List.length_cons]
    omega
  have hlast (h : ns.length % 4 ≠ 0) : (a :: b :: c :: d :: ns).getLastD 0 = ns.getLastD 0 := by
    cases ns with
    | nil => exact absurd rfl h
    | cons n ns => simp only [List.getLastD_cons]
  constructor
  · rintro ⟨length, two, three⟩
    rw [hlength] at length two three
    refine ⟨length, fun h => ?_, fun h => ?_⟩
    · rw [← hlast (by omega)]
      exact two h
    · rw [← hlast (by omega)]
      exact three h
  · rintro ⟨length, two, three⟩
    refine ⟨hlength ▸ length, fun h => ?_, fun h => ?_⟩
    · rw [hlength] at h
      rw [hlast (by omega)]
      exact two h
    · rw [hlength] at h
      rw [hlast (by omega)]
      exact three h

theorem packed_iff {ns : List Nat} : Packed ns ↔ (unpack ns).isSome := by
  induction ns using unpack.induct with
  | case1 => exact ⟨fun _ => rfl, fun _ => ⟨by decide, nofun, nofun⟩⟩
  | case2 a => exact ⟨fun h => absurd rfl h.length, nofun⟩
  | case3 a b hb =>
    simp only [unpack, hb, ↓reduceIte, Option.isSome_some, iff_true]
    exact ⟨nofun, fun _ => hb, nofun⟩
  | case4 a b hb =>
    simp only [unpack, hb, ↓reduceIte, Option.isSome_none, Bool.false_eq_true, iff_false]
    exact fun h => hb (h.two rfl)
  | case5 a b c hc =>
    simp only [unpack, hc, ↓reduceIte, Option.isSome_some, iff_true]
    exact ⟨nofun, nofun, fun _ => hc⟩
  | case6 a b c hc =>
    simp only [unpack, hc, ↓reduceIte, Option.isSome_none, Bool.false_eq_true, iff_false]
    exact fun h => hc (h.three rfl)
  | case7 a b c d rest ih =>
    rw [packed_cons, ih, unpack]
    cases unpack rest <;> simp

theorem isCanonical_map_letter_iff {ns : List Nat} (h : ∀ n ∈ ns, n < 64) :
    IsCanonical (ns.map letter) ↔ Packed ns := by
  have hlast : alphabet.idxOf ((ns.map letter).getLastD 'A') = ns.getLastD 0 := by
    have hfirst : 'A' = letter 0 := by decide
    have hmem : ns.getLastD 0 < 64 := by
      rcases List.mem_cons.mp (List.getLastD_mem_cons (l := ns) (a := 0)) with hzero | hmem
      · omega
      · exact h _ hmem
    rw [hfirst, List.getLastD_map, idxOf_letter _ hmem]
  constructor
  · rintro ⟨-, length, two, three⟩
    rw [List.length_map] at length two three
    rw [hlast] at two three
    exact ⟨length, two, three⟩
  · rintro ⟨length, two, three⟩
    refine ⟨fun c hc => ?_, ?_, ?_, ?_⟩
    · obtain ⟨n, hn, rfl⟩ := List.mem_map.mp hc
      exact mem_alphabet_iff.mpr ⟨n, h n hn, rfl⟩
    all_goals rw [List.length_map]
    · exact length
    · rw [hlast]
      exact two
    · rw [hlast]
      exact three

theorem exists_eq_text_iff {cs : List Char} : (∃ bytes, cs = text bytes) ↔ IsCanonical cs := by
  constructor
  · rintro ⟨bytes, rfl⟩
    rw [text_eq_map_letter, isCanonical_map_letter_iff lt_of_mem_sextets, packed_iff,
      unpack_sextets]
    rfl
  · intro h
    obtain ⟨ns, hns, rfl⟩ := exists_map_letter h.symbols
    rw [isCanonical_map_letter_iff hns, packed_iff] at h
    obtain ⟨bytes, hbytes⟩ := Option.isSome_iff_exists.mp h
    exact ⟨bytes, by rw [text_eq_map_letter, sextets_of_unpack hns hbytes]⟩

end SessionGateway.Text.Base64Url
