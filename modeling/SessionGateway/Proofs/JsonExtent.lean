import SessionGateway.Proofs.JsonForm

/-!
The extent of what is read: a reader leaves no more text than it was given, and a string that it
reads is shorter than the text that it was read from. So no JSON text has itself as one of its
members.
-/

namespace SessionGateway.Json

/-! ## Strings and numbers -/

section

variable {input rest : List Char}

theorem length_skipBlank_le (input : List Char) : (skipBlank input).length ≤ input.length :=
  (List.dropWhile_suffix isBlank).length_le

theorem length_lt_of_skipBlank {c : Char} (h : skipBlank input = c :: rest) :
    rest.length < input.length := by
  have hle := length_skipBlank_le input
  rw [h, List.length_cons] at hle
  omega

theorem length_of_scanString {pieces : List Piece} (h : scanString input = some (pieces, rest)) :
    pieces.length + rest.length < input.length := by
  fun_induction scanString input generalizing pieces rest with
  | case1 => cases h
  | case2 => cases h; simp
  | case3 a b c d tail ih =>
    obtain ⟨n, -, h⟩ := Option.bind_eq_some_iff.mp h
    obtain ⟨⟨ps, after⟩, htail, h⟩ := Option.bind_eq_some_iff.mp h
    cases h
    have hshort := ih htail
    simp only [List.length_cons]
    omega
  | case4 c tail _ ih =>
    obtain ⟨meaning, -, h⟩ := Option.bind_eq_some_iff.mp h
    obtain ⟨⟨ps, after⟩, htail, h⟩ := Option.bind_eq_some_iff.mp h
    cases h
    have hshort := ih htail
    simp only [List.length_cons]
    omega
  | case5 => cases h
  | case6 c tail _ _ _ _ ih =>
    obtain ⟨⟨ps, after⟩, htail, h⟩ := Option.bind_eq_some_iff.mp h
    cases h
    have hshort := ih htail
    simp only [List.length_cons]
    omega

theorem length_of_pieceChars? {pieces : List Piece} {cs : List Char}
    (h : pieceChars? pieces = some cs) : cs.length ≤ pieces.length := by
  fun_induction pieceChars? pieces generalizing cs with
  | case1 => cases h; simp
  | case2 c tail ih =>
    obtain ⟨ds, htail, h⟩ := Option.bind_eq_some_iff.mp h
    cases h
    simpa using ih htail
  | case3 n tail _ ih =>
    obtain ⟨ds, htail, h⟩ := Option.bind_eq_some_iff.mp h
    cases h
    simpa using ih htail
  | case4 n _ m tail _ ih =>
    obtain ⟨ds, htail, h⟩ := Option.bind_eq_some_iff.mp h
    cases h
    simpa using Nat.le_succ_of_le (ih htail)
  | case5 => cases h
  | case6 => cases h

theorem length_of_readStringTail {s : String} (h : readStringTail input = .ok (s, rest)) :
    s.length + rest.length < input.length := by
  unfold readStringTail at h
  split at h
  · cases h
  rename_i hscan
  split at h
  · cases h
  rename_i hchars
  cases h
  have hpieces := length_of_scanString hscan
  have hcs := length_of_pieceChars? hchars
  rw [String.length_ofList]
  omega

theorem length_of_scanDigits {digits : List Char} (h : scanDigits input = some (digits, rest)) :
    rest.length ≤ input.length := by
  unfold scanDigits at h
  simp only at h
  split at h
  · cases h
  · cases h
    exact (List.dropWhile_suffix isDigit).length_le

theorem length_of_scanWhole {digits : List Char} (h : scanWhole input = some (digits, rest)) :
    rest.length ≤ input.length := by
  unfold scanWhole at h
  split at h
  · split at h
    · cases h
    · cases h
      simp
  · exact length_of_scanDigits h

theorem length_of_scanFraction {digits : Option (List Char)}
    (h : scanFraction input = some (digits, rest)) : rest.length ≤ input.length := by
  unfold scanFraction at h
  split at h
  · obtain ⟨⟨ds, after⟩, hdigits, h⟩ := Option.bind_eq_some_iff.mp h
    cases h
    exact Nat.le_succ_of_le (length_of_scanDigits hdigits)
  · cases h
    exact Nat.le_refl _

theorem length_of_scanSigned {exponent : Bool × List Char}
    (h : scanSigned input = some (exponent, rest)) : rest.length ≤ input.length := by
  unfold scanSigned at h
  split at h
  · obtain ⟨⟨ds, after⟩, hdigits, h⟩ := Option.bind_eq_some_iff.mp h
    cases h
    exact Nat.le_succ_of_le (length_of_scanDigits hdigits)
  · obtain ⟨⟨ds, after⟩, hdigits, h⟩ := Option.bind_eq_some_iff.mp h
    cases h
    exact Nat.le_succ_of_le (length_of_scanDigits hdigits)
  · obtain ⟨⟨ds, after⟩, hdigits, h⟩ := Option.bind_eq_some_iff.mp h
    cases h
    exact length_of_scanDigits hdigits

theorem length_of_scanExponent {exponent : Option (Bool × List Char)}
    (h : scanExponent input = some (exponent, rest)) : rest.length ≤ input.length := by
  unfold scanExponent at h
  split at h
  · split at h
    · obtain ⟨⟨signed, after⟩, hsigned, h⟩ := Option.bind_eq_some_iff.mp h
      cases h
      exact Nat.le_succ_of_le (length_of_scanSigned hsigned)
    · cases h
      exact Nat.le_refl _
  · cases h
    exact Nat.le_refl _

theorem length_of_scanUnsigned {negative : Bool} {number : NumberText}
    (h : scanUnsigned negative input = some (number, rest)) : rest.length ≤ input.length := by
  obtain ⟨⟨whole, afterWhole⟩, hwhole, h⟩ := Option.bind_eq_some_iff.mp h
  obtain ⟨⟨fraction, afterFraction⟩, hfraction, h⟩ := Option.bind_eq_some_iff.mp h
  obtain ⟨⟨exponent, afterExponent⟩, hexponent, h⟩ := Option.bind_eq_some_iff.mp h
  cases h
  calc rest.length
    _ ≤ afterFraction.length := length_of_scanExponent hexponent
    _ ≤ afterWhole.length := length_of_scanFraction hfraction
    _ ≤ input.length := length_of_scanWhole hwhole

theorem length_of_scanNumber {number : NumberText} (h : scanNumber input = some (number, rest)) :
    rest.length ≤ input.length := by
  unfold scanNumber at h
  split at h
  · exact Nat.le_succ_of_le (length_of_scanUnsigned h)
  · exact length_of_scanUnsigned h

end

/-! ## Arrays and objects -/

def Shortens {α : Type} (read : List Char → Read (α × List Char)) : Prop :=
  ∀ input v rest, read input = .ok (v, rest) → rest.length ≤ input.length

section

variable {α κ σ : Type} {input rest : List Char}

theorem shortens_readStringTail : Shortens readStringTail := fun _ _ _ h => by
  have hlength := length_of_readStringTail h
  omega

theorem Shortens.readItems {item : List Char → Read (α × List Char)} (hitem : Shortens item)
    (fuel : Nat) : Shortens (readItems item fuel) := by
  induction fuel with
  | zero =>
    intro input vs rest h
    cases h
  | succ fuel ih =>
    intro input vs rest h
    obtain ⟨⟨v, after⟩, hv, h⟩ := exists_of_bind_eq_ok h
    have hafter := hitem _ _ _ hv
    simp only at h
    split at h
    · rename_i hblank
      cases h
      exact Nat.le_trans (Nat.le_of_lt (length_lt_of_skipBlank hblank)) hafter
    · rename_i hblank
      obtain ⟨⟨vs', rest'⟩, hvs, h⟩ := exists_of_bind_eq_ok h
      cases h
      have hcomma := length_lt_of_skipBlank hblank
      have hrest : rest'.length ≤ _ := ih _ _ _ hvs
      exact Nat.le_trans hrest (Nat.le_trans (Nat.le_of_lt hcomma) hafter)
    · cases h

theorem Shortens.readArrayTail {item : List Char → Read (α × List Char)} (hitem : Shortens item) :
    Shortens (readArrayTail item) := by
  intro input vs rest h
  unfold Json.readArrayTail at h
  split at h
  · rename_i hblank
    cases h
    exact Nat.le_of_lt (length_lt_of_skipBlank hblank)
  · exact hitem.readItems _ _ _ _ h

variable {P : σ → Prop} {bound : Nat} {key : List Char → Read (κ × List Char)}
  {member : σ → κ → List Char → Read (σ × List Char)} (hkey : Shortens key)
  (hmember : ∀ s k input s' rest, P s → input.length < bound →
    member s k input = .ok (s', rest) → P s' ∧ rest.length ≤ input.length)

include hkey hmember

theorem inv_and_length_of_foldMembers {fuel : Nat} {s s' : σ} (hs : P s)
    (hbound : input.length ≤ bound) (h : foldMembers key member fuel s input = .ok (s', rest)) :
    P s' ∧ rest.length ≤ input.length := by
  induction fuel generalizing s input with
  | zero => cases h
  | succ fuel ih =>
    unfold foldMembers at h
    split at h
    · rename_i hblank
      have hquote := length_lt_of_skipBlank hblank
      obtain ⟨⟨k, afterKey⟩, hk, h⟩ := exists_of_bind_eq_ok h
      have hafterKey := hkey _ _ _ hk
      obtain ⟨⟨t, after⟩, hone, h⟩ := exists_of_bind_eq_ok h
      obtain ⟨ht, hafter⟩ := hmember _ _ _ _ _ hs (by omega) hone
      simp only at h
      split at h
      · rename_i hclose
        have hend := length_lt_of_skipBlank hclose
        cases h
        exact ⟨ht, by omega⟩
      · rename_i hcomma
        have hnext := length_lt_of_skipBlank hcomma
        obtain ⟨hs', hrest⟩ := ih ht (by omega) h
        exact ⟨hs', by omega⟩
      · cases h
    · cases h

theorem inv_and_length_of_readObjectTail {s s' : σ} (hs : P s) (hbound : input.length ≤ bound)
    (h : readObjectTail key member s input = .ok (s', rest)) :
    P s' ∧ rest.length ≤ input.length := by
  unfold readObjectTail at h
  split at h
  · rename_i hblank
    cases h
    exact ⟨hs, Nat.le_of_lt (length_lt_of_skipBlank hblank)⟩
  · exact inv_and_length_of_foldMembers hkey hmember hs hbound h

end

/-! ## Values -/

def StringWithin (bound : Nat) (v : Json) : Prop := ∀ s, v = .str s → s.length < bound

/-- Where the value is a string it is shorter than `bound`, and so are the strings among the members
of an object. -/
def Within (bound : Nat) : Json → Prop
  | .str s => s.length < bound
  | .obj members => ∀ m ∈ members, StringWithin bound m.2
  | _ => True

section

variable {depth bound : Nat} {v : Json} {input rest : List Char}

theorem Within.stringWithin (h : Within bound v) : StringWithin bound v := by
  rintro s rfl
  exact h

theorem length_of_readColon (h : readColon input = .ok rest) : rest.length < input.length := by
  unfold readColon at h
  split at h
  · rename_i hblank
    cases h
    exact length_lt_of_skipBlank hblank
  · cases h

theorem within_of_readNumber (h : readNumber input = .ok (v, rest)) :
    Within bound v ∧ rest.length ≤ input.length := by
  unfold readNumber at h
  split at h
  · cases h
  rename_i hscan
  split at h
  · cases h
  rename_i hvalue
  cases h
  refine ⟨?_, length_of_scanNumber hscan⟩
  rcases inRange_of_value? hvalue with ⟨x, rfl⟩ | ⟨n, rfl, -⟩ <;> trivial

theorem stringWithin_of_member {members members' : Members} {key : String}
    (hvalue : ∀ {input : List Char} {v : Json} {rest : List Char},
      readValue depth input = .ok (v, rest) → Within input.length v ∧ rest.length ≤ input.length)
    (hmembers : ∀ m ∈ members, StringWithin bound m.2) (hbound : input.length < bound)
    (h : (do
      let rest ← readColon input
      let (v, rest) ← readValue depth rest
      return (insertMember key v members, rest)) = Except.ok (members', rest)) :
    (∀ m ∈ members', StringWithin bound m.2) ∧ rest.length ≤ input.length := by
  obtain ⟨afterColon, hcolon, h⟩ := exists_of_bind_eq_ok h
  obtain ⟨⟨w, after⟩, hw, h⟩ := exists_of_bind_eq_ok h
  cases h
  have hshorter := length_of_readColon hcolon
  obtain ⟨hwithin, hafter⟩ := hvalue hw
  refine ⟨fun m hm => ?_, by omega⟩
  rcases mem_insertMember hm with rfl | hm
  · intro s heq
    have hlength := hwithin.stringWithin s heq
    omega
  · exact hmembers m hm

theorem within_of_readValue (h : readValue depth input = .ok (v, rest)) :
    Within input.length v ∧ rest.length ≤ input.length := by
  -- as with the form of values, only the two brackets go down in depth
  induction depth using Nat.strongRecOn generalizing input v rest with
  | ind depth ih =>
    have hblanks := length_skipBlank_le input
    rw [readValue.eq_def] at h
    split at h
    · rename_i hnull
      cases h
      simp only [hnull, List.length_cons] at hblanks
      exact ⟨trivial, by omega⟩
    · rename_i htrue
      cases h
      simp only [htrue, List.length_cons] at hblanks
      exact ⟨trivial, by omega⟩
    · rename_i hfalse
      cases h
      simp only [hfalse, List.length_cons] at hblanks
      exact ⟨trivial, by omega⟩
    · rename_i hquote
      have hopen := length_lt_of_skipBlank hquote
      obtain ⟨⟨s, after⟩, hs, h⟩ := exists_of_bind_eq_ok h
      cases h
      have hlength := length_of_readStringTail hs
      exact ⟨show s.length < input.length by omega, by omega⟩
    · rename_i hbracket
      have hopen := length_lt_of_skipBlank hbracket
      split at h
      · cases h
      · rename_i depth
        obtain ⟨⟨items, after⟩, hitems, h⟩ := exists_of_bind_eq_ok h
        cases h
        have hshort : Shortens (readValue depth) := fun _ _ _ h => (ih depth (by omega) h).2
        have hrest := hshort.readArrayTail _ _ _ hitems
        exact ⟨trivial, by omega⟩
    · rename_i hbrace
      have hopen := length_lt_of_skipBlank hbrace
      split at h
      · cases h
      · rename_i depth
        obtain ⟨⟨members, after⟩, hmembers, h⟩ := exists_of_bind_eq_ok h
        cases h
        obtain ⟨hall, hrest⟩ := inv_and_length_of_readObjectTail shortens_readStringTail
          (fun _ _ _ _ _ => stringWithin_of_member (ih depth (by omega))) (by simp)
          (Nat.le_of_lt hopen) hmembers
        exact ⟨hall, by omega⟩
    · exact (within_of_readNumber h).imp_right (Nat.le_trans · hblanks)

end

/-- No text is among the strings that it has as members. -/
theorem length_lt_of_parse {text key s : String} {members : Members}
    (h : parse text = .ok (.obj members)) (hs : members.lookup key = some (.str s)) :
    s.length < text.length := by
  obtain ⟨⟨v, rest⟩, hread, h⟩ := exists_of_bind_eq_ok h
  simp only at h
  split at h
  · cases h
    obtain ⟨before, after, rfl, -⟩ := List.lookup_eq_some_iff.mp hs
    have hwithin := (within_of_readValue hread).1 (key, .str s) (by simp) s rfl
    rwa [String.length_toList] at hwithin
  · cases h

end SessionGateway.Json
