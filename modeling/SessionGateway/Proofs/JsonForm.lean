import SessionGateway.Proofs.JsonLexeme

/-!
The form of the values that are read: objects have their members sorted by key, integers are in the
range of integers, and nothing stands deeper than it may. What one member keeps up, the whole object
keeps up; so with the items of an array.
-/

namespace SessionGateway.Json

/-! ## Sorted members -/

def Sorted (members : Members) : Prop := members.Pairwise (·.1 < ·.1)

section

variable {key : String} {value : Json} {members others : Members} {m : String × Json}

theorem mem_insertMember (h : m ∈ insertMember key value members) :
    m = (key, value) ∨ m ∈ members := by
  induction members with
  | nil => exact .inl (List.mem_singleton.mp h)
  | cons first rest ih =>
    unfold insertMember at h
    split at h
    · exact (List.mem_cons.mp h).imp_right (List.mem_cons_of_mem _)
    split at h
    · exact List.mem_cons.mp h
    · rcases List.mem_cons.mp h with rfl | hrest
      · exact .inr (List.mem_cons_self ..)
      · exact (ih hrest).imp_right (List.mem_cons_of_mem _)

theorem Sorted.insertMember (h : Sorted members) : Sorted (insertMember key value members) := by
  induction members with
  | nil => exact List.pairwise_singleton ..
  | cons first rest ih =>
    obtain ⟨hfirst, hrest⟩ := List.pairwise_cons.mp h
    unfold Json.insertMember
    split
    · rename_i heq
      exact List.pairwise_cons.mpr ⟨fun m hm => heq ▸ hfirst m hm, hrest⟩
    split
    · rename_i hlt
      refine List.pairwise_cons.mpr ⟨fun m hm => ?_, h⟩
      rcases List.mem_cons.mp hm with rfl | hm
      · exact hlt
      · exact String.lt_trans hlt (hfirst m hm)
    · rename_i hne hlt
      refine List.pairwise_cons.mpr ⟨fun m hm => ?_, ih hrest⟩
      rcases mem_insertMember hm with rfl | hm
      · exact Std.lt_of_le_of_ne (Std.not_lt.mp hlt) (Ne.symm hne)
      · exact hfirst m hm

theorem insertMember_of_forall_lt (h : ∀ m ∈ members, m.1 < key) :
    insertMember key value members = members ++ [(key, value)] := by
  induction members with
  | nil => rfl
  | cons first rest ih =>
    obtain ⟨hfirst, hrest⟩ := List.forall_mem_cons.mp h
    have hne : ¬ key = first.1 := fun heq => String.lt_irrefl _ (heq ▸ hfirst)
    have hlt : ¬ key < first.1 := String.lt_asymm hfirst
    simp only [insertMember, hne, hlt, ↓reduceIte, ih hrest, List.cons_append]

theorem foldl_insertMember (h : Sorted (members ++ others)) :
    others.foldl (fun ms m => Json.insertMember m.1 m.2 ms) members = members ++ others := by
  -- each key is greater than all before it, so each member goes to the end
  induction others generalizing members with
  | nil => simp
  | cons m others ih =>
    have hlt : ∀ a ∈ members, a.1 < m.1 := fun a ha =>
      (List.pairwise_append.mp h).2.2 a ha m (List.mem_cons_self ..)
    rw [List.foldl_cons, insertMember_of_forall_lt hlt, ih]
    · simp
    · simpa using h

theorem Sorted.nodup (h : Sorted members) : (members.map (·.1)).Nodup := by
  refine List.pairwise_map.mpr (h.imp fun hlt heq => ?_)
  exact String.lt_irrefl _ (heq ▸ hlt)

end

/-! ## Values as they are read -/

/-- A value in which at most `depth` arrays and objects stand inside one another. -/
inductive Formed : Nat → Json → Prop
  | null (depth : Nat) : Formed depth .null
  | bool (depth : Nat) (b : Bool) : Formed depth (.bool b)
  | int (depth : Nat) {n : Int} (h : InRange n) : Formed depth (.int n)
  | float (depth : Nat) (x : Binary64) : Formed depth (.float x)
  | str (depth : Nat) (s : String) : Formed depth (.str s)
  | arr {depth : Nat} {items : List Json} (h : ∀ v ∈ items, Formed depth v) :
    Formed (depth + 1) (.arr items)
  | obj {depth : Nat} {members : Members} (sorted : Sorted members)
    (h : ∀ m ∈ members, Formed depth m.2) : Formed (depth + 1) (.obj members)

section

variable {α κ σ : Type}

theorem forall_of_readItems {P : α → Prop} {item : List Char → Read (α × List Char)}
    (hitem : ∀ input v rest, item input = .ok (v, rest) → P v) {fuel : Nat} {input : List Char}
    {vs : List α} {rest : List Char} (h : readItems item fuel input = .ok (vs, rest)) :
    ∀ v ∈ vs, P v := by
  induction fuel generalizing input vs rest with
  | zero => cases h
  | succ fuel ih =>
    obtain ⟨⟨v, after⟩, hv, h⟩ := exists_of_bind_eq_ok h
    have hP : P v := hitem _ _ _ hv
    simp only at h
    split at h
    · cases h
      simpa using hP
    · obtain ⟨⟨vs', rest'⟩, hvs, h⟩ := exists_of_bind_eq_ok h
      cases h
      exact List.forall_mem_cons.mpr ⟨hP, ih hvs⟩
    · cases h

theorem forall_of_readArrayTail {P : α → Prop} {item : List Char → Read (α × List Char)}
    (hitem : ∀ input v rest, item input = .ok (v, rest) → P v) {input : List Char} {vs : List α}
    {rest : List Char} (h : readArrayTail item input = .ok (vs, rest)) : ∀ v ∈ vs, P v := by
  unfold readArrayTail at h
  split at h
  · cases h
    simp
  · exact forall_of_readItems hitem h

variable {Inv : σ → Prop} {key : List Char → Read (κ × List Char)}
  {member : σ → κ → List Char → Read (σ × List Char)}
  (hmember : ∀ s k input s' rest, Inv s → member s k input = .ok (s', rest) → Inv s')

include hmember

theorem inv_of_foldMembers {fuel : Nat} {s s' : σ} {input rest : List Char} (hs : Inv s)
    (h : foldMembers key member fuel s input = .ok (s', rest)) : Inv s' := by
  induction fuel generalizing s input with
  | zero => cases h
  | succ fuel ih =>
    unfold foldMembers at h
    split at h
    · obtain ⟨⟨k, after⟩, -, h⟩ := exists_of_bind_eq_ok h
      obtain ⟨⟨t, after'⟩, hone, h⟩ := exists_of_bind_eq_ok h
      have ht : Inv t := hmember _ _ _ _ _ hs hone
      simp only at h
      split at h
      · cases h
        exact ht
      · exact ih ht h
      · cases h
    · cases h

theorem inv_of_readObjectTail {s s' : σ} {input rest : List Char} (hs : Inv s)
    (h : readObjectTail key member s input = .ok (s', rest)) : Inv s' := by
  unfold readObjectTail at h
  split at h
  · cases h
    exact hs
  · exact inv_of_foldMembers hmember hs h

end

theorem formed_of_readNumber {depth : Nat} {input rest : List Char} {v : Json}
    (h : readNumber input = .ok (v, rest)) : Formed depth v := by
  unfold readNumber at h
  split at h
  · cases h
  split at h
  · cases h
  · rename_i hvalue
    cases h
    rcases inRange_of_value? hvalue with ⟨x, rfl⟩ | ⟨n, rfl, hn⟩
    · exact .float depth x
    · exact .int depth hn

structure Members.Formed (depth : Nat) (members : Members) : Prop where
  sorted : Sorted members
  values : ∀ m ∈ members, Json.Formed depth m.2

theorem Members.Formed.insertMember {depth : Nat} {members : Members} {key : String} {v : Json}
    (h : Members.Formed depth members) (hv : Json.Formed depth v) :
    Members.Formed depth (insertMember key v members) where
  sorted := h.sorted.insertMember
  values m hm := by
    rcases mem_insertMember hm with rfl | hm
    · exact hv
    · exact h.values m hm

theorem formed_of_readValue {depth : Nat} {input rest : List Char} {v : Json}
    (h : readValue depth input = .ok (v, rest)) : Formed depth v := by
  -- only the two brackets go down in depth; the induction is strong so that the depth is not split
  -- before it is known which case of the reader applies
  induction depth using Nat.strongRecOn generalizing input v rest with
  | ind depth ih =>
    rw [readValue.eq_def] at h
    split at h
    · cases h
      exact .null _
    · cases h
      exact .bool _ _
    · cases h
      exact .bool _ _
    · obtain ⟨⟨s, after⟩, -, h⟩ := exists_of_bind_eq_ok h
      cases h
      exact .str _ _
    · split at h
      · cases h
      · rename_i depth
        obtain ⟨⟨items, after⟩, hitems, h⟩ := exists_of_bind_eq_ok h
        cases h
        exact .arr (forall_of_readArrayTail (fun _ _ _ => ih depth (by omega)) hitems)
    · split at h
      · cases h
      · rename_i depth
        obtain ⟨⟨members, after⟩, hmembers, h⟩ := exists_of_bind_eq_ok h
        cases h
        have hformed : Members.Formed depth members := by
          refine inv_of_readObjectTail ?_ ⟨List.Pairwise.nil, by simp⟩ hmembers
          intro s k input s' rest hs hone
          obtain ⟨colon, -, hone⟩ := exists_of_bind_eq_ok hone
          obtain ⟨⟨w, after⟩, hw, hone⟩ := exists_of_bind_eq_ok hone
          cases hone
          exact hs.insertMember (ih depth (by omega) hw)
        exact .obj hformed.sorted hformed.values
    · exact formed_of_readNumber h

end SessionGateway.Json
