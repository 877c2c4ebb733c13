import SessionGateway.Error
import SessionGateway.Proofs.JsonForm

/-!
Values as they are printed are read back, if they hold no floating-point number. What is read of an
object is whatever its members make one after the other, which is stated for any reader of members.
-/

namespace SessionGateway.Json

inductive FloatFree : Json → Prop
  | null : FloatFree .null
  | bool (b : Bool) : FloatFree (.bool b)
  | int (n : Int) : FloatFree (.int n)
  | str (s : String) : FloatFree (.str s)
  | arr {items : List Json} (h : ∀ v ∈ items, FloatFree v) : FloatFree (.arr items)
  | obj {members : Members} (h : ∀ m ∈ members, FloatFree m.2) : FloatFree (.obj members)

/-! ## How printed values begin -/

structure Opens (c : Char) : Prop where
  not_blank : isBlank c = false
  not_bracket : c ≠ ']'
  not_brace : c ≠ '}'

def BeginsNumber (c : Char) : Prop := c = '-' ∨ isDigit c = true

theorem BeginsNumber.ne {c d : Char} (h : BeginsNumber c) (hd : d ≠ '-' ∧ isDigit d = false) :
    c ≠ d := by
  rintro rfl
  rcases h with h | h
  · exact hd.1 h
  · rw [hd.2] at h
    cases h

theorem BeginsNumber.opens {c : Char} (h : BeginsNumber c) : Opens c where
  not_blank := by
    simp [isBlank, h.ne (d := ' ') (by decide), h.ne (d := '\t') (by decide),
      h.ne (d := '\n') (by decide), h.ne (d := '\r') (by decide)]
  not_bracket := h.ne (by decide)
  not_brace := h.ne (by decide)

theorem exists_intChars_cons (n : Int) : ∃ c cs, intChars n = c :: cs ∧ BeginsNumber c := by
  unfold intChars
  split
  · exact ⟨_, _, rfl, .inl rfl⟩
  · obtain ⟨c, cs, hcs⟩ := List.exists_cons_of_ne_nil (decimalChars_ne_nil n.natAbs)
    exact ⟨c, cs, hcs, .inr (isDigit_of_mem_decimalChars (by rw [hcs]; simp))⟩

theorem exists_chars_cons {v : Json} (h : FloatFree v) : ∃ c cs, chars v = c :: cs ∧ Opens c := by
  cases h with
  | null => exact ⟨_, _, rfl, by decide, by decide, by decide⟩
  | bool b =>
    cases b with
    | false => exact ⟨_, _, rfl, by decide, by decide, by decide⟩
    | true => exact ⟨_, _, rfl, by decide, by decide, by decide⟩
  | int n =>
    obtain ⟨c, cs, hcs, hc⟩ := exists_intChars_cons n
    exact ⟨c, cs, hcs, hc.opens⟩
  | str s => exact ⟨_, _, rfl, by decide, by decide, by decide⟩
  | arr _ => exact ⟨_, _, rfl, by decide, by decide, by decide⟩
  | obj _ => exact ⟨_, _, rfl, by decide, by decide, by decide⟩

theorem chars_arr_append (items : List Json) (rest : List Char) :
    chars (.arr items) ++ rest = '[' :: (itemsChars items ++ ']' :: rest) := by
  simp [chars]

theorem chars_obj_append (members : Members) (rest : List Char) :
    chars (.obj members) ++ rest = '{' :: (membersChars members ++ '}' :: rest) := by
  simp [chars]

theorem skipBlank_cons {c : Char} (h : isBlank c = false) (cs : List Char) :
    skipBlank (c :: cs) = c :: cs := by
  simp [skipBlank, h]

theorem endsNumber_cons {c : Char} (h : isDigit c = false ∧ c ≠ '.' ∧ c ≠ 'e' ∧ c ≠ 'E')
    (rest : List Char) : EndsNumber (c :: rest) := h

/-! ## Arrays -/

section

variable {α : Type} {item : List Char → Read (α × List Char)} {input more rest : List Char} {v : α}
  {vs : List α} {fuel : Nat}

theorem readItems_last (h : item input = .ok (v, ']' :: rest)) :
    readItems item (fuel + 1) input = .ok ([v], rest) := by
  rw [readItems, h]
  rfl

theorem readItems_more (h : item input = .ok (v, ',' :: more))
    (hmore : readItems item fuel more = .ok (vs, rest)) :
    readItems item (fuel + 1) input = .ok (v :: vs, rest) := by
  rw [readItems, h]
  simp only [bind, Except.bind, skipBlank_cons (show isBlank ',' = false by decide), hmore]
  rfl

end

section

variable {item : List Char → Read (Json × List Char)} {items : List Json}
  (hfree : ∀ v ∈ items, FloatFree v)
  (hitem : ∀ v ∈ items, ∀ rest, EndsNumber rest → item (chars v ++ rest) = .ok (v, rest))

include hfree hitem

theorem readItems_itemsChars (hne : items ≠ []) {fuel : Nat}
    (hfuel : (itemsChars items).length ≤ fuel) (rest : List Char) :
    readItems item fuel (itemsChars items ++ ']' :: rest) = .ok (items, rest) := by
  -- the fuel bounds the text, which gets shorter by a comma at least with each item
  induction items generalizing fuel with
  | nil => exact absurd rfl hne
  | cons v items ih =>
    obtain ⟨hv, hvs⟩ := List.forall_mem_cons.mp hfree
    obtain ⟨hone, hmore⟩ := List.forall_mem_cons.mp hitem
    obtain ⟨c, cs, hc, -⟩ := exists_chars_cons hv
    cases items with
    | nil =>
      obtain ⟨fuel, rfl⟩ : ∃ n, fuel = n + 1 :=
        Nat.exists_eq_add_one_of_ne_zero (by rintro rfl; simp [itemsChars, hc] at hfuel)
      exact readItems_last (hone _ (endsNumber_cons (by decide) rest))
    | cons w items =>
      obtain ⟨fuel, rfl⟩ : ∃ n, fuel = n + 1 :=
        Nat.exists_eq_add_one_of_ne_zero (by rintro rfl; simp [itemsChars, hc] at hfuel)
      have hlength : (itemsChars (w :: items)).length ≤ fuel := by
        simp only [itemsChars, hc, List.length_append, List.length_cons] at hfuel
        omega
      have hrest := ih hvs hmore (List.cons_ne_nil _ _) hlength
      rw [itemsChars, List.append_assoc, List.cons_append]
      exact readItems_more (hone _ (endsNumber_cons (by decide) _)) hrest

theorem readArrayTail_itemsChars (rest : List Char) :
    readArrayTail item (itemsChars items ++ ']' :: rest) = .ok (items, rest) := by
  cases items with
  | nil => rfl
  | cons v items =>
    obtain ⟨c, cs, hc, hopens⟩ : ∃ c cs, itemsChars (v :: items) = c :: cs ∧ Opens c := by
      obtain ⟨c, cs, hc, hopens⟩ := exists_chars_cons (hfree v (List.mem_cons_self ..))
      cases items with
      | nil => exact ⟨c, cs, hc, hopens⟩
      | cons w items => exact ⟨c, _, by rw [itemsChars, hc]; rfl, hopens⟩
    have hlength : (itemsChars (v :: items)).length
        ≤ (itemsChars (v :: items) ++ ']' :: rest).length := by simp
    have hread := readItems_itemsChars hfree hitem (List.cons_ne_nil _ _) hlength rest
    unfold readArrayTail
    split
    · rename_i after hinput
      rw [hc, List.cons_append, skipBlank_cons hopens.not_blank] at hinput
      exact absurd (List.cons.inj hinput).1 hopens.not_bracket
    · exact hread

end

/-! ## Objects -/

section

variable {σ : Type} {member : σ → String → List Char → Read (σ × List Char)}
  {add? : σ → String → Json → Option σ}

def afterMember (more : σ → List Char → Read (σ × List Char)) (out : σ × List Char) :
    Read (σ × List Char) :=
  match skipBlank out.2 with
  | '}' :: rest => .ok (out.1, rest)
  | ',' :: rest => more out.1 rest
  | _ => .error .malformed

theorem foldMembers_stringChars (fuel : Nat) (s : σ) (k : String) (input : List Char) :
    foldMembers readStringTail member (fuel + 1) s (stringChars k ++ input)
      = member s k input >>= afterMember (foldMembers readStringTail member fuel) := by
  rw [foldMembers, stringChars_append, skipBlank_cons (by decide)]
  simp only [bind, Except.bind, readStringTail_append]
  rfl

/-- A reader of members makes of a printed member what `add?` makes of the member. It fails where
`add?` does. -/
def Reads (member : σ → String → List Char → Read (σ × List Char))
    (add? : σ → String → Json → Option σ) (m : String × Json) : Prop :=
  ∀ s rest, EndsNumber rest →
    (member s m.1 (':' :: (chars m.2 ++ rest))).toOption = (add? s m.1 m.2).map (·, rest)

def addAll? (add? : σ → String → Json → Option σ) : Members → σ → Option σ
  | [], s => some s
  | m :: members, s => (add? s m.1 m.2).bind (addAll? add? members)

theorem foldMembers_membersChars {members : Members} (hreads : ∀ m ∈ members, Reads member add? m)
    (hne : members ≠ []) {fuel : Nat} (hfuel : (membersChars members).length ≤ fuel) (s : σ)
    (rest : List Char) :
    (foldMembers readStringTail member fuel s (membersChars members ++ '}' :: rest)).toOption
      = (addAll? add? members s).map (·, rest) := by
  -- as with items, but what is read so far goes along in `s`
  induction members generalizing fuel s with
  | nil => exact absurd rfl hne
  | cons m others ih =>
    obtain ⟨hm, hothers⟩ := List.forall_mem_cons.mp hreads
    obtain ⟨k, v⟩ := m
    cases others with
    | nil =>
      obtain ⟨fuel, rfl⟩ : ∃ n, fuel = n + 1 :=
        Nat.exists_eq_add_one_of_ne_zero (by rintro rfl; simp [membersChars] at hfuel)
      have hend : EndsNumber ('}' :: rest) := endsNumber_cons (by decide) rest
      rw [membersChars, List.append_assoc, List.cons_append, foldMembers_stringChars,
        toOption_bind, hm s _ hend, addAll?]
      cases add? s k v with
      | none => rfl
      | some s' => rfl
    | cons n others =>
      obtain ⟨fuel, rfl⟩ : ∃ n, fuel = n + 1 :=
        Nat.exists_eq_add_one_of_ne_zero (by rintro rfl; simp [membersChars] at hfuel)
      have hlength : (membersChars (n :: others)).length ≤ fuel := by
        simp only [membersChars, List.length_append, List.length_cons] at hfuel
        omega
      have hend : EndsNumber (',' :: (membersChars (n :: others) ++ '}' :: rest)) :=
        endsNumber_cons (by decide) _
      have hmore := ih hothers (List.cons_ne_nil _ _) hlength
      rw [membersChars, List.append_assoc, List.append_assoc, List.cons_append, List.cons_append,
        foldMembers_stringChars, toOption_bind, hm s _ hend, addAll?]
      cases add? s k v with
      | none => rfl
      | some s' => exact hmore s'

theorem readObjectTail_membersChars {members : Members}
    (hreads : ∀ m ∈ members, Reads member add? m) (s : σ) (rest : List Char) :
    (readObjectTail readStringTail member s (membersChars members ++ '}' :: rest)).toOption
      = (addAll? add? members s).map (·, rest) := by
  cases members with
  | nil => rfl
  | cons m others =>
    obtain ⟨cs, hcs⟩ : ∃ cs, membersChars (m :: others) = '"' :: cs := by
      cases others <;> exact ⟨_, rfl⟩
    have hlength : (membersChars (m :: others)).length
        ≤ (membersChars (m :: others) ++ '}' :: rest).length := by simp
    have hread := foldMembers_membersChars hreads (List.cons_ne_nil _ _) hlength s rest
    unfold readObjectTail
    split
    · rename_i after hinput
      rw [hcs, List.cons_append, skipBlank_cons (by decide)] at hinput
      cases hinput
    · exact hread

end

/-! ## Values -/

theorem readValue_of_number {depth : Nat} {c : Char} {cs : List Char} (hc : BeginsNumber c) :
    readValue depth (c :: cs) = readNumber (c :: cs) := by
  rw [readValue.eq_def, skipBlank_cons hc.opens.not_blank]
  split <;> rename_i hinput
  · exact absurd (List.cons.inj hinput).1 (hc.ne (by decide))
  · exact absurd (List.cons.inj hinput).1 (hc.ne (by decide))
  · exact absurd (List.cons.inj hinput).1 (hc.ne (by decide))
  · exact absurd (List.cons.inj hinput).1 (hc.ne (by decide))
  · exact absurd (List.cons.inj hinput).1 (hc.ne (by decide))
  · exact absurd (List.cons.inj hinput).1 (hc.ne (by decide))
  · rfl

theorem addAll?_insertMember (members : Members) (ms : Members) :
    addAll? (fun ms k v => some (insertMember k v ms)) members ms
      = some (members.foldl (fun ms m => insertMember m.1 m.2 ms) ms) := by
  induction members generalizing ms with
  | nil => rfl
  | cons m members ih => exact ih (insertMember m.1 m.2 ms)

def readMember (depth : Nat) (members : Members) (key : String) (input : List Char) :
    Read (Members × List Char) := do
  let rest ← readColon input
  let (v, rest) ← readValue depth rest
  return (insertMember key v members, rest)

theorem readValue_brace (depth : Nat) (input : List Char) :
    readValue (depth + 1) ('{' :: input) = (do
      let (members, rest) ← readObjectTail readStringTail (readMember depth) [] input
      return (.obj members, rest)) := by
  rw [readValue.eq_def]
  rfl

/-- A value without floating-point numbers is read back from its text, of which the end is seen. -/
theorem readValue_chars {depth : Nat} {v : Json} (h : Formed depth v) (hfree : FloatFree v)
    {rest : List Char} (hrest : EndsNumber rest) :
    readValue depth (chars v ++ rest) = .ok (v, rest) := by
  induction h generalizing rest with
  | null depth =>
    rw [readValue.eq_def]
    rfl
  | bool depth b =>
    rw [readValue.eq_def]
    cases b <;> rfl
  | float depth x => cases hfree
  | int depth hn =>
    rename_i n
    obtain ⟨c, cs, hcs, hc⟩ := exists_intChars_cons n
    have hnumber := readNumber_intChars hn hrest
    rw [hcs] at hnumber
    rw [chars, hcs, List.cons_append, readValue_of_number hc]
    exact hnumber
  | str depth s =>
    rw [chars, stringChars_append, readValue.eq_def, skipBlank_cons (by decide)]
    simp only [bind, Except.bind, readStringTail_append]
    rfl
  | @arr depth items hitems ih =>
    cases hfree with
    | arr hfree =>
      have htail := readArrayTail_itemsChars hfree (fun v hv rest => ih v hv (hfree v hv)) rest
      rw [chars_arr_append, readValue.eq_def, skipBlank_cons (by decide)]
      simp only [htail, bind, Except.bind]
      rfl
  | @obj depth members sorted hmembers ih =>
    cases hfree with
    | obj hfree =>
      have hreads : ∀ m ∈ members, Reads (readMember depth)
          (fun ms k v => some (insertMember k v ms)) m := by
        intro m hm ms rest hrest
        have hvalue := ih m hm (hfree m hm) hrest
        rw [readMember, readColon, skipBlank_cons (by decide)]
        simp only [bind, Except.bind, hvalue]
        rfl
      -- put in one by one, members in the order of their keys come out as they stand
      have htail := readObjectTail_membersChars hreads [] rest
      rw [addAll?_insertMember, foldl_insertMember (by simpa using sorted)] at htail
      rw [chars_obj_append, readValue_brace, eq_ok_of_toOption htail]
      rfl

end SessionGateway.Json
