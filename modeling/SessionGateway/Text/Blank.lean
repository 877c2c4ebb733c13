/-!
White space, and cutting text at white space or at a separator.
-/

namespace SessionGateway.Text

/-- The characters with the property White_Space. -/
def isBlank (c : Char) : Bool :=
  let n := c.toNat
  (0x09 ≤ n && n ≤ 0x0D) || n == 0x20 || n == 0x85 || n == 0xA0 || n == 0x1680
    || (0x2000 ≤ n && n ≤ 0x200A) || n == 0x2028 || n == 0x2029 || n == 0x202F || n == 0x205F
    || n == 0x3000

def dropEndWhile (p : Char → Bool) (cs : List Char) : List Char :=
  (cs.reverse.dropWhile p).reverse

def trimBlank (cs : List Char) : List Char :=
  dropEndWhile isBlank (cs.dropWhile isBlank)

def trim (s : String) : String := String.ofList (trimBlank s.toList)

/-- The pieces between separators, the empty ones included: always one more than separators. -/
def pieces (isSeparator : Char → Bool) : List Char → List (List Char)
  | [] => [[]]
  | c :: cs =>
    if isSeparator c then [] :: pieces isSeparator cs
    else
      match pieces isSeparator cs with
      | [] => [[c]]
      | p :: ps => (c :: p) :: ps

def words (cs : List Char) : List (List Char) :=
  (pieces isBlank cs).filter (! ·.isEmpty)

def cutAt (separator : Char) (cs : List Char) : List Char × Option (List Char) :=
  match cs.dropWhile (· != separator) with
  | [] => (cs, none)
  | _ :: rest => (cs.takeWhile (· != separator), some rest)

section

variable {p : Char → Bool} {c : Char}

theorem dropWhile_append_cons (hc : p c = false) (cs ds : List Char) :
    (cs ++ c :: ds).dropWhile p = cs.dropWhile p ++ c :: ds := by
  induction cs with
  | nil => simp [hc]
  | cons d cs ih =>
    cases hd : p d with
    | false => simp [hd]
    | true => simpa [hd] using ih

theorem dropEndWhile_append_cons (hc : p c = false) (cs ds : List Char) :
    dropEndWhile p (cs ++ c :: ds) = cs ++ c :: dropEndWhile p ds := by
  have hreverse : (cs ++ c :: ds).reverse = ds.reverse ++ c :: cs.reverse := by simp
  rw [dropEndWhile, hreverse, dropWhile_append_cons hc]
  simp [dropEndWhile]

theorem mem_of_mem_dropEndWhile {cs : List Char} (h : c ∈ dropEndWhile p cs) : c ∈ cs := by
  have hreverse := (List.dropWhile_sublist p).subset (List.mem_reverse.mp h)
  exact List.mem_reverse.mp hreverse

theorem trimBlank_append_cons (hc : isBlank c = false) (cs ds : List Char) :
    trimBlank (cs ++ c :: ds) = cs.dropWhile isBlank ++ c :: dropEndWhile isBlank ds := by
  rw [trimBlank, dropWhile_append_cons hc, dropEndWhile_append_cons hc]

end

theorem pieces_ne_nil (p : Char → Bool) (cs : List Char) : pieces p cs ≠ [] := by
  cases cs with
  | nil => simp [pieces]
  | cons c cs =>
    rw [pieces]
    split
    · simp
    · split <;> simp

variable {p : Char → Bool}

theorem pieces_append_separator {c : Char} (hc : p c = true) (cs ds : List Char) :
    pieces p (cs ++ c :: ds) = pieces p cs ++ pieces p ds := by
  induction cs with
  | nil => simp [pieces, hc]
  | cons d cs ih =>
    obtain ⟨q, qs, hq⟩ := List.exists_cons_of_ne_nil (pieces_ne_nil p cs)
    rw [hq, List.cons_append] at ih
    cases hd : p d <;> simp [pieces, hd, hq, ih]

theorem pieces_of_forall {w : List Char} (hw : ∀ d ∈ w, p d = false) : pieces p w = [w] := by
  induction w with
  | nil => rfl
  | cons d w ih =>
    have hd : p d = false := hw d (List.mem_cons_self ..)
    have hrest := ih fun e he => hw e (List.mem_cons_of_mem _ he)
    simp [pieces, hd, hrest]

theorem pieces_append_cons {w : List Char} {c : Char} (hw : ∀ d ∈ w, p d = false)
    (hc : p c = true) (cs : List Char) : pieces p (w ++ c :: cs) = w :: pieces p cs := by
  rw [pieces_append_separator hc, pieces_of_forall hw, List.singleton_append]

theorem not_of_mem_pieces {cs w : List Char} {d : Char} (hw : w ∈ pieces p cs) (hd : d ∈ w) :
    p d = false := by
  induction cs generalizing w with
  | nil => simp_all [pieces]
  | cons c cs ih =>
    rw [pieces] at hw
    split at hw
    · rcases List.mem_cons.mp hw with rfl | hw
      · cases hd
      · exact ih hw hd
    · rename_i hc
      split at hw
      · rename_i hnil
        exact absurd hnil (pieces_ne_nil p cs)
      · rename_i q qs hcs
        rw [hcs] at ih
        rcases List.mem_cons.mp hw with rfl | hw
        · rcases List.mem_cons.mp hd with rfl | hd
          · simpa using hc
          · exact ih (List.mem_cons_self ..) hd
        · exact ih (List.mem_cons_of_mem _ hw) hd

theorem pieces_intercalate {sep : Char} (hsep : p sep = true) {ws : List (List Char)}
    (hne : ws ≠ []) (hws : ∀ w ∈ ws, ∀ d ∈ w, p d = false) :
    pieces p ([sep].intercalate ws) = ws := by
  induction ws with
  | nil => exact absurd rfl hne
  | cons w ws ih =>
    have hw := hws w (List.mem_cons_self ..)
    cases ws with
    | nil => simpa using pieces_of_forall hw
    | cons v ws =>
      have hrest := ih (List.cons_ne_nil _ _) fun u hu => hws u (List.mem_cons_of_mem _ hu)
      rw [List.intercalate_cons_cons, List.append_assoc, List.singleton_append,
        pieces_append_cons hw hsep, hrest]

theorem intercalate_pieces {sep : Char} {cs : List Char} (h : ∀ c ∈ cs, p c = true → c = sep) :
    [sep].intercalate (pieces p cs) = cs := by
  induction cs with
  | nil => rfl
  | cons c cs ih =>
    have hrest := ih fun d hd => h d (List.mem_cons_of_mem _ hd)
    rw [pieces]
    split
    · rename_i hc
      have hsep : c = sep := h c (List.mem_cons_self ..) hc
      rw [List.intercalate_cons_of_ne_nil (pieces_ne_nil p cs), hrest, hsep]
      rfl
    · split
      · rename_i hnil
        exact absurd hnil (pieces_ne_nil p cs)
      · rename_i q qs hcs
        rw [hcs] at hrest
        cases qs with
        | nil => simpa using hrest
        | cons r qs => simpa [List.intercalate_cons_cons] using hrest

end SessionGateway.Text
