import SessionGateway.Proofs.JsonRoundTrip
import SessionGateway.Session.Claims

/-!
What is read as claims from the printed members of an object, one member after the other. Each takes
the draft of the members before it to the draft of one more, unless it is a known claim with a value
of another kind.
-/

namespace SessionGateway

open Json (EndsNumber FloatFree Formed Members Reads Sorted addAll? chars toOption_bind)

namespace Claims

/-! ## What the value of a member is read as -/

abbrev InInt64 (n : Int) : Prop := Int64.minValue.toInt ≤ n ∧ n ≤ Int64.maxValue.toInt

def int64? : Json → Option Int64
  | .int n => if InInt64 n then some (Int64.ofInt n) else none
  | _ => none

def orNull {α : Type} (value? : Json → Option α) : Json → Option (Option α)
  | .null => some none
  | v => (value? v).map some

section

open Json

variable {v : Json} {rest : List Char}

theorem readText_chars (hfree : FloatFree v) (rest : List Char) :
    (readText (chars v ++ rest)).toOption = v.asString?.map (·, rest) := by
  cases hfree with
  | str s =>
    rw [chars, stringChars_append, readText, skipBlank_cons (by decide)]
    simp only [readStringTail_append]
    rfl
  | int n =>
    obtain ⟨c, cs, hcs, hc⟩ := exists_intChars_cons n
    rw [chars, hcs, List.cons_append, readText, skipBlank_cons hc.opens.not_blank]
    split
    · rename_i hinput
      exact absurd (List.cons.inj hinput).1 (hc.ne (by decide))
    · rfl
  | null => rfl
  | bool b => cases b <;> rfl
  | arr h => rfl
  | obj h => rfl

theorem readInt64_chars {depth : Nat} (hv : Formed depth v) (hfree : FloatFree v)
    (hrest : EndsNumber rest) :
    (readInt64 (chars v ++ rest)).toOption = (int64? v).map (·, rest) := by
  cases hfree with
  | int n =>
    cases hv with
    | int _ hn =>
      have hread : readValue 0 (chars (.int n) ++ rest) = .ok (.int n, rest) :=
        readValue_chars (.int 0 hn) (.int n) hrest
      rw [readInt64, readInteger, hread, int64?]
      simp only
      split <;> rfl
  | null => rfl
  | bool b => cases b <;> rfl
  | str s =>
    have hread : readValue 0 (chars (.str s) ++ rest) = .ok (.str s, rest) :=
      readValue_chars (.str 0 s) (.str s) hrest
    rw [readInt64, readInteger, hread]
    rfl
  | arr h => rfl
  | obj h => rfl

theorem readOptional_chars {α : Type} {read : List Char → Read (α × List Char)}
    {value? : Json → Option α} (hfree : FloatFree v)
    (hread : (read (chars v ++ rest)).toOption = (value? v).map (·, rest)) :
    (readOptional read (chars v ++ rest)).toOption = (orNull value? v).map (·, rest) := by
  have other {c : Char} {cs : List Char} (hcs : chars v = c :: cs) (hc : isBlank c = false)
      (hn : c ≠ 'n') : (readOptional read (chars v ++ rest)).toOption
        = ((value? v).map some).map (·, rest) := by
    rw [readOptional, hcs, List.cons_append, skipBlank_cons hc]
    split
    · rename_i hinput
      exact absurd (List.cons.inj hinput).1 hn
    · rw [← List.cons_append, ← hcs, toOption_bind, hread]
      cases value? v <;> rfl
  cases hfree with
  | null => rfl
  | bool b => cases b <;> exact other rfl (by decide) (by decide)
  | int n =>
    obtain ⟨c, cs, hcs, hc⟩ := exists_intChars_cons n
    exact other hcs hc.opens.not_blank (hc.ne (by decide))
  | str s => exact other rfl (by decide) (by decide)
  | arr h => exact other rfl (by decide) (by decide)
  | obj h => exact other rfl (by decide) (by decide)

end

/-! ## Reading members -/

def once? {α : Type} (seen value : Option α) : Option α := if seen.isSome then none else value

def Draft.add? (d : Draft) (key : String) (v : Json) : Option Draft :=
  if key = "sub" then (once? d.sub (orNull Json.asString? v)).map fun x => { d with sub := some x }
  else if key = "exp" then (once? d.exp (orNull int64? v)).map fun x => { d with exp := some x }
  else if key = "iat" then (once? d.iat (orNull int64? v)).map fun x => { d with iat := some x }
  else if key = "email" then
    (once? d.email (orNull Json.asString? v)).map fun x => { d with email := some x }
  else if key = "name" then
    (once? d.name (orNull Json.asString? v)).map fun x => { d with name := some x }
  else some { d with extra := Json.insertMember key v d.extra }

section

open Json

variable {v : Json} {rest : List Char}

theorem readColon_cons (input : List Char) : readColon (':' :: input) = .ok input := rfl

theorem readField_chars {α : Type} {read : List Char → Read (α × List Char)} {value? : Option α}
    (hread : (read (chars v ++ rest)).toOption = value?.map (·, rest)) (name : String)
    (seen : Option α) (put : α → Draft) :
    (do
      let (x, rest) ← readField name seen read (':' :: (chars v ++ rest))
      return (put x, rest) : Read (Draft × List Char)).toOption
    = ((once? seen value?).map put).map (·, rest) := by
  cases seen with
  | some x => rfl
  | none =>
    change (read (chars v ++ rest) >>= fun (x, rest) => .ok (put x, rest)).toOption = _
    rw [toOption_bind, hread]
    cases value? <;> rfl

theorem reads_readMember {m : String × Json} (hm : Formed (maxDepth - 1) m.2)
    (hfree : FloatFree m.2) : Reads Draft.readMember Draft.add? m := by
  intro d rest hrest
  have htext := readOptional_chars hfree (readText_chars hfree rest)
  have hinstant := readOptional_chars hfree (readInt64_chars hm hfree hrest)
  unfold Draft.readMember Draft.add?
  split
  · exact readField_chars htext _ _ fun x => { d with sub := some x }
  split
  · exact readField_chars hinstant _ _ fun x => { d with exp := some x }
  split
  · exact readField_chars hinstant _ _ fun x => { d with iat := some x }
  split
  · exact readField_chars htext _ _ fun x => { d with email := some x }
  split
  · exact readField_chars htext _ _ fun x => { d with name := some x }
  · have hvalue := readValue_chars hm hfree hrest
    simp only [bind, Except.bind, readColon_cons, hvalue]
    rfl

end

/-! ## What an object's members make -/

def knownNames : List String := ["sub", "exp", "iat", "email", "name"]

def isOther (m : String × Json) : Bool := ! knownNames.contains m.1

def isText : Json → Bool
  | .null | .str _ => true
  | _ => false

def isInstant : Json → Bool
  | .null => true
  | .int n => InInt64 n
  | _ => false

/-- Whether a token may have a member: text, a time or null where the claim is known, anything where
it is not. -/
def fits (m : String × Json) : Bool :=
  if ["sub", "email", "name"].contains m.1 then isText m.2
  else if ["exp", "iat"].contains m.1 then isInstant m.2
  else true

def ofMembers (members : Members) : Claims where
  sub := (members.lookup "sub").bind Json.asString?
  exp := (members.lookup "exp").bind int64?
  iat := (members.lookup "iat").bind int64?
  email := (members.lookup "email").bind Json.asString?
  name := (members.lookup "name").bind Json.asString?
  extra := members.filter isOther

def Draft.of (members : Members) : Draft where
  sub := (members.lookup "sub").map Json.asString?
  exp := (members.lookup "exp").map int64?
  iat := (members.lookup "iat").map int64?
  email := (members.lookup "email").map Json.asString?
  name := (members.lookup "name").map Json.asString?
  extra := (members.filter isOther).foldl (fun ms m => Json.insertMember m.1 m.2 ms) []

section

variable {members : Members} {k name : String} {v : Json} {d : Draft}

theorem orNull_asString? (v : Json) :
    orNull Json.asString? v = if isText v then some v.asString? else none := by
  cases v <;> rfl

theorem orNull_int64? (v : Json) :
    orNull int64? v = if isInstant v then some (int64? v) else none := by
  cases v with
  | int n =>
    by_cases hn : InInt64 n
    · simp only [orNull, int64?, isInstant, if_pos hn, decide_eq_true hn, Option.map_some,
        ↓reduceIte]
    · simp only [orNull, int64?, isInstant, if_neg hn, decide_eq_false hn, Option.map_none,
        Bool.false_eq_true, ↓reduceIte]
  | _ => rfl

theorem once?_none {α : Type} (seen : Option α) : once? seen none = none := by
  cases seen <;> rfl

theorem add?_of_not_fits (h : fits (k, v) = false) : d.add? k v = none := by
  by_cases htext : k ∈ ["sub", "email", "name"]
  · have hv : isText v = false := by simpa [fits, htext] using h
    simp only [List.mem_cons, List.not_mem_nil, or_false] at htext
    rcases htext with rfl | rfl | rfl <;> simp [Draft.add?, orNull_asString?, hv, once?_none]
  by_cases hinstant : k ∈ ["exp", "iat"]
  · have hv : isInstant v = false := by simpa [fits, htext, hinstant] using h
    simp only [List.mem_cons, List.not_mem_nil, or_false] at hinstant
    rcases hinstant with rfl | rfl <;> simp [Draft.add?, orNull_int64?, hv, once?_none]
  · simp [fits, htext, hinstant] at h

theorem addAll?_of_not_fits {m : String × Json} (hm : m ∈ members) (h : fits m = false)
    (d : Draft) : addAll? Draft.add? members d = none := by
  induction members generalizing d with
  | nil => cases hm
  | cons first others ih =>
    rw [addAll?]
    rcases List.mem_cons.mp hm with rfl | hm
    · rw [add?_of_not_fits h, Option.bind_none]
    · cases d.add? first.1 first.2 with
      | none => rfl
      | some d' => exact ih hm d'

theorem lookup_append_of_ne (h : name ≠ k) :
    (members ++ [(k, v)]).lookup name = members.lookup name := by
  have hne : (name == k) = false := by simpa using h
  simp [List.lookup_append, List.lookup_cons, hne]

theorem add?_of_fits (hfits : fits (k, v)) (hk : members.lookup k = none) :
    (Draft.of members).add? k v = some (Draft.of (members ++ [(k, v)])) := by
  by_cases htext : k ∈ ["sub", "email", "name"]
  · have hv : isText v = true := by simpa [fits, htext] using hfits
    simp only [List.mem_cons, List.not_mem_nil, or_false] at htext
    rcases htext with rfl | rfl | rfl <;>
      simp [Draft.add?, Draft.of, once?, hk, orNull_asString?, hv, List.lookup_append,
        List.lookup_cons, isOther, knownNames]
  by_cases hinstant : k ∈ ["exp", "iat"]
  · have hv : isInstant v = true := by simpa [fits, htext, hinstant] using hfits
    simp only [List.mem_cons, List.not_mem_nil, or_false] at hinstant
    rcases hinstant with rfl | rfl <;>
      simp [Draft.add?, Draft.of, once?, hk, orNull_int64?, hv, List.lookup_append,
        List.lookup_cons, isOther, knownNames]
  · simp only [List.mem_cons, List.not_mem_nil, or_false, not_or] at htext hinstant
    obtain ⟨hsub, hemail, hname⟩ := htext
    obtain ⟨hexp, hiat⟩ := hinstant
    have hother : isOther (k, v) = true := by
      simp [isOther, knownNames, hsub, hexp, hiat, hemail, hname]
    simp [Draft.add?, Draft.of, hsub, hexp, hiat, hemail, hname, hother,
      lookup_append_of_ne (Ne.symm hsub), lookup_append_of_ne (Ne.symm hexp),
      lookup_append_of_ne (Ne.symm hiat), lookup_append_of_ne (Ne.symm hemail),
      lookup_append_of_ne (Ne.symm hname)]

theorem finish_of {members : Members} (h : Sorted (members.filter isOther)) :
    (Draft.of members).finish = ofMembers members := by
  have hsorted : Sorted ([] ++ members.filter isOther) := by simpa using h
  have hextra := Json.foldl_insertMember hsorted
  have join {α : Type} (value? : Json → Option α) (key : String) :
      ((members.lookup key).map value?).join = (members.lookup key).bind value? := by
    cases members.lookup key <;> rfl
  simp only [Draft.finish, Draft.of, ofMembers, join, hextra, List.nil_append]

theorem addAll?_of_fits {seen members : Members} (hfits : ∀ m ∈ members, fits m)
    (hkeys : ((seen ++ members).map (·.1)).Nodup) :
    addAll? Draft.add? members (Draft.of seen) = some (Draft.of (seen ++ members)) := by
  -- the draft is that of the members seen so far, none of which has the key of the next
  induction members generalizing seen with
  | nil => rw [addAll?, List.append_nil]
  | cons m members ih =>
    obtain ⟨hm, hrest⟩ := List.forall_mem_cons.mp hfits
    have hnew : seen.lookup m.1 = none := by
      rw [List.lookup_eq_none_iff]
      intro a ha
      rw [List.map_append, List.map_cons] at hkeys
      have hne := (List.nodup_append.mp hkeys).2.2 a.1 (List.mem_map_of_mem ha) m.1
        (List.mem_cons_self ..)
      simpa using Ne.symm hne
    have hmore : seen ++ m :: members = (seen ++ [m]) ++ members := by simp
    rw [hmore] at hkeys
    rw [addAll?, add?_of_fits hm hnew, Option.bind_some, ih hrest hkeys, hmore]

end

/-! ## Reading whole objects -/

/-- Members that can be written and read as those of an object, in whatever order. -/
structure Writable (members : Members) : Prop where
  keys : (members.map (·.1)).Nodup
  formed : ∀ m ∈ members, Formed (Json.maxDepth - 1) m.2
  floatFree : ∀ m ∈ members, FloatFree m.2

theorem read_chars {members : Members} (h : Writable members) (rest : List Char) :
    (Claims.read (chars (.obj members) ++ rest)).toOption
      = (addAll? Draft.add? members {}).map fun d => (d.finish, rest) := by
  have hreads : ∀ m ∈ members, Reads Draft.readMember Draft.add? m := fun m hm =>
    reads_readMember (h.formed m hm) (h.floatFree m hm)
  rw [Json.chars_obj_append, Claims.read, Json.skipBlank_cons (by decide)]
  simp only [toOption_bind, Json.readObjectTail_membersChars hreads]
  cases addAll? Draft.add? members {} <;> rfl

theorem readBytes_chars {members : Members} (h : Writable members) :
    (Json.readBytes Claims.read (Text.Utf8.encode (chars (.obj members)))).toOption
      = (addAll? Draft.add? members {}).map Draft.finish := by
  have hread := read_chars h []
  rw [List.append_nil] at hread
  rw [Json.readBytes, Text.Utf8.isValid_encode, Text.Utf8.validStart_encode]
  simp only [↓reduceIte, Json.readWhole, toOption_bind, hread]
  cases addAll? Draft.add? members {} <;> rfl

end Claims

end SessionGateway
