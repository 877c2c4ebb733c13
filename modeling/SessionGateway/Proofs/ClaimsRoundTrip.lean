import SessionGateway.Proofs.ClaimsDraft
import SessionGateway.Proofs.TokenGrammar

/-!
Claims as they are written into a token are read back from it, and what was read from any token can
be written again. Reading keeps the claims that are not known sorted and apart from the known ones,
so that together they are the members of one object.
-/

namespace SessionGateway

open Json (FloatFree Formed Members Sorted addAll? chars)

/-! ## Tokens -/

namespace Token

abbrev DotFree (s : String) : Prop := '.' ∉ s.toList

def write (header : String) (claims : Json) (signature : String) : String :=
  let payload := Text.Base64Url.text (Text.Utf8.encode claims.render.toList)
  header ++ "." ++ String.ofList payload ++ "." ++ signature

theorem carries_write {header signature : String} {claims : Json} (hh : DotFree header)
    (hs : DotFree signature) :
    Carries (write header claims signature)
      (Text.Base64Url.text (Text.Utf8.encode (chars claims))) := by
  refine .segments header.toList [] signature.toList ?_ hh
    (fun hdot => (Text.Base64Url.of_mem_text hdot).1 rfl) hs nofun ?_
  · simp [write, Json.render]
  · exact fun hpad => (Text.Base64Url.of_mem_text (List.mem_of_getLast? hpad)).2 rfl

theorem claims_write {header signature : String} {claims : Json} (hh : DotFree header)
    (hs : DotFree signature) :
    Token.claims (write header claims signature)
      = (Json.readBytes Claims.read (Text.Utf8.encode (chars claims))).mapError .claims :=
  claims_of_carries_text (carries_write hh hs)

variable {header signature : String} {members : Members}

theorem claims_of_fits (h : Claims.Writable members) (hfits : ∀ m ∈ members, Claims.fits m)
    (hh : DotFree header) (hs : DotFree signature) :
    Token.claims (write header (.obj members) signature)
      = .ok (Claims.Draft.of members).finish := by
  have hkeys : ((([] : Members) ++ members).map (·.1)).Nodup := h.keys
  have hadd : addAll? Claims.Draft.add? members {} = some (Claims.Draft.of members) :=
    Claims.addAll?_of_fits hfits hkeys
  have hread := Claims.readBytes_chars h
  rw [hadd, Option.map_some] at hread
  rw [claims_write hh hs, eq_ok_of_toOption hread]
  rfl

theorem claims_of_not_fits (h : Claims.Writable members) {m : String × Json} (hm : m ∈ members)
    (hfits : Claims.fits m = false) (hh : DotFree header) (hs : DotFree signature) :
    ∃ cause, Token.claims (write header (.obj members) signature) = .error (.claims cause) := by
  have hread := Claims.readBytes_chars h
  rw [Claims.addAll?_of_not_fits hm hfits, Option.map_none] at hread
  rw [claims_write hh hs]
  cases hbytes : Json.readBytes Claims.read (Text.Utf8.encode (chars (.obj members))) with
  | error cause => exact ⟨cause, rfl⟩
  | ok c =>
    rw [hbytes] at hread
    cases hread

end Token

/-! ## Claims of a token -/

namespace Claims

theorem members_of_formed {depth : Nat} {members : Members} (h : Formed depth (.obj members)) :
    Sorted members ∧ ∀ m ∈ members, Formed (depth - 1) m.2 := by
  cases h with
  | obj sorted h => exact ⟨sorted, by simpa using h⟩

theorem writable_of_formed {members : Members} (hformed : Formed Json.maxDepth (.obj members))
    (hfree : FloatFree (.obj members)) : Writable members := by
  obtain ⟨hsorted, hvalues⟩ := members_of_formed hformed
  cases hfree with
  | obj hfree => exact ⟨hsorted.nodup, hvalues, hfree⟩

structure Others (members : Members) : Prop where
  formed : Json.Members.Formed (Json.maxDepth - 1) members
  other : ∀ m ∈ members, isOther m = true

theorem others_of_readMember {d d' : Draft} {key : String} {input rest : List Char}
    (hd : Others d.extra) (h : d.readMember key input = .ok (d', rest)) : Others d'.extra := by
  by_cases hknown : key ∈ knownNames
  · have hextra : d'.extra = d.extra := by
      simp only [knownNames, List.mem_cons, List.not_mem_nil, or_false] at hknown
      rcases hknown with rfl | rfl | rfl | rfl | rfl <;>
        simp only [Draft.readMember, String.reduceEq, ↓reduceIte] at h <;>
        obtain ⟨out, -, h⟩ := Json.exists_of_bind_eq_ok h <;>
        cases h <;>
        rfl
    rw [hextra]
    exact hd
  · have hother : isOther (key, .null) = true := by simpa [isOther] using hknown
    simp only [knownNames, List.mem_cons, List.not_mem_nil, or_false, not_or] at hknown
    obtain ⟨hsub, hexp, hiat, hemail, hname⟩ := hknown
    simp only [Draft.readMember, hsub, hexp, hiat, hemail, hname, ↓reduceIte] at h
    obtain ⟨colon, -, h⟩ := Json.exists_of_bind_eq_ok h
    obtain ⟨⟨v, after⟩, hv, h⟩ := Json.exists_of_bind_eq_ok h
    cases h
    refine ⟨hd.formed.insertMember (Json.formed_of_readValue hv), fun m hm => ?_⟩
    rcases Json.mem_insertMember hm with rfl | hm
    · exact hother
    · exact hd.other m hm

theorem others_of_read {c : Claims} {input rest : List Char}
    (h : Claims.read input = .ok (c, rest)) : Others c.extra := by
  unfold Claims.read at h
  split at h
  · obtain ⟨⟨d, after⟩, hd, h⟩ := Json.exists_of_bind_eq_ok h
    cases h
    have hstart : Others ({} : Draft).extra := ⟨⟨List.Pairwise.nil, nofun⟩, nofun⟩
    exact Json.inv_of_readObjectTail (fun _ _ _ _ _ => others_of_readMember) hstart hd
  · cases h

theorem others_of_readBytes {c : Claims} {bytes : List UInt8}
    (h : Json.readBytes Claims.read bytes = .ok c) : Others c.extra := by
  unfold Json.readBytes at h
  simp only at h
  split at h
  · obtain ⟨⟨c', rest⟩, hread, h⟩ := Json.exists_of_bind_eq_ok h
    simp only at h
    split at h
    · cases h
      exact others_of_read hread
    · cases h
  · obtain ⟨_, -, h⟩ := Json.exists_of_bind_eq_ok h
    cases h

theorem others_of_token {c : Claims} {token : String} (h : Token.claims token = .ok c) :
    Others c.extra := by
  unfold Token.claims at h
  split at h
  · cases h
  simp only at h
  split at h
  · cases h
  split at h
  · cases h
  · rename_i hread
    cases h
    exact others_of_readBytes hread

/-! ## Claims as an object -/

def known (c : Claims) : Members :=
  textMember "sub" c.sub ++ instantMember "exp" c.exp ++ instantMember "iat" c.iat
    ++ textMember "email" c.email ++ textMember "name" c.name

def members (c : Claims) : Members := c.known ++ c.extra

theorem toJson_eq (c : Claims) : c.toJson = .obj c.members := rfl

section

variable {key name : String} {text : Option String} {time : Option Int64} {c : Claims}

theorem lookup_toList {α : Type} (put : α → Json) (value : Option α) :
    (value.map fun x => (key, put x)).toList.lookup name
      = if name = key then value.map put else none := by
  cases value with
  | none => simp
  | some x =>
    by_cases h : name = key
    · simp [h]
    · have hne : (name == key) = false := by simpa using h
      simp [List.lookup_cons, h, hne]

theorem lookup_textMember :
    (textMember key text).lookup name = if name = key then text.map Json.str else none :=
  lookup_toList Json.str text

theorem lookup_instantMember :
    (instantMember key time).lookup name
      = if name = key then time.map (fun n => Json.int n.toInt) else none :=
  lookup_toList (fun n => Json.int n.toInt) time

theorem forall_mem_members {P : String × Json → Prop}
    (htext : ∀ key ∈ ["sub", "email", "name"], ∀ s, P (key, .str s))
    (htime : ∀ key ∈ ["exp", "iat"], ∀ n : Int64, P (key, .int n.toInt))
    (hextra : ∀ m ∈ c.extra, P m) : ∀ m ∈ c.members, P m := by
  intro m hm
  have text {key : String} {value : Option String} (h : m ∈ textMember key value)
      (hkey : key ∈ ["sub", "email", "name"]) : P m := by
    obtain ⟨s, -, rfl⟩ := Option.map_eq_some_iff.mp (Option.mem_toList.mp h)
    exact htext key hkey s
  have time {key : String} {value : Option Int64} (h : m ∈ instantMember key value)
      (hkey : key ∈ ["exp", "iat"]) : P m := by
    obtain ⟨n, -, rfl⟩ := Option.map_eq_some_iff.mp (Option.mem_toList.mp h)
    exact htime key hkey n
  simp only [members, known, List.mem_append] at hm
  rcases hm with ((((hm | hm) | hm) | hm) | hm) | hm
  · exact text hm (by decide)
  · exact time hm (by decide)
  · exact time hm (by decide)
  · exact text hm (by decide)
  · exact text hm (by decide)
  · exact hextra m hm

theorem not_mem_knownNames (h : Others c.extra) {m : String × Json} (hm : m ∈ c.extra) :
    m.1 ∉ knownNames := by
  simpa [isOther] using h.other m hm

theorem fits_members (h : Others c.extra) : ∀ m ∈ c.members, fits m := by
  apply forall_mem_members
  · intro key hkey s
    simp [fits, hkey, isText]
  · intro key hkey n
    have hn : InInt64 n.toInt := ⟨Int64.minValue_le_toInt n, Int64.toInt_le n⟩
    have hinstant : isInstant (.int n.toInt) = true := decide_eq_true hn
    have hother : key ∉ ["sub", "email", "name"] := by
      revert key
      decide
    simp only [fits, List.contains_eq_mem, hkey, hother, hinstant, decide_true, decide_false,
      Bool.false_eq_true, ↓reduceIte]
  · intro m hm
    have hother := not_mem_knownNames h hm
    simp_all [fits, knownNames]

theorem lookup_extra (h : Others c.extra) (hname : name ∈ knownNames) :
    c.extra.lookup name = none := by
  rw [List.lookup_eq_none_iff]
  intro m hm
  have hne : name ≠ m.1 := fun heq => not_mem_knownNames h hm (heq ▸ hname)
  simpa using hne

theorem keys_textMember : ((textMember key text).map (·.1)).Sublist [key] := by
  cases text <;> simp [textMember]

theorem keys_instantMember : ((instantMember key time).map (·.1)).Sublist [key] := by
  cases time <;> simp [instantMember]

theorem keys_known : (c.known.map (·.1)).Sublist knownNames := by
  simp only [known, List.map_append]
  exact (((keys_textMember.append keys_instantMember).append keys_instantMember).append
    keys_textMember).append keys_textMember

theorem nodup_members (h : Others c.extra) : (c.members.map (·.1)).Nodup := by
  rw [members, List.map_append, List.nodup_append]
  refine ⟨keys_known.nodup (by decide), h.formed.sorted.nodup, ?_⟩
  rintro k hk k' hk' rfl
  obtain ⟨m, hm, rfl⟩ := List.mem_map.mp hk'
  exact not_mem_knownNames h hm (keys_known.subset hk)

theorem filter_members (h : Others c.extra) : c.members.filter isOther = c.extra := by
  have hknown : c.known.filter isOther = [] := by
    rw [List.filter_eq_nil_iff]
    intro m hm
    have hname := keys_known.subset (List.mem_map_of_mem hm)
    simpa [isOther] using hname
  rw [members, List.filter_append, hknown, List.nil_append, List.filter_eq_self]
  exact h.other

theorem ofMembers_members (h : Others c.extra) : ofMembers c.members = c := by
  have htext (value : Option String) : (value.map Json.str).bind Json.asString? = value := by
    cases value <;> rfl
  have htime (value : Option Int64) :
      (value.map fun n => Json.int n.toInt).bind int64? = value := by
    cases value with
    | none => rfl
    | some n =>
      have hn : InInt64 n.toInt := ⟨Int64.minValue_le_toInt n, Int64.toInt_le n⟩
      simp only [Option.map_some, Option.bind_some, int64?, if_pos hn, Int64.ofInt_toInt]
  have hextra (name : String) (hname : name ∈ knownNames) :
      c.members.lookup name = c.known.lookup name := by
    rw [members, List.lookup_append, lookup_extra h hname, Option.or_none]
  rw [ofMembers, filter_members h, hextra "sub" (by decide), hextra "exp" (by decide),
    hextra "iat" (by decide), hextra "email" (by decide), hextra "name" (by decide)]
  simp [known, List.lookup_append, lookup_textMember, lookup_instantMember, htext, htime]

theorem writable_members (h : Others c.extra) (hfree : ∀ m ∈ c.extra, FloatFree m.2) :
    Writable c.members where
  keys := nodup_members h
  formed := by
    apply forall_mem_members
    · exact fun _ _ s => .str _ s
    · intro _ _ n
      have hhigh : n.toInt < UInt64.size := Int.lt_of_le_of_lt (Int64.toInt_le n) (by decide)
      exact .int _ ⟨Int64.minValue_le_toInt n, hhigh⟩
    · exact h.formed.values
  floatFree := forall_mem_members (fun _ _ s => .str s) (fun _ _ n => .int _) hfree

end

end Claims

namespace Token

/-- An object of which the known claims have values of their kinds is decoded, from the token that
it is written into, to those that are not null and to the others as they are; one in which a known
claim has another value is refused. What was decoded without floating-point numbers is an object of
different keys when it is written, and is decoded to the same claims again. -/
theorem claims_round_trip (header signature : String) (hh : DotFree header)
    (hs : DotFree signature) :
    (∀ members, Formed Json.maxDepth (.obj members) → FloatFree (.obj members) →
      ((∀ m ∈ members, Claims.fits m) →
        Token.claims (write header (.obj members) signature) = .ok (Claims.ofMembers members))
      ∧ ((∃ m ∈ members, Claims.fits m = false) →
        ∃ cause, Token.claims (write header (.obj members) signature) = .error (.claims cause)))
    ∧ ∀ token c, Token.claims token = .ok c → (∀ m ∈ c.extra, FloatFree m.2) →
      ∃ members, c.toJson = .obj members ∧ (members.map (·.1)).Nodup
        ∧ Token.claims (write header c.toJson signature) = .ok c := by
  constructor
  · intro members hformed hfree
    have hwritable := Claims.writable_of_formed hformed hfree
    have hothers : Sorted (members.filter Claims.isOther) :=
      (Claims.members_of_formed hformed).1.filter _
    refine ⟨fun hfits => ?_, fun ⟨m, hm, hfits⟩ => claims_of_not_fits hwritable hm hfits hh hs⟩
    rw [claims_of_fits hwritable hfits hh hs, Claims.finish_of hothers]
  · -- the known claims are written first, so the object as a whole is not sorted
    intro token c hc hfree
    have hothers := Claims.others_of_token hc
    have hwritable := Claims.writable_members hothers hfree
    have hsorted : Sorted (c.members.filter Claims.isOther) := by
      rw [Claims.filter_members hothers]
      exact hothers.formed.sorted
    refine ⟨c.members, rfl, hwritable.keys, ?_⟩
    rw [Claims.toJson_eq, claims_of_fits hwritable (Claims.fits_members hothers) hh hs,
      Claims.finish_of hsorted, Claims.ofMembers_members hothers]

namespace Sample

def ada : Members := [("exp", .int 10), ("roles", .arr [.str "requester"]), ("sub", .str "ada")]

def decoded : Claims :=
  ⟨some "ada", some 10, none, none, none, [("roles", .arr [.str "requester"])]⟩

theorem sorted_ada : Sorted ada := by
  have hroles : "exp" < "roles" := by decide +kernel
  have hsub : "roles" < "sub" := by decide +kernel
  refine List.pairwise_cons.mpr ⟨?_, List.pairwise_cons.mpr ⟨?_, List.pairwise_singleton ..⟩⟩
  · simp only [List.forall_mem_cons]
    exact ⟨hroles, String.lt_trans hroles hsub, nofun⟩
  · simp only [List.forall_mem_cons]
    exact ⟨hsub, nofun⟩

theorem formed_ada : Formed Json.maxDepth (.obj ada) := by
  have hroles : Formed 126 (.arr [.str "requester"]) := .arr (by simp [Formed.str])
  have hexp : Formed 126 (.int 10) := .int 126 ⟨by decide, by decide⟩
  exact .obj sorted_ada (by simpa [ada] using ⟨hexp, hroles, .str 126 _⟩)

theorem floatFree_ada : FloatFree (.obj ada) := by
  have hroles : FloatFree (.arr [.str "requester"]) := .arr (by simpa using .str _)
  exact .obj (by simpa [ada] using ⟨.int _, hroles, .str _⟩)

theorem fits_ada : ∀ m ∈ ada, Claims.fits m := by decide

end Sample

theorem claims_of_ada_round_trip :
    DotFree "h" ∧ DotFree "s" ∧ Formed Json.maxDepth (.obj Sample.ada)
    ∧ FloatFree (.obj Sample.ada) ∧ (∀ m ∈ Sample.ada, Claims.fits m)
    ∧ Token.claims (write "h" (.obj Sample.ada) "s") = .ok Sample.decoded
    ∧ (∀ m ∈ Sample.decoded.extra, FloatFree m.2)
    ∧ Token.claims (write "h" Sample.decoded.toJson "s") = .ok Sample.decoded
    ∧ Claims.fits ("sub", .int 1) = false
    ∧ ∃ cause, Token.claims (write "h" (.obj [("sub", .int 1)]) "s") = .error (.claims cause) := by
  have hh : DotFree "h" := by decide +kernel
  have hs : DotFree "s" := by decide +kernel
  obtain ⟨hread, hagain⟩ := claims_round_trip "h" "s" hh hs
  have hclaims := (hread Sample.ada Sample.formed_ada Sample.floatFree_ada).1 Sample.fits_ada
  have hdecoded : Claims.ofMembers Sample.ada = Sample.decoded := by
    have hten : Claims.int64? (.int 10) = some 10 := by decide +kernel
    simp [Claims.ofMembers, Sample.ada, Sample.decoded, List.lookup_cons, Claims.isOther,
      Claims.knownNames, hten, Json.asString?]
  rw [hdecoded] at hclaims
  have hfree : ∀ m ∈ Sample.decoded.extra, FloatFree m.2 := by
    have hroles : FloatFree (.arr [.str "requester"]) := .arr (by simpa using .str _)
    simpa [Sample.decoded] using hroles
  obtain ⟨-, -, -, hwritten⟩ := hagain _ _ hclaims hfree
  have hnumber : Formed Json.maxDepth (.obj [("sub", .int 1)]) :=
    .obj (List.pairwise_singleton ..) (by simpa using .int 126 ⟨by decide, by decide⟩)
  have hrefused := (hread [("sub", .int 1)] hnumber (.obj (by simp [FloatFree.int]))).2
    ⟨_, List.mem_singleton_self _, by decide⟩
  exact ⟨hh, hs, Sample.formed_ada, Sample.floatFree_ada, Sample.fits_ada, hclaims, hfree,
    hwritten, by decide, hrefused⟩

end Token
end SessionGateway
