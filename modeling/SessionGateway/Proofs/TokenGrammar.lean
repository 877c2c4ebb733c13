import Mathlib.Data.List.Basic
import SessionGateway.Gateway.Handler
import SessionGateway.Proofs.Base64Url

/-!
Which texts are tokens. A token has two dots, and between them the canonical form of bytes that are
read as claims, with any padding after it; nothing else of it matters. Main statement:
`Token.claims_follow_grammar`.
-/

namespace SessionGateway

namespace Text

variable {p : Char → Bool}

theorem length_pieces (p : Char → Bool) (cs : List Char) :
    (pieces p cs).length = cs.countP p + 1 := by
  induction cs with
  | nil => rfl
  | cons c cs ih =>
    cases hc : p c with
    | true => simp [pieces, hc, ih]
    | false =>
      obtain ⟨q, qs, hq⟩ := List.exists_cons_of_ne_nil (pieces_ne_nil p cs)
      rw [hq] at ih
      have hcut : pieces p (c :: cs) = (c :: q) :: qs := by simp [pieces, hc, hq]
      rw [hcut, List.countP_cons_of_neg (by simp [hc]), ← ih]
      rfl

theorem pieces_eq_three_iff {sep : Char} {cs first second third : List Char} :
    pieces (· == sep) cs = [first, second, third]
      ↔ cs = first ++ sep :: (second ++ sep :: third)
        ∧ sep ∉ first ∧ sep ∉ second ∧ sep ∉ third := by
  constructor
  · intro h
    have hjoin : [sep].intercalate (pieces (· == sep) cs) = cs := intercalate_pieces (by simp)
    have hfree : ∀ w ∈ pieces (· == sep) cs, sep ∉ w := fun w hw hmem => by
      simpa using not_of_mem_pieces hw hmem
    rw [h] at hjoin hfree
    simp only [List.forall_mem_cons, List.not_mem_nil, false_implies, implies_true, and_true]
      at hfree
    exact ⟨by simpa [List.intercalate_cons_cons] using hjoin.symm, hfree⟩
  · rintro ⟨rfl, hfirst, hsecond, hthird⟩
    have hdark {w : List Char} (hw : sep ∉ w) : ∀ c ∈ w, (c == sep) = false := fun c hc => by
      simpa using fun heq : c = sep => hw (heq ▸ hc)
    rw [pieces_append_cons (hdark hfirst) (by simp), pieces_append_cons (hdark hsecond) (by simp),
      pieces_of_forall (hdark hthird)]

theorem exists_dropEndWhile_append (p : Char → Bool) (cs : List Char) :
    ∃ ds, cs = dropEndWhile p cs ++ ds ∧ ∀ d ∈ ds, p d = true := by
  refine ⟨(cs.reverse.takeWhile p).reverse, ?_, fun d hd => ?_⟩
  · rw [dropEndWhile, ← List.reverse_append, List.takeWhile_append_dropWhile, List.reverse_reverse]
  · exact List.all_eq_true.mp List.all_takeWhile d (List.mem_reverse.mp hd)

theorem getLast?_dropEndWhile {cs : List Char} {d : Char}
    (h : (dropEndWhile p cs).getLast? = some d) : p d = false := by
  rw [dropEndWhile, List.getLast?_reverse] at h
  simpa [h] using List.head?_dropWhile_not p cs.reverse

theorem dropEndWhile_eq_iff {cs ds : List Char} :
    dropEndWhile p cs = ds
      ↔ (∃ es, cs = ds ++ es ∧ ∀ e ∈ es, p e = true) ∧ ∀ d, ds.getLast? = some d → p d = false := by
  constructor
  · rintro rfl
    exact ⟨exists_dropEndWhile_append p cs, fun d => getLast?_dropEndWhile⟩
  · rintro ⟨⟨es, rfl, hes⟩, hlast⟩
    have hend : dropEndWhile p es = [] := by
      rw [← List.getLast?_eq_none_iff, Option.eq_none_iff_forall_ne_some]
      intro e he
      have hdark := getLast?_dropEndWhile he
      rw [hes e (mem_of_mem_dropEndWhile (List.mem_of_getLast? he))] at hdark
      cases hdark
    rcases List.eq_nil_or_concat ds with rfl | ⟨ds, d, rfl⟩
    · exact hend
    · rw [List.concat_eq_append, List.append_assoc, List.singleton_append,
        dropEndWhile_append_cons (hlast d (by simp)), hend]

theorem exists_trimBlank (cs : List Char) :
    ∃ before after, cs = before ++ trimBlank cs ++ after
      ∧ (∀ c ∈ before, isBlank c = true) ∧ ∀ c ∈ after, isBlank c = true := by
  obtain ⟨after, hafter, hblank⟩ := exists_dropEndWhile_append isBlank (cs.dropWhile isBlank)
  refine ⟨cs.takeWhile isBlank, after, ?_, List.all_eq_true.mp List.all_takeWhile, hblank⟩
  rw [trimBlank, List.append_assoc, ← hafter, List.takeWhile_append_dropWhile]

end Text

namespace Token

open Text (isBlank)
open Text.Base64Url (IsCanonical text)

/-- A token of which the middle one of three segments is `core` with padding after it. -/
inductive Carries (token : String) (core : List Char) : Prop where
  | segments (header padding signature : List Char)
      (token_eq : token.toList = header ++ '.' :: (core ++ padding ++ '.' :: signature))
      (header_dotFree : '.' ∉ header) (core_dotFree : '.' ∉ core)
      (signature_dotFree : '.' ∉ signature) (pad : ∀ c ∈ padding, c = '=')
      (unpadded : core.getLast? ≠ some '=')

def core? (token : String) : Option (List Char) :=
  (payload? token).map (Text.dropEndWhile (· == '='))

theorem payload?_eq_some_iff {token : String} {payload : List Char} :
    payload? token = some payload ↔ ∃ header signature,
      Text.pieces (· == '.') (Text.trimBlank token.toList) = [header, payload, signature] := by
  rw [payload?]
  split
  · rename_i header middle signature h
    simp [h]
  · rename_i h
    simp only [reduceCtorEq, false_iff]
    rintro ⟨header, signature, hthree⟩
    exact h _ _ _ hthree

theorem not_mem_of_forall_blank {cs : List Char} (h : ∀ c ∈ cs, isBlank c = true) : '.' ∉ cs := by
  intro hmem
  have hdot := h '.' hmem
  revert hdot
  decide

theorem carries_of_segments {token : String} {header payload signature : List Char}
    (h : token.toList = header ++ '.' :: (payload ++ '.' :: signature)) (hheader : '.' ∉ header)
    (hpayload : '.' ∉ payload) (hsignature : '.' ∉ signature) :
    Carries token (Text.dropEndWhile (· == '=') payload) := by
  obtain ⟨⟨padding, hpadding, hpad⟩, hlast⟩ := Text.dropEndWhile_eq_iff.mp
    (rfl : Text.dropEndWhile (· == '=') payload = _)
  refine .segments header padding signature ?_ hheader ?_ hsignature ?_ ?_
  · rw [← hpadding, h]
  · exact fun hmem => hpayload (Text.mem_of_mem_dropEndWhile hmem)
  · simpa using hpad
  · intro hend
    simpa using hlast _ hend

theorem carries_of_core? {token : String} {core : List Char} (h : core? token = some core) :
    Carries token core := by
  obtain ⟨payload, hpayload, rfl⟩ := Option.map_eq_some_iff.mp h
  obtain ⟨header, signature, hpieces⟩ := payload?_eq_some_iff.mp hpayload
  obtain ⟨htrim, hheader, hmiddle, hsignature⟩ := Text.pieces_eq_three_iff.mp hpieces
  obtain ⟨before, after, htoken, hbefore, hafter⟩ := Text.exists_trimBlank token.toList
  have hparts : token.toList
      = (before ++ header) ++ '.' :: (payload ++ '.' :: (signature ++ after)) := by
    simpa [htrim] using htoken
  refine carries_of_segments hparts ?_ hmiddle ?_
  · simpa using ⟨not_mem_of_forall_blank hbefore, hheader⟩
  · simpa using ⟨hsignature, not_mem_of_forall_blank hafter⟩

theorem core?_of_carries {token : String} {core : List Char} (h : Carries token core) :
    core? token = some core := by
  obtain ⟨header, padding, signature, htoken, hheader, hcore, hsignature, hpad, hlast⟩ := h
  have hmiddle : '.' ∉ core ++ padding := by
    simpa using ⟨hcore, fun hmem => by cases hpad _ hmem⟩
  have htrim : Text.trimBlank token.toList = header.dropWhile isBlank
      ++ '.' :: (core ++ padding ++ '.' :: Text.dropEndWhile isBlank signature) := by
    rw [htoken, Text.trimBlank_append_cons (by decide), Text.dropEndWhile_append_cons (by decide)]
  have hpayload : payload? token = some (core ++ padding) :=
    payload?_eq_some_iff.mpr ⟨_, _, Text.pieces_eq_three_iff.mpr ⟨htrim,
      fun hmem => hheader ((List.dropWhile_sublist _).subset hmem), hmiddle,
      fun hmem => hsignature (Text.mem_of_mem_dropEndWhile hmem)⟩⟩
  rw [core?, hpayload, Option.map_some, Option.some.injEq, Text.dropEndWhile_eq_iff]
  refine ⟨⟨padding, rfl, by simpa using hpad⟩, fun c hc => ?_⟩
  simpa using fun heq : c = '=' => hlast (heq ▸ hc)

theorem exists_carries_iff {token : String} :
    (∃ core, Carries token core) ↔ token.toList.count '.' = 2 := by
  constructor
  · rintro ⟨core, ⟨header, padding, signature, htoken, hheader, hcore, hsignature, hpad, -⟩⟩
    have hpadding : '.' ∉ padding := fun hmem => by cases hpad _ hmem
    simp [htoken, List.count_eq_zero.mpr hheader, List.count_eq_zero.mpr hcore,
      List.count_eq_zero.mpr hpadding, List.count_eq_zero.mpr hsignature]
  · intro h
    have hlength := Text.length_pieces (· == '.') token.toList
    rw [show token.toList.countP (· == '.') = 2 from h] at hlength
    obtain ⟨header, payload, signature, hpieces⟩ := List.length_eq_three.mp hlength
    obtain ⟨htoken, hheader, hpayload, hsignature⟩ := Text.pieces_eq_three_iff.mp hpieces
    exact ⟨_, carries_of_segments htoken hheader hpayload hsignature⟩

/-! ## Claims by what a token carries -/

variable {token token' : String} {core core' : List Char} {bytes : List UInt8}

theorem claims_of_core?_none (h : core? token = none) : claims token = .error .segments := by
  rw [claims, Option.map_eq_none_iff.mp h]

theorem claims_of_carries (h : Carries token core) :
    claims token =
      match Text.Base64Url.decode (Text.Utf8.encode core) with
      | .error cause => .error (.encoding cause)
      | .ok bytes => (Json.readBytes Claims.read bytes).mapError .claims := by
  obtain ⟨payload, hpayload, rfl⟩ := Option.map_eq_some_iff.mp (core?_of_carries h)
  simp only [claims, hpayload]
  cases Text.Base64Url.decode (Text.Utf8.encode (Text.dropEndWhile (· == '=') payload)) with
  | error cause => rfl
  | ok bytes =>
    simp only
    cases Json.readBytes Claims.read bytes <;> rfl

theorem claims_of_carries_text (h : Carries token (text bytes)) :
    claims token = (Json.readBytes Claims.read bytes).mapError .claims := by
  rw [claims_of_carries h, Text.Base64Url.decode_utf8_encode_eq_ok_iff.mpr rfl]

theorem claims_of_not_canonical (h : Carries token core) (hcore : ¬ IsCanonical core) :
    ∃ cause, claims token = .error (.encoding cause) := by
  rw [claims_of_carries h]
  cases hdecode : Text.Base64Url.decode (Text.Utf8.encode core) with
  | error cause => exact ⟨cause, rfl⟩
  | ok bytes =>
    have htext := Text.Base64Url.decode_utf8_encode_eq_ok_iff.mp hdecode
    exact absurd (Text.Base64Url.exists_eq_text_iff.mp ⟨bytes, htext⟩) hcore

/-- All that can come of a token, with what it takes for that. -/
inductive Comes (token : String) : Except DecodeError Claims → Prop where
  | segments (count : token.toList.count '.' ≠ 2) : Comes token (.error .segments)
  | encoding {core : List Char} {cause : Text.Base64Url.DecodeError} (carries : Carries token core)
      (malformed : ¬ IsCanonical core) : Comes token (.error (.encoding cause))
  | refused {bytes : List UInt8} {cause : Json.ReadError} (carries : Carries token (text bytes))
      (read : Json.readBytes Claims.read bytes = .error cause) :
      Comes token (.error (.claims cause))
  | accepted {bytes : List UInt8} {c : Claims} (carries : Carries token (text bytes))
      (read : Json.readBytes Claims.read bytes = .ok c) : Comes token (.ok c)

theorem comes_claims (token : String) : Comes token (claims token) := by
  cases hcore : core? token with
  | none =>
    rw [claims_of_core?_none hcore]
    refine .segments fun hcount => ?_
    obtain ⟨core, hcarries⟩ := exists_carries_iff.mpr hcount
    rw [core?_of_carries hcarries] at hcore
    cases hcore
  | some core =>
    have hcarries := carries_of_core? hcore
    by_cases hcanonical : IsCanonical core
    · obtain ⟨bytes, rfl⟩ := Text.Base64Url.exists_eq_text_iff.mpr hcanonical
      rw [claims_of_carries_text hcarries]
      cases hread : Json.readBytes Claims.read bytes with
      | error cause => exact .refused hcarries hread
      | ok c => exact .accepted hcarries hread
    · obtain ⟨cause, hclaims⟩ := claims_of_not_canonical hcarries hcanonical
      rw [hclaims]
      exact .encoding hcarries hcanonical

theorem claims_eq_of_carries (h : Carries token core) (h' : Carries token' core) :
    claims token' = claims token := by
  rw [claims_of_carries h, claims_of_carries h']

theorem claims_of_count_ne_two (h : token.toList.count '.' ≠ 2) :
    claims token = .error .segments := by
  apply claims_of_core?_none
  rw [Option.eq_none_iff_forall_ne_some]
  exact fun core hcore => h (exists_carries_iff.mp ⟨core, carries_of_core? hcore⟩)

theorem Carries.between {before after : List Char} (h : Carries token core)
    (hbefore : ∀ c ∈ before, isBlank c = true) (hafter : ∀ c ∈ after, isBlank c = true) :
    Carries (String.ofList (before ++ token.toList ++ after)) core := by
  obtain ⟨header, padding, signature, htoken, hheader, hcore, hsignature, hpad, hlast⟩ := h
  refine .segments (before ++ header) padding (signature ++ after) ?_ ?_ hcore ?_ hpad hlast
  · simp [htoken]
  · simpa using ⟨not_mem_of_forall_blank hbefore, hheader⟩
  · simpa using ⟨hsignature, not_mem_of_forall_blank hafter⟩

theorem claims_between {before after : List Char} (hbefore : ∀ c ∈ before, isBlank c = true)
    (hafter : ∀ c ∈ after, isBlank c = true) :
    claims (String.ofList (before ++ token.toList ++ after)) = claims token := by
  by_cases hcount : token.toList.count '.' = 2
  · obtain ⟨core, hcore⟩ := exists_carries_iff.mpr hcount
    exact claims_eq_of_carries hcore (hcore.between hbefore hafter)
  · have hsame : (String.ofList (before ++ token.toList ++ after)).toList.count '.'
        = token.toList.count '.' := by
      simp [List.count_eq_zero.mpr (not_mem_of_forall_blank hbefore),
        List.count_eq_zero.mpr (not_mem_of_forall_blank hafter)]
    rw [claims_of_count_ne_two hcount, claims_of_count_ne_two (hsame ▸ hcount)]

/-- The claims of a token are those of the bytes whose canonical form it carries. What is refused
has other than two dots, no canonical form between them, or the form of bytes that are no claims,
and a login with it fails for its token. Nothing else of a token matters: not what stands before and
after the dots, blanks around it included, nor the padding. Of two cores that are read as the same
bytes each is the other. -/
theorem claims_follow_grammar (token : String) :
    (∀ c, claims token = .ok c
      ↔ ∃ bytes, Carries token (text bytes) ∧ Json.readBytes Claims.read bytes = .ok c)
    ∧ (claims token = .error .segments ↔ token.toList.count '.' ≠ 2)
    ∧ ((∃ cause, claims token = .error (.encoding cause))
      ↔ ∃ core, Carries token core ∧ ¬ IsCanonical core)
    ∧ ((∃ cause, claims token = .error (.claims cause))
      ↔ ∃ bytes, Carries token (text bytes) ∧ ∀ c, Json.readBytes Claims.read bytes ≠ .ok c)
    ∧ (∀ core, IsCanonical core ↔ ∃ bytes, core = text bytes)
    ∧ (∀ token' core, Carries token core → Carries token' core → claims token' = claims token)
    ∧ (∀ before after, (∀ c ∈ before, isBlank c = true) → (∀ c ∈ after, isBlank c = true) →
      claims (String.ofList (before ++ token.toList ++ after)) = claims token)
    ∧ (∀ core core' bytes, Text.Base64Url.decode (Text.Utf8.encode core) = .ok bytes →
      Text.Base64Url.decode (Text.Utf8.encode core') = .ok bytes → core = core')
    ∧ ∀ e, claims token = .error e → ∀ (c : Context) now, (Login.mk token).problem? = none →
      Handler.login c now ⟨token⟩ = (c, .fail (.invalidToken e.message)) := by
  -- each outcome can come in one way only, so that the way can be read off it
  have comes := comes_claims token
  refine ⟨fun c => ⟨fun h => ?_, ?_⟩, ⟨fun h => ?_, claims_of_count_ne_two⟩,
    ⟨?_, fun ⟨core, hcarries, hcore⟩ => claims_of_not_canonical hcarries hcore⟩, ⟨?_, ?_⟩,
    fun core => Text.Base64Url.exists_eq_text_iff.symm, fun _ _ => claims_eq_of_carries,
    fun _ _ => claims_between, ?_, ?_⟩
  · rw [h] at comes
    cases comes with
    | accepted carries read => exact ⟨_, carries, read⟩
  · rintro ⟨bytes, hcarries, hread⟩
    rw [claims_of_carries_text hcarries, hread]
    rfl
  · rw [h] at comes
    cases comes with
    | segments count => exact count
  · rintro ⟨cause, h⟩
    rw [h] at comes
    cases comes with
    | encoding carries malformed => exact ⟨_, carries, malformed⟩
  · rintro ⟨cause, h⟩
    rw [h] at comes
    cases comes with
    | refused carries read => exact ⟨_, carries, fun c hc => by simp [read] at hc⟩
  · rintro ⟨bytes, hcarries, hnone⟩
    rw [claims_of_carries_text hcarries]
    cases hread : Json.readBytes Claims.read bytes with
    | error cause => exact ⟨cause, rfl⟩
    | ok c => exact absurd hread (hnone c)
  · intro core core' bytes hdecode hdecode'
    rw [Text.Base64Url.decode_utf8_encode_eq_ok_iff] at hdecode hdecode'
    rw [hdecode, hdecode']
  · intro e he c now hproblem
    simp only [Handler.login, hproblem, Auth.login, he]
    rfl

namespace Sample

def nobody : Claims := ⟨none, none, none, none, none, []⟩

def emptyObject : List UInt8 := [0x7B, 0x7D]

theorem readBytes_emptyObject : Json.readBytes Claims.read emptyObject = .ok nobody := by rfl

theorem text_emptyObject : text emptyObject = "e30".toList := by decide +kernel

theorem carries_emptyObject {token : String} (header signature : List Char)
    (h : token.toList = header ++ '.' :: ("e30".toList ++ '.' :: signature))
    (hheader : '.' ∉ header) (hsignature : '.' ∉ signature) : Carries token (text emptyObject) := by
  rw [text_emptyObject]
  exact carries_of_segments h hheader (by decide +kernel) hsignature

theorem claims_of_emptyObject {token : String} (header signature : List Char)
    (h : token.toList = header ++ '.' :: ("e30".toList ++ '.' :: signature))
    (hheader : '.' ∉ header) (hsignature : '.' ∉ signature) : claims token = .ok nobody := by
  rw [claims_of_carries_text (carries_emptyObject header signature h hheader hsignature),
    readBytes_emptyObject]
  rfl

end Sample

/-- An empty object between a space and a line end, with padding, is read as it is without. One bit
more in its last symbol, or padding before that, and there is no reading it; with one dot there is
nothing to read. -/
theorem claims_of_padded_token :
    Carries " h.e30==.s\n" (text Sample.emptyObject)
    ∧ claims " h.e30==.s\n" = .ok Sample.nobody ∧ claims "h.e30.s" = .ok Sample.nobody
    ∧ (∃ cause, claims "h.e31.s" = .error (.encoding cause))
    ∧ (∃ cause, claims "h.e3=0.s" = .error (.encoding cause))
    ∧ claims "h.e30" = .error .segments := by
  have hpadded : Carries " h.e30==.s\n" (text Sample.emptyObject) := by
    rw [Sample.text_emptyObject]
    exact .segments " h".toList "==".toList "s\n".toList
      (by decide +kernel) (by decide +kernel) (by decide +kernel) (by decide +kernel)
      (by simp) (by decide +kernel)
  have carried (core : List Char) (token : String)
      (htoken : token.toList = ['h'] ++ '.' :: (core ++ [] ++ '.' :: ['s'])) (hdot : '.' ∉ core)
      (hlast : core.getLast? ≠ some '=') : Carries token core :=
    .segments ['h'] [] ['s'] htoken (by decide) hdot (by decide) (by simp) hlast
  have hplain : Carries "h.e30.s" (text Sample.emptyObject) :=
    Sample.carries_emptyObject ['h'] ['s'] (by decide +kernel) (by decide) (by decide)
  have hspare := carried "e31".toList "h.e31.s" (by decide +kernel) (by decide +kernel)
    (by decide +kernel)
  have hpad := carried "e3=0".toList "h.e3=0.s" (by decide +kernel) (by decide +kernel)
    (by decide +kernel)
  obtain ⟨accepted, -, -, -, -, same, -⟩ := claims_follow_grammar " h.e30==.s\n"
  have hclaims := (accepted Sample.nobody).mpr ⟨_, hpadded, Sample.readBytes_emptyObject⟩
  refine ⟨hpadded, hclaims, (same _ _ hpadded hplain).trans hclaims, ?_, ?_, ?_⟩
  · refine (claims_follow_grammar "h.e31.s").2.2.1.mpr ⟨_, hspare, fun h => ?_⟩
    exact absurd (h.three (by decide +kernel)) (by decide +kernel)
  · refine (claims_follow_grammar "h.e3=0.s").2.2.1.mpr ⟨_, hpad, fun h => ?_⟩
    exact absurd (h.symbols '=' (by decide +kernel)) (by decide +kernel)
  · exact (claims_follow_grammar "h.e30").2.1.mpr (by decide +kernel)

end Token
end SessionGateway
