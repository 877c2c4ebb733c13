import SessionGateway.Proofs.EntryOrigin
import SessionGateway.Proofs.Failures
import SessionGateway.Proofs.Percent

/-!
How far an accepted id or kind stays one segment of the path that is called. Tabs and line ends are
dropped from a segment after it has been looked at, so the segment is what is left without them; it
stays under its collection unless that is nothing, one dot or two.
-/

namespace SessionGateway

namespace Text.Percent

variable {inSet : Char → Bool} {c d : Char} {cs : List Char}

theorem eq_dot_of_toLower : ∀ n < 256, (hexUpper (n / 16)).toLower = '2' →
    (hexUpper (n % 16)).toLower = 'e' → n = 0x2E := by
  decide +kernel

/-- A character that does not stand for itself begins with a percent sign and two digits; they are
not those of a dot, which would stand for itself. -/
theorem exists_encodeChar_of_coded (hdot : standsForItself inSet '.' = true)
    (h : standsForItself inSet c = false) :
    ∃ x y rest, encodeChar inSet c = '%' :: x :: y :: rest
      ∧ ¬ (x.toLower = '2' ∧ y.toLower = 'e') := by
  obtain ⟨b, bs, hb, hascii⟩ := Utf8.exists_encodeChar_cons c
  have hcoded : encodeChar inSet c = (Utf8.encodeChar c).flatMap encodeByte :=
    if_neg (Bool.eq_false_iff.mp h)
  refine ⟨hexUpper (b.toNat / 16), hexUpper (b.toNat % 16), bs.flatMap encodeByte, ?_, ?_⟩
  · rw [hcoded, hb, List.flatMap_cons]
    rfl
  · -- a first byte that is the dot's is that of an ASCII character, so of the dot itself
    rintro ⟨hx, hy⟩
    have hbyte := eq_dot_of_toLower b.toNat (UInt8.toNat_lt b) hx hy
    have hc : c.toNat = ('.' : Char).toNat := by
      rw [← hascii (by omega), hbyte]
      rfl
    have hceq : c = '.' := Char.toNat_inj.mp hc
    rw [hceq, hdot] at h
    cases h

theorem eq_of_toLower : ∀ n < 0x80, ((Char.ofNat n).toLower = '.' → n = 0x2E)
    ∧ ((Char.ofNat n).toLower = '%' → n = 0x25) := by
  decide +kernel

theorem eq_of_toLower_of_standsForItself (h : standsForItself inSet c = true) :
    (c.toLower = '.' → c = '.') ∧ (c.toLower = '%' → c = '%') := by
  have hascii : c.toNat < 0x80 := by simpa using (Bool.and_eq_true_iff.mp h).1
  have hall := eq_of_toLower c.toNat hascii
  rw [Char.ofNat_toNat] at hall
  exact ⟨fun hc => Char.toNat_inj.mp (hall.1 hc), fun hc => Char.toNat_inj.mp (hall.2 hc)⟩

/-- A set that writes the percent sign by its byte, and the dot by itself. -/
structure SparesDot (inSet : Char → Bool) : Prop where
  dot : standsForItself inSet '.' = true
  percent : standsForItself inSet '%' = false

theorem eq_dot_of_encode (hset : SparesDot inSet) {rest : List Char}
    (h : (encode inSet cs).map Char.toLower = '.' :: rest) :
    ∃ ds, cs = '.' :: ds ∧ (encode inSet ds).map Char.toLower = rest := by
  cases cs with
  | nil => cases h
  | cons c cs =>
    rw [encode_cons, List.map_append] at h
    cases hc : standsForItself inSet c with
    | true =>
      rw [encodeChar_of_standsForItself hc] at h
      simp only [List.map_cons, List.map_nil, List.singleton_append, List.cons.injEq] at h
      have hdot := (eq_of_toLower_of_standsForItself hc).1 h.1
      exact ⟨cs, by rw [hdot], h.2⟩
    | false =>
      obtain ⟨x, y, tail, hcoded, -⟩ := exists_encodeChar_of_coded hset.dot hc
      rw [hcoded] at h
      have hhead : ('%' : Char).toLower = '.' := (List.cons.inj h).1
      exact absurd hhead (by decide)

theorem encode_ne_coded_dot (hset : SparesDot inSet) (rest : List Char) :
    (encode inSet cs).map Char.toLower ≠ '%' :: '2' :: 'e' :: rest := by
  -- a percent sign would be written by its byte, and no other byte is that of a dot
  intro h
  cases cs with
  | nil => cases h
  | cons c cs =>
    rw [encode_cons, List.map_append] at h
    cases hc : standsForItself inSet c with
    | true =>
      rw [encodeChar_of_standsForItself hc] at h
      simp only [List.map_cons, List.map_nil, List.singleton_append, List.cons.injEq] at h
      have hpercent := (eq_of_toLower_of_standsForItself hc).2 h.1
      rw [hpercent, hset.percent] at hc
      cases hc
    | false =>
      obtain ⟨x, y, tail, hcoded, hdigits⟩ := exists_encodeChar_of_coded hset.dot hc
      rw [hcoded] at h
      simp only [List.map_cons, List.cons_append, List.cons.injEq] at h
      exact hdigits ⟨h.2.1, h.2.2.1⟩

theorem encode_eq_nil (hset : SparesDot inSet) (h : (encode inSet cs).map Char.toLower = []) :
    cs = [] := by
  cases cs with
  | nil => rfl
  | cons c cs =>
    rw [encode_cons, List.map_append] at h
    cases hc : standsForItself inSet c with
    | true =>
      rw [encodeChar_of_standsForItself hc] at h
      cases h
    | false =>
      obtain ⟨x, y, tail, hcoded, -⟩ := exists_encodeChar_of_coded hset.dot hc
      rw [hcoded] at h
      cases h

end Text.Percent

namespace Url

open Text.Percent

theorem sparesDot (special : Bool) : SparesDot (inSegmentSet special) := by
  cases special <;> exact ⟨by decide, by decide⟩

theorem isSingleDot_encode_iff {special : Bool} {cs : List Char} :
    isSingleDot (encode (inSegmentSet special) cs) = true ↔ cs = ['.'] := by
  constructor
  · intro h
    simp only [isSingleDot, Bool.or_eq_true, beq_iff_eq] at h
    rcases h with h | h
    · have hlower : (encode (inSegmentSet special) cs).map Char.toLower = ['.'] := by
        rw [h]
        decide
      obtain ⟨ds, rfl, hds⟩ := eq_dot_of_encode (sparesDot special) hlower
      rw [encode_eq_nil (sparesDot special) hds]
    · exact absurd h (encode_ne_coded_dot (sparesDot special) [])
  · rintro rfl
    cases special <;> decide

theorem isDoubleDot_encode_iff {special : Bool} {cs : List Char} :
    isDoubleDot (encode (inSegmentSet special) cs) = true ↔ cs = ['.', '.'] := by
  constructor
  · intro h
    have hset := sparesDot special
    simp only [isDoubleDot, List.cons_append, List.nil_append, List.contains_eq_mem,
      decide_eq_true_eq, List.mem_cons, List.not_mem_nil, or_false] at h
    rcases h with h | h | h | h
    · obtain ⟨ds, rfl, hds⟩ := eq_dot_of_encode hset h
      obtain ⟨es, rfl, hes⟩ := eq_dot_of_encode hset hds
      rw [encode_eq_nil hset hes]
    · obtain ⟨ds, rfl, hds⟩ := eq_dot_of_encode hset h
      exact absurd hds (encode_ne_coded_dot hset [])
    · exact absurd h (encode_ne_coded_dot hset ['.'])
    · exact absurd h (encode_ne_coded_dot hset ['%', '2', 'e'])
  · rintro rfl
    cases special <;> decide

/-- Text that is one segment of a path to whoever reads the path: it is not empty, it is no dot
segment, and nothing in it ends a segment. -/
structure IsSegment (text : String) : Prop where
  ne_empty : text ≠ ""
  not_single : isSingleDot text.toList = false
  not_double : isDoubleDot text.toList = false
  no_end : ∀ c ∈ text.toList, c ≠ '/' ∧ c ≠ '\\' ∧ c ≠ '?' ∧ c ≠ '#'

theorem no_end_of_mem_encode {c : Char} {cs : List Char}
    (h : c ∈ encode (inSegmentSet true) cs) : c ≠ '/' ∧ c ≠ '\\' ∧ c ≠ '?' ∧ c ≠ '#' := by
  have hdigits : ∀ d ∈ hexDigits, d ≠ '/' ∧ d ≠ '\\' ∧ d ≠ '?' ∧ d ≠ '#' := by
    simp [hexDigits]
  rcases mem_encode h with rfl | hdigit | hspared
  · decide
  · exact hdigits c hdigit
  · refine ⟨?_, ?_, ?_, ?_⟩ <;> rintro rfl <;> exact absurd hspared (by decide)

theorem isSegment_encode {cs : List Char} (hne : cs ≠ []) (h1 : cs ≠ ['.'])
    (h2 : cs ≠ ['.', '.']) :
    IsSegment (String.ofList (encode (inSegmentSet true) cs)) where
  ne_empty h := by
    have hlist : encode (inSegmentSet true) cs = [] := by
      rw [← String.toList_ofList (l := encode (inSegmentSet true) cs), h]
      rfl
    exact hne (encode_eq_nil (sparesDot true) (by rw [hlist]; rfl))
  not_single := by
    rw [String.toList_ofList, Bool.eq_false_iff]
    exact fun h => h1 (isSingleDot_encode_iff.mp h)
  not_double := by
    rw [String.toList_ofList, Bool.eq_false_iff]
    exact fun h => h2 (isDoubleDot_encode_iff.mp h)
  no_end c hc := no_end_of_mem_encode (by rwa [String.toList_ofList] at hc)

def ground (u : Url) : List String :=
  match u.path with
  | .flat _ => []
  | .segments list => if popEmpty list = [""] then [] else popEmpty list

theorem pushSegment_below {above : List String} {first s : String} (hs : s ≠ "." ∧ s ≠ "..")
    (hfirst : first ≠ "") (hdrive : namesDrive first = false) :
    pushSegment true (above ++ [first]) s
      = if kept s.toList = ['.', '.'] then above ++ [""]
        else if kept s.toList = ['.'] then above ++ [first, ""]
        else above ++ [first, String.ofList (encode (inSegmentSet true) (kept s.toList))] := by
  -- `first` is there, so this is not the path of the root, and going up drops just `first`
  have hroot : above ++ [first] ≠ [""] := by
    intro h
    have hlast := congrArg List.getLast? h
    simp only [List.getLast?_append, List.getLast?_singleton, Option.some_or,
      Option.some.injEq] at hlast
    exact hfirst hlast
  have hparent : parent (above ++ [first]) = above := by
    simp [parent, hdrive]
  unfold pushSegment
  simp only [hs.1, hs.2, or_self, ↓reduceIte, hroot, hparent, isDoubleDot_encode_iff,
    isSingleDot_encode_iff, List.append_assoc, List.cons_append, List.nil_append]

theorem pushSegment_ground {u : Url} {list : List String} (hpath : u.path = .segments list)
    {first : String} (hdot : first ≠ "." ∧ first ≠ "..")
    (hfirst : isDoubleDot (encode (inSegmentSet true) (kept first.toList)) = false
      ∧ isSingleDot (encode (inSegmentSet true) (kept first.toList)) = false)
    (hplain : String.ofList (encode (inSegmentSet true) (kept first.toList)) = first) :
    pushSegment true (popEmpty list) first = u.ground ++ [first] := by
  unfold pushSegment ground
  simp only [hpath, hdot.1, hdot.2, hfirst.1, hfirst.2, or_self, ↓reduceIte, hplain,
    Bool.false_eq_true]

end Url

namespace Portal

open Url (kept IsSegment)
open Text.Percent (encode)

theorem parse_of_baseOf {config : Config} {base : Url} (h : baseOf config = .ok base) :
    (∃ s, Url.parse s = .ok base) ∧ base.hasSegments = true := by
  unfold baseOf at h
  simp only at h
  split at h
  · cases h
  · rename_i hparse
    split at h
    · rename_i hsegments
      cases h
      exact ⟨⟨_, hparse⟩, hsegments⟩
    · cases h

theorem hasSegments_of_baseOf {config : Config} {base : Url} (h : baseOf config = .ok base) :
    ∃ list, base.path = .segments list := by
  have hsegments := (parse_of_baseOf h).2
  unfold Url.hasSegments at hsegments
  split at hsegments
  · cases hsegments
  · exact ⟨_, by assumption⟩

theorem special_of_isHttp {base : Url} (h : isHttp base = true) :
    Url.isSpecialScheme base.scheme = true := by
  simp only [isHttp, Bool.or_eq_true, beq_iff_eq] at h
  rcases h with h | h <;> rw [h] <;> decide

def collections : List String := ["typeahead", "data-requests"]

theorem Call.url_path (base : Url) (call : Call) :
    (call.url base).path = (call.endpoint base).path := by
  unfold Call.url
  simp only
  split <;> rfl

theorem Call.url_of_outgoing {base : Url} {call : Call} {token : Option String} {out : Outgoing}
    (h : call.outgoing base token = .ok out) : out.url = call.url base := by
  unfold Call.outgoing at h
  simp only at h
  split at h
  · cases h
  · split at h
    · cases h
    · split at h
      · cases h
      · split at h <;> cases h <;> rfl

theorem Call.path_below {base : Url} {list : List String} (hpath : base.path = .segments list)
    (hhttp : isHttp base = true) {call : Call} {first s : String} (hfirst : first ∈ collections)
    (hcall : call.segments = [first, s]) :
    (call.url base).path = .segments (Url.pushSegment true (base.ground ++ [first]) s) := by
  have hpush : Url.pushSegment true (Url.popEmpty list) first = base.ground ++ [first] := by
    simp only [collections, List.mem_cons, List.not_mem_nil, or_false] at hfirst
    rcases hfirst with rfl | rfl <;>
      exact Url.pushSegment_ground hpath (by decide) (by decide +kernel) (by decide +kernel)
  rw [Call.url_path, Call.endpoint, Url.extend, hpath, hcall]
  simp only [List.foldl_cons, List.foldl_nil, special_of_isHttp hhttp, hpush]

end Portal

theorem dots_of_segmentProblem? {label s : String} (h : segmentProblem? label s = none) :
    s ≠ "." ∧ s ≠ ".." := by
  unfold segmentProblem? at h
  split at h
  · cases h
  · split at h
    · cases h
    · rename_i hs
      exact ⟨fun hdot => hs (.inr (.inl hdot)), fun hdots => hs (.inr (.inr hdots))⟩

namespace Portal

open Url (kept IsSegment inSegmentSet)
open Text.Percent (encode)

theorem Call.path_of_accepted {base : Url} {list : List String}
    (hpath : base.path = .segments list) (hhttp : isHttp base = true) {call : Call}
    {label first s : String} (hfirst : first ∈ collections) (hcall : call.segments = [first, s])
    (hs : segmentProblem? label s = none) :
    let left := kept s.toList
    (call.url base).path = .segments
      (if left = ['.', '.'] then base.ground ++ [""]
       else if left = ['.'] then base.ground ++ [first, ""]
       else base.ground ++ [first, String.ofList (encode (inSegmentSet true) left)]) := by
  have hcollections : ∀ name ∈ collections, name ≠ "" ∧ Url.namesDrive name = false := by
    decide +kernel
  obtain ⟨hne, hdrive⟩ := hcollections first hfirst
  rw [Call.path_below hpath hhttp hfirst hcall,
    Url.pushSegment_below (dots_of_segmentProblem? hs) hne hdrive]

theorem Call.exists_segment_below {base : Url} {list : List String}
    (hpath : base.path = .segments list) (hhttp : isHttp base = true) {call : Call}
    {label first s : String} (hfirst : first ∈ collections) (hcall : call.segments = [first, s])
    (hs : segmentProblem? label s = none) (hleft : kept s.toList ∉ [[], ['.'], ['.', '.']]) :
    ∃ last, (call.url base).path = .segments (base.ground ++ [first, last]) ∧ IsSegment last := by
  simp only [List.mem_cons, List.not_mem_nil, or_false, not_or] at hleft
  obtain ⟨hnil, hdot, hdots⟩ := hleft
  have hurl := Call.path_of_accepted hpath hhttp hfirst hcall hs
  refine ⟨_, ?_, Url.isSegment_encode hnil hdot hdots⟩
  simpa only [hdot, hdots, if_false] using hurl

/-- The call for an accepted kind or id goes to one segment below its collection exactly if
something other than dots, one or two, is left of it without tabs and line ends. Two dots lead to
the base, and nothing or one dot to the empty segment below the collection. -/
theorem Call.below_its_collection_iff {config : Config} {base : Url}
    (hbase : baseOf config = .ok base) (hhttp : isHttp base = true) {call : Call}
    {label first s : String} (hfirst : first ∈ collections) (hcall : call.segments = [first, s])
    (hs : segmentProblem? label s = none) :
    ((∃ last, (call.url base).path = .segments (base.ground ++ [first, last]) ∧ IsSegment last)
      ↔ kept s.toList ∉ [[], ['.'], ['.', '.']])
    ∧ (kept s.toList ∈ [[], ['.']] →
      (call.url base).path = .segments (base.ground ++ [first, ""]))
    ∧ (kept s.toList = ['.', '.'] → (call.url base).path = .segments (base.ground ++ [""]))
    ∧ ∀ token out, call.outgoing base token = .ok out → out.url = call.url base := by
  obtain ⟨list, hpath⟩ := hasSegments_of_baseOf hbase
  have hurl := Call.path_of_accepted hpath hhttp hfirst hcall hs
  have hempty : ¬ IsSegment "" := fun h => h.ne_empty rfl
  have hnil : String.ofList (encode (inSegmentSet true) []) = "" := rfl
  have hshallow (h : kept s.toList ∈ [[], ['.']]) :
      (call.url base).path = .segments (base.ground ++ [first, ""]) := by
    simp only [List.mem_cons, List.not_mem_nil, or_false] at h
    rcases h with h | h <;> simpa [h, hnil] using hurl
  have hdots (h : kept s.toList = ['.', '.']) :
      (call.url base).path = .segments (base.ground ++ [""]) := by
    simpa [h] using hurl
  refine ⟨⟨?_, Call.exists_segment_below hpath hhttp hfirst hcall hs⟩, hshallow, hdots,
    fun token out => Call.url_of_outgoing⟩
  rintro ⟨last, hlast, hsegment⟩ hmem
  have hcases : kept s.toList ∈ [[], ['.']] ∨ kept s.toList = ['.', '.'] := by
    simpa [or_assoc] using hmem
  rcases hcases with h | h
  · rw [hshallow h] at hlast
    simp only [Url.Path.segments.injEq, List.append_cancel_left_eq, List.cons.injEq] at hlast
    exact hempty (hlast.2.1 ▸ hsegment)
  · -- the path of the base with an empty segment is shorter
    rw [hdots h] at hlast
    have hlength := congrArg List.length (Url.Path.segments.inj hlast)
    simp at hlength

namespace Sample

def api : Config := Config.withApiBaseUrl {} "http://upstream/api"

def apiBase : Url :=
  ⟨"http", some ⟨"", none, .name "upstream", none⟩, .segments ["api"], none, none, false⟩

theorem baseOf_api : baseOf api = .ok apiBase := eq_ok_of_toOption (by decide +kernel)

end Sample

theorem Call.of_percent_and_tab_below_its_collection :
    baseOf Sample.api = .ok Sample.apiBase ∧ segmentProblem? "Request id" "%2F\t.." = none
    ∧ ∃ last, ((Call.dataRequest "%2F\t..").url Sample.apiBase).path
        = .segments (Sample.apiBase.ground ++ ["data-requests", last]) ∧ IsSegment last := by
  have haccepted : segmentProblem? "Request id" "%2F\t.." = none := by decide +kernel
  have hsegments : (Call.dataRequest "%2F\t..").segments = ["data-requests", "%2F\t.."] := rfl
  obtain ⟨hiff, -⟩ := Call.below_its_collection_iff Sample.baseOf_api (by decide) (by decide)
    hsegments haccepted
  exact ⟨Sample.baseOf_api, haccepted, hiff.mpr (by decide +kernel)⟩

/-- An id of a tab and two dots is accepted as it comes in a path, and its call goes to the base. -/
theorem Call.of_tab_and_dots_leaves_its_collection :
    parameter? "%09..".toList = some "\t.."
    ∧ segmentProblem? "Request id" "\t.." = none
    ∧ baseOf Sample.api = .ok Sample.apiBase ∧ isHttp Sample.apiBase = true
    ∧ ((Call.dataRequest "\t..").url Sample.apiBase).render = "http://upstream/api/"
    ∧ ¬ ∃ last, ((Call.dataRequest "\t..").url Sample.apiBase).path
        = .segments (Sample.apiBase.ground ++ ["data-requests", last]) ∧ IsSegment last := by
  have hpath : ((Call.dataRequest "\t..").url Sample.apiBase).path = .segments ["api", ""] := by
    decide +kernel
  have hground : Sample.apiBase.ground = ["api"] := by decide
  refine ⟨by decide +kernel, by decide +kernel, Sample.baseOf_api, by decide, by decide +kernel, ?_⟩
  rintro ⟨last, hlast, -⟩
  rw [hpath, hground] at hlast
  have hlength := congrArg List.length (Url.Path.segments.inj hlast)
  simp at hlength

end Portal

/-! ## The calls of a run -/

theorem Request.accepted_of_asks? {r : Request} {call : Portal.Call} (h : r.asks? = some call)
    {first s : String} (hfirst : first ∈ Portal.collections) (hcall : call.segments = [first, s]) :
    ∃ label, segmentProblem? label s = none := by
  cases asks_of_asks? h with
  | suggestions _ _ _ accepted _ =>
    cases hcall
    exact ⟨_, accepted⟩
  | dataRequest _ _ accepted =>
    cases hcall
    exact ⟨_, accepted⟩
  | profile =>
    cases hcall
    exact absurd hfirst (by decide)
  | submission => cases hcall

/-- Whatever requests came in and in whatever order their calls come back, each call under way for a
kind or an id goes to one segment below its collection, or nothing but dots is left of the kind or
id without tabs and line ends. -/
theorem Traced.underWay_below_its_collection {config : Config} {base : Url}
    (hbase : Portal.baseOf config = .ok base) (hhttp : Portal.isHttp base = true)
    {es : List Event} {y : Nat × Waiting} (hy : y ∈ ((start base config).run es).traffic.underWay)
    {first s : String} (hfirst : first ∈ Portal.collections)
    (hcall : y.2.pending.call.segments = [first, s]) :
    (∃ last, (y.2.pending.call.url base).path = .segments (base.ground ++ [first, last])
      ∧ Url.IsSegment last) ∨ Url.kept s.toList ∈ [[], ['.'], ['.', '.']] := by
  obtain ⟨list, hpath⟩ := Portal.hasSegments_of_baseOf hbase
  rcases asked_of_underWay hy with hstart | ⟨now, r, -, hasks⟩
  · cases hstart
  · obtain ⟨label, hs⟩ := Request.accepted_of_asks? hasks hfirst hcall
    by_cases hleft : Url.kept s.toList ∈ [[], ['.'], ['.', '.']]
    · exact .inr hleft
    · exact .inl (Portal.Call.exists_segment_below hpath hhttp hfirst hcall hs hleft)

end SessionGateway
