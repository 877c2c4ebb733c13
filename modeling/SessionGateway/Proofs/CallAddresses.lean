import SessionGateway.Proofs.JsonForm
import SessionGateway.Proofs.PathSegment

/-!
What can be told of a call from the URL that it goes to. The text of a URL gives back the segments
that were added to its path and the pair in its query, so calls that differ go to different URLs,
but for the bodies of submissions. Main statement: `Portal.Call.url_determines_call`.
-/

namespace SessionGateway

namespace Text.Percent

theorem mem_of_mem_encode {inSet : Char → Bool} {d : Char} {cs : List Char}
    (h : d ∈ encode inSet cs) : d = '%' ∨ d ∈ hexDigits ∨ d ∈ cs := by
  obtain ⟨c, hc, hd⟩ := List.mem_flatMap.mp h
  unfold encodeChar at hd
  split at hd
  · rw [List.mem_singleton] at hd
    exact .inr (.inr (hd ▸ hc))
  · obtain ⟨b, -, hb⟩ := List.mem_flatMap.mp hd
    exact (mem_encodeByte hb).imp_right .inl

theorem slash_not_mem_encode {inSet : Char → Bool} {cs : List Char} (h : '/' ∉ cs) :
    '/' ∉ encode inSet cs := by
  intro hmem
  rcases mem_of_mem_encode hmem with hsign | hdigit | hthere
  · cases hsign
  · exact absurd hdigit (by decide)
  · exact h hthere

theorem encode_injective {inSet : Char → Bool} (hset : inSet '%' = true) {cs ds : List Char}
    (h : encode inSet cs = encode inSet ds) : cs = ds := by
  have hbytes : Utf8.encode cs = Utf8.encode ds := by
    rw [← decode_encode hset cs, h, decode_encode hset]
  rw [← Utf8.decodeLossy_encode cs, hbytes, Utf8.decodeLossy_encode]

end Text.Percent

namespace Url

open Text (pieces)
open Text.Percent (encode)

/-! ## The text of a path -/

def segmentsText (segments : List String) : List Char := segments.flatMap ('/' :: ·.toList)

def queryText : Option String → List Char
  | none => []
  | some q => '?' :: q.toList

theorem segmentsText_cons (s : String) (segments : List String) :
    segmentsText (s :: segments) = '/' :: (s.toList ++ segmentsText segments) := List.flatMap_cons

theorem segmentsText_append (front back : List String) :
    segmentsText (front ++ back) = segmentsText front ++ segmentsText back := List.flatMap_append

theorem toList_render_segments (segments : List String) :
    (Path.segments segments).render.toList = segmentsText segments := by
  rw [Path.render, String.toList_join, List.flatMap_map]
  simp only [String.toList_append]
  rfl

theorem not_mem_segmentsText {segments : List String} {d : Char} (hd : d ≠ '/')
    (h : ∀ s ∈ segments, d ∉ s.toList) : d ∉ segmentsText segments := by
  intro hmem
  obtain ⟨s, hs, hmem⟩ := List.mem_flatMap.mp hmem
  rcases List.mem_cons.mp hmem with hslash | hmem
  · exact hd hslash
  · exact h s hs hmem

theorem pieces_append_segmentsText {segments : List String} {cs : List Char} (hcs : '/' ∉ cs)
    (h : ∀ s ∈ segments, '/' ∉ s.toList) :
    pieces (· == '/') (cs ++ segmentsText segments) = cs :: segments.map String.toList := by
  have hdark {ds : List Char} (hds : '/' ∉ ds) : ∀ d ∈ ds, (d == '/') = false := fun d hd => by
    simpa using fun heq : d = '/' => hds (heq ▸ hd)
  induction segments generalizing cs with
  | nil =>
    rw [segmentsText, List.flatMap_nil, List.append_nil, Text.pieces_of_forall (hdark hcs)]
    rfl
  | cons s segments ih =>
    rw [segmentsText_cons, Text.pieces_append_cons (hdark hcs) rfl,
      ih (h s List.mem_cons_self) fun t ht => h t (List.mem_cons_of_mem _ ht)]
    rfl

theorem segmentsText_injective {segments segments' : List String}
    (h : ∀ s ∈ segments, '/' ∉ s.toList) (h' : ∀ s ∈ segments', '/' ∉ s.toList)
    (heq : segmentsText segments = segmentsText segments') : segments = segments' := by
  have hcut := pieces_append_segmentsText (List.not_mem_nil (a := '/')) h
  have hcut' := pieces_append_segmentsText (List.not_mem_nil (a := '/')) h'
  rw [List.nil_append] at hcut hcut'
  rw [heq, hcut'] at hcut
  exact (List.map_inj_right fun _ _ => String.toList_inj.mp).mp (List.cons.inj hcut).2.symm

theorem queryText_injective {query query' : Option String}
    (h : queryText query = queryText query') : query = query' := by
  cases query <;> cases query' <;> simp_all [queryText, String.toList_inj]

theorem segments_query_of_text {segments segments' : List String} {query query' : Option String}
    (h : ∀ s ∈ segments, '/' ∉ s.toList ∧ '?' ∉ s.toList)
    (h' : ∀ s ∈ segments', '/' ∉ s.toList ∧ '?' ∉ s.toList)
    (heq : segmentsText segments ++ queryText query
      = segmentsText segments' ++ queryText query') : segments = segments' ∧ query = query' := by
  have hdark {l : List String} (hl : ∀ s ∈ l, '/' ∉ s.toList ∧ '?' ∉ s.toList) :
      ∀ c ∈ segmentsText l, (c != '?') = true := fun c hc => by
    have hnot := not_mem_segmentsText (d := '?') (by decide) fun s hs => (hl s hs).2
    simpa using fun hq : c = '?' => hnot (hq ▸ hc)
  -- the question mark parts the two, so each is found by cutting there
  have hpath (q : Option String) : (queryText q).takeWhile (· != '?') = [] := by cases q <;> rfl
  have hquery (q : Option String) : (queryText q).dropWhile (· != '?') = queryText q := by
    cases q <;> rfl
  have hsegments := congrArg (List.takeWhile (· != '?')) heq
  have hrest := congrArg (List.dropWhile (· != '?')) heq
  rw [List.takeWhile_append_of_pos (hdark h), List.takeWhile_append_of_pos (hdark h'), hpath,
    hpath, List.append_nil, List.append_nil] at hsegments
  rw [List.dropWhile_append_of_pos (hdark h), List.dropWhile_append_of_pos (hdark h'), hquery,
    hquery] at hrest
  refine ⟨segmentsText_injective (fun s hs => (h s hs).1) (fun s hs => (h' s hs).1) hsegments,
    queryText_injective hrest⟩

def withSegments (u : Url) (segments : List String) : Url :=
  { u with path := .segments segments, query := none }

/-- The text of a URL is that of its front, the segments after it, and the query. -/
theorem toList_render {u : Url} {front back : List String}
    (hpath : u.path = .segments (front ++ back)) (hfragment : u.fragment = none) :
    u.render.toList
      = (u.withSegments front).render.toList ++ (segmentsText back ++ queryText u.query) := by
  obtain ⟨scheme, authority, path, query, fragment, isMarked⟩ := u
  cases hpath
  cases hfragment
  cases query <;> cases isMarked <;>
    simp [render, withSegments, queryText, toList_render_segments, segmentsText_append]

/-! ## Paths that were read -/

/-- A path whose segments end at its slashes. -/
def HasCutPath (u : Url) : Prop := ∀ list, u.path = .segments list → ∀ s ∈ list, '/' ∉ s.toList

theorem hasCutPath_finish {scheme : String} {authority : Option Authority} {list : List String}
    (h : ∀ s ∈ list, '/' ∉ s.toList) (rest : List Char) :
    (finish scheme authority (.segments list) rest).HasCutPath := by
  rintro _ ⟨⟩
  exact h

theorem cut_append {segments : List String} {s : String} (h : ∀ t ∈ segments, '/' ∉ t.toList)
    (hs : '/' ∉ s.toList) : ∀ t ∈ segments ++ [s], '/' ∉ t.toList := by
  intro t ht
  rcases List.mem_append.mp ht with ht | ht
  · exact h t ht
  · rwa [List.mem_singleton.mp ht]

theorem cut_parent {segments : List String} (h : ∀ s ∈ segments, '/' ∉ s.toList) :
    ∀ s ∈ parent segments, '/' ∉ s.toList := by
  unfold parent
  split
  · exact h
  · exact fun s hs => h s ((List.dropLast_sublist _).subset hs)

theorem cut_descend {segments : List String} {piece : List Char} {isLast : Bool}
    (h : ∀ s ∈ segments, '/' ∉ s.toList) (hpiece : '/' ∉ piece) :
    ∀ s ∈ descend false segments piece isLast, '/' ∉ s.toList := by
  have hempty : '/' ∉ "".toList := by decide
  have hcoded : '/' ∉ (String.ofList (encode inPathSet piece)).toList := by
    rw [String.toList_ofList]
    exact Text.Percent.slash_not_mem_encode hpiece
  unfold descend
  simp only [Bool.false_and, Bool.false_eq_true, ↓reduceIte]
  split
  · cases isLast with
    | true => exact cut_append (cut_parent h) hempty
    | false => exact cut_parent h
  · split
    · cases isLast with
      | true => exact cut_append h hempty
      | false => exact h
    · exact cut_append h hcoded

theorem cut_descendAll {segments : List String} {ps : List (List Char)}
    (h : ∀ s ∈ segments, '/' ∉ s.toList) (hps : ∀ p ∈ ps, '/' ∉ p) :
    ∀ s ∈ descendAll false segments ps, '/' ∉ s.toList := by
  induction ps generalizing segments with
  | nil => exact h
  | cons p ps ih =>
    have hp := hps p List.mem_cons_self
    cases ps with
    | nil => exact cut_descend h hp
    | cons q qs =>
      exact ih (cut_descend h hp) fun p' hp' => hps p' (List.mem_cons_of_mem _ hp')

theorem cut_splitPath {scheme : String} (hfile : scheme ≠ "file") (input : List Char) :
    ∀ s ∈ (splitPath scheme [] input).1, '/' ∉ s.toList := by
  have hscheme : (scheme == "file") = false := by simpa using hfile
  rw [splitPath, hscheme]
  refine cut_descendAll (by simp) fun p hp hslash => ?_
  have hnot := Text.not_of_mem_pieces hp hslash
  simp [isSlash] at hnot

theorem hasCutPath_parseAuthority {scheme : String} (hfile : scheme ≠ "file") {input : List Char}
    {u : Url} (h : parseAuthority scheme input = .ok u) : u.HasCutPath := by
  unfold parseAuthority at h
  simp only at h
  -- the four checks that can refuse it, then what follows the authority
  split at h
  · cases h
  obtain ⟨host, -, h⟩ := Json.exists_of_bind_eq_ok h
  split at h
  · cases h
  obtain ⟨place, -, h⟩ := Json.exists_of_bind_eq_ok h
  split at h
  · cases h
  split at h
  · cases h
    refine hasCutPath_finish ?_ _
    cases isSpecialScheme scheme <;> simp
  · split at h
    · cases h
      exact hasCutPath_finish (by simp) _
    · cases h
      exact hasCutPath_finish (cut_splitPath hfile _) _

theorem hasCutPath_parseOther {scheme : String} (hfile : scheme ≠ "file") {input : List Char}
    {u : Url} (h : parseOther scheme input = .ok u) : u.HasCutPath := by
  unfold parseOther at h
  split at h
  · exact hasCutPath_parseAuthority hfile h
  · cases h
    rintro _ ⟨⟩
    exact cut_splitPath hfile _
  · cases h
    nofun

theorem scheme_parseFile {input : List Char} {u : Url} (h : parseFile input = .ok u) :
    u.scheme = "file" := by
  have hscheme (host : Host) (text : List Char) : (fileAt host text).scheme = "file" := by
    unfold fileAt
    split
    · simp only
      split <;> rfl
    · rfl
  unfold parseFile at h
  simp only at h
  split at h
  · cases h
    exact hscheme _ _
  · split at h
    · cases h
      exact hscheme _ _
    · split at h
      · cases h
        exact hscheme _ _
      · obtain ⟨host, -, h⟩ := Json.exists_of_bind_eq_ok h
        split at h <;> cases h <;> exact hscheme _ _

/-- Only files have segments that are not cut at the slashes of their text. -/
theorem hasCutPath_parse {s : String} {u : Url} (h : parse s = .ok u) (hfile : u.scheme ≠ "file") :
    u.HasCutPath := by
  unfold parse at h
  split at h
  · cases h
  · rename_i scheme rest _
    split at h
    · exact absurd (scheme_parseFile h) hfile
    · rename_i hscheme
      have hne : scheme ≠ "file" := by simpa using hscheme
      split at h
      · exact hasCutPath_parseAuthority hne h
      · exact hasCutPath_parseOther hne h

/-! ## Paths that are added to -/

/-- Text that is put into a path without anything of it being dropped or followed. -/
structure StaysWhole (s : String) : Prop where
  ne_empty : s ≠ ""
  no_end : ∀ c ∈ s.toList, c ≠ '\t' ∧ c ≠ '\n' ∧ c ≠ '\r'
  ne_dot : s ≠ "."
  ne_dots : s ≠ ".."

def written (s : String) : String := String.ofList (encode (inSegmentSet true) s.toList)

theorem toList_written (s : String) :
    (written s).toList = encode (inSegmentSet true) s.toList := String.toList_ofList

theorem written_injective {s s' : String} (h : written s = written s') : s = s' := by
  have hlist := congrArg String.toList h
  rw [toList_written, toList_written] at hlist
  exact String.toList_inj.mp (Text.Percent.encode_injective (by decide) hlist)

theorem parameter?_written (s : String) : parameter? (written s).toList = some s := by
  have hbytes : Text.Percent.decode (written s).toList = Text.Utf8.encode s.toList := by
    rw [toList_written, Text.Percent.decode_encode (by decide)]
  rw [parameter?, hbytes, Text.Utf8.decode?, Text.Utf8.isValid_encode, if_pos rfl,
    Text.Utf8.validStart_encode, Option.map_some, String.ofList_toList]

namespace StaysWhole

variable {s : String}

theorem kept_eq (h : StaysWhole s) : kept s.toList = s.toList := by
  rw [kept, List.filter_eq_self]
  intro c hc
  simp [isDropped, h.no_end c hc]

theorem isSegment_written (h : StaysWhole s) : IsSegment (written s) := by
  have hne {t : String} (hst : s ≠ t) : s.toList ≠ t.toList := fun heq =>
    hst (String.toList_inj.mp heq)
  exact isSegment_encode (hne h.ne_empty) (hne h.ne_dot) (hne h.ne_dots)

theorem pushSegment_eq (h : StaysWhole s) (segments : List String) :
    pushSegment true segments s
      = (if segments = [""] then [] else segments) ++ [written s] := by
  have hsegment := h.isSegment_written
  have hsingle := hsegment.not_single
  have hdouble := hsegment.not_double
  rw [toList_written] at hsingle hdouble
  unfold pushSegment
  simp only [h.ne_dot, h.ne_dots, or_self, ↓reduceIte, h.kept_eq, hsingle, hdouble,
    Bool.false_eq_true, written]

end StaysWhole

theorem append_written_ne_root {s : String} (h : StaysWhole s) (above : List String) :
    above ++ [written s] ≠ [""] := by
  intro heq
  have hlast := congrArg List.getLast? heq
  rw [List.getLast?_concat] at hlast
  exact h.isSegment_written.ne_empty (Option.some.inj hlast)

theorem foldl_pushSegment {texts : List String} (h : ∀ s ∈ texts, StaysWhole s)
    {segments : List String} (hroot : segments ≠ [""]) :
    texts.foldl (pushSegment true) segments = segments ++ texts.map written := by
  induction texts generalizing segments with
  | nil => simp
  | cons s texts ih =>
    have hs := h s List.mem_cons_self
    rw [List.foldl_cons, hs.pushSegment_eq, if_neg hroot,
      ih (fun t ht => h t (List.mem_cons_of_mem _ ht)) (append_written_ne_root hs segments),
      List.append_assoc, List.singleton_append, List.map_cons]

theorem path_extend {u : Url} {list : List String} (hpath : u.path = .segments list)
    (hspecial : isSpecialScheme u.scheme = true) {texts : List String} (hne : texts ≠ [])
    (h : ∀ s ∈ texts, StaysWhole s) :
    (u.extend texts).path = .segments (u.ground ++ texts.map written) := by
  obtain ⟨s, texts, rfl⟩ := List.exists_cons_of_ne_nil hne
  have hs := h s List.mem_cons_self
  -- the root has no segment of its own, so only the first text can meet it
  rw [extend, hpath, ground, hpath, hspecial]
  simp only [List.foldl_cons, hs.pushSegment_eq, Path.segments.injEq]
  rw [foldl_pushSegment (fun t ht => h t (List.mem_cons_of_mem _ ht))
    (append_written_ne_root hs _), List.append_assoc, List.singleton_append, List.map_cons]

def withoutSlash (path : String) : String :=
  if path.toList.getLast? = some '/' then String.ofList path.toList.dropLast else path

/-- The text that segments are added to: a path without a slash at its end. Of two slashes alone
neither is left, because the empty segment between them counts as the root. -/
def stem (path : String) : String := if path = "//" then "" else withoutSlash path

theorem toList_withoutSlash (path : String) : (withoutSlash path).toList
    = if path.toList.getLast? = some '/' then path.toList.dropLast else path.toList := by
  unfold withoutSlash
  split
  · exact String.toList_ofList
  · rfl

theorem toList_render_concat (front : List String) (last : String) :
    (Path.segments (front ++ [last])).render.toList
      = segmentsText front ++ '/' :: last.toList := by
  rw [toList_render_segments, segmentsText_append, segmentsText_cons]
  simp [segmentsText]

theorem stem_of_slash {front : List String} (hcut : ∀ s ∈ front, '/' ∉ s.toList) :
    stem (Path.segments (front ++ [""])).render
      = (Path.segments (if front = [""] then [] else front)).render := by
  by_cases hroot : front = [""]
  · subst hroot
    decide
  have htext := toList_render_concat front ""
  -- a path of two slashes has one segment before its last, which is empty
  have hslashes : (Path.segments (front ++ [""])).render ≠ "//" := by
    intro heq
    rw [heq] at htext
    have hfront : segmentsText [""] = segmentsText front :=
      List.append_cancel_right (show segmentsText [""] ++ ['/'] = _ from htext)
    exact hroot (segmentsText_injective hcut (by decide) hfront.symm)
  rw [stem, if_neg hslashes, if_neg hroot]
  apply String.toList_inj.mp
  rw [toList_withoutSlash, htext, toList_render_segments]
  simp

theorem stem_of_text {front : List String} {last : String} (hlast : last ≠ "")
    (hcut : '/' ∉ last.toList) :
    stem (Path.segments (front ++ [last])).render = (Path.segments (front ++ [last])).render := by
  have hend : (Path.segments (front ++ [last])).render.toList.getLast? ≠ some '/' := by
    have hne : last.toList ≠ [] := fun hnil => hlast (String.toList_inj.mp hnil)
    have hmem := List.getLast_mem hne
    rw [toList_render_concat, List.getLast?_append, List.getLast?_cons,
      List.getLast?_eq_some_getLast hne]
    simpa using fun heq : last.toList.getLast hne = '/' => hcut (heq ▸ hmem)
  have hslashes : (Path.segments (front ++ [last])).render ≠ "//" := by
    intro heq
    rw [heq] at hend
    exact hend (by decide)
  rw [stem, if_neg hslashes, withoutSlash, if_neg hend]

theorem render_ground {u : Url} {list : List String} (hpath : u.path = .segments list)
    (hcut : ∀ s ∈ list, '/' ∉ s.toList) :
    (Path.segments u.ground).render = stem u.path.render := by
  rw [hpath, ground, hpath]
  simp only
  rcases List.eq_nil_or_concat list with rfl | ⟨front, last, rfl⟩
  · decide
  rw [List.concat_eq_append] at hcut ⊢
  by_cases hlast : last = ""
  · subst hlast
    rw [stem_of_slash fun s hs => hcut s (List.mem_append_left _ hs)]
    by_cases hnone : front = []
    · subst hnone
      decide
    · have hpop : popEmpty (front ++ [""]) = front := by
        simp [popEmpty, hnone]
      rw [hpop]
  · have hroot : front ++ [last] ≠ [""] := by
      intro heq
      have hsome := congrArg List.getLast? heq
      rw [List.getLast?_concat] at hsome
      exact hlast (Option.some.inj hsome)
    have hpop : popEmpty (front ++ [last]) = front ++ [last] := by
      simp [popEmpty, hlast]
    rw [hpop, if_neg hroot, stem_of_text hlast (hcut last (by simp))]

end Url

/-! ## Calls -/

namespace Portal

open Url (written stem withoutSlash segmentsText queryText)

theorem hasCutPath_of_baseOf {config : Config} {base : Url} (h : baseOf config = .ok base)
    (hhttp : isHttp base = true) : base.HasCutPath := by
  have hfile : base.scheme ≠ "file" := by
    intro hfile
    rw [isHttp, hfile] at hhttp
    exact absurd hhttp (by decide)
  obtain ⟨⟨s, hparse⟩, -⟩ := parse_of_baseOf h
  exact Url.hasCutPath_parse hparse hfile

namespace Call

variable {config : Config} {base : Url} {list : List String} {call call' : Call}

def StaysWhole (call : Call) : Prop := ∀ s ∈ call.segments, Url.StaysWhole s

theorem staysWhole_of_collections {first : String} (h : first ∈ collections) :
    Url.StaysWhole first := by
  simp only [collections, List.mem_cons, List.not_mem_nil, or_false] at h
  rcases h with rfl | rfl <;> exact ⟨by decide, by simp, by decide, by decide⟩

theorem path_endpoint (hpath : base.path = .segments list) (hhttp : isHttp base = true)
    (h : call.StaysWhole) :
    (call.endpoint base).path = .segments (base.ground ++ call.segments.map written) :=
  Url.path_extend hpath (special_of_isHttp hhttp) (by cases call <;> simp [segments]) h

theorem withSegments_url (base : Url) (call : Call) (segments : List String) :
    (call.url base).withSegments segments = (withoutUser base).withSegments segments := by
  have hextend : (withoutUser (call.endpoint base)).withSegments segments
      = (withoutUser base).withSegments segments := by
    unfold endpoint Url.extend
    cases base.path <;> rfl
  rw [← hextend, url]
  cases call.queryPair? <;> rfl

theorem fragment_url (base : Url) (call : Call) : (call.url base).fragment = base.fragment := by
  have hfragment : ((call.url base).withSegments []).fragment = base.fragment := by
    rw [withSegments_url]
    rfl
  exact hfragment

theorem query_url (hquery : base.query = none) : (call.url base).query = call.queryPair? := by
  have hextend : (withoutUser (call.endpoint base)).query = none := by
    unfold endpoint Url.extend
    cases base.path <;> exact hquery
  rw [url]
  cases call.queryPair? with
  | none => exact hextend
  | some pair => simp only [hextend, withPair]

theorem toList_render_url (hpath : base.path = .segments list) (hhttp : isHttp base = true)
    (hquery : base.query = none) (hfragment : base.fragment = none) (h : call.StaysWhole) :
    (call.url base).render.toList
      = ((withoutUser base).withSegments base.ground).render.toList
        ++ (segmentsText (call.segments.map written) ++ queryText call.queryPair?) := by
  have hurl : (call.url base).path = .segments (base.ground ++ call.segments.map written) := by
    rw [url_path, path_endpoint hpath hhttp h]
  rw [Url.toList_render hurl ((fragment_url base call).trans hfragment), withSegments_url,
    query_url hquery]

theorem queryPair?_suggestions (kind query : String) :
    (suggestions kind query).queryPair?
      = some (String.ofList (Text.Form.write [("query", query)])) := by
  have hname : Text.Form.encode "query".toList = "query".toList := by decide
  have hpart : Text.Form.write [("query", query)]
      = "query".toList ++ '=' :: Text.Form.encode query.toList := by
    rw [← hname]
    simp [Text.Form.write, Text.Form.part]
  rw [hpart]
  rfl

theorem query_of_queryPair? {kind kind' query query' : String}
    (h : (suggestions kind query).queryPair? = (suggestions kind' query').queryPair?) :
    query = query' := by
  rw [queryPair?_suggestions, queryPair?_suggestions, Option.some.injEq, String.ofList_inj] at h
  have hpairs := congrArg Text.Form.pairs h
  rw [Text.Form.pairs_write, Text.Form.pairs_write] at hpairs
  simpa using hpairs

theorem eq_or_submissions (hsegments : call.segments = call'.segments)
    (hquery : call.queryPair? = call'.queryPair?) :
    call = call' ∨ ∃ body body', call = .submission body ∧ call' = .submission body' := by
  cases call <;> cases call' <;> simp [segments] at hsegments ⊢
  case suggestions.suggestions => exact ⟨hsegments, query_of_queryPair? hquery⟩
  case dataRequest.dataRequest => exact hsegments

theorem no_slash_of_mem_written {texts : List String} :
    ∀ s ∈ texts.map written, '/' ∉ s.toList ∧ '?' ∉ s.toList := by
  intro s hs
  obtain ⟨text, -, rfl⟩ := List.mem_map.mp hs
  rw [Url.toList_written]
  exact ⟨fun h => (Url.no_end_of_mem_encode h).1 rfl,
    fun h => (Url.no_end_of_mem_encode h).2.2.1 rfl⟩

theorem render_url_eq_iff (hpath : base.path = .segments list) (hhttp : isHttp base = true)
    (hquery : base.query = none) (hfragment : base.fragment = none) (h : call.StaysWhole)
    (h' : call'.StaysWhole) :
    (call.url base).render = (call'.url base).render
      ↔ call = call' ∨ ∃ body body', call = .submission body ∧ call' = .submission body' := by
  constructor
  · intro heq
    have htext := congrArg String.toList heq
    rw [toList_render_url hpath hhttp hquery hfragment h,
      toList_render_url hpath hhttp hquery hfragment h'] at htext
    obtain ⟨hsegments, hpair⟩ := Url.segments_query_of_text no_slash_of_mem_written
      no_slash_of_mem_written (List.append_cancel_left htext)
    exact eq_or_submissions
      ((List.map_inj_right fun _ _ => Url.written_injective).mp hsegments) hpair
  · rintro (rfl | ⟨body, body', rfl, rfl⟩) <;> rfl

theorem render_path_endpoint (hpath : base.path = .segments list) (hcut : base.HasCutPath)
    (hhttp : isHttp base = true) {first s : String} (hfirst : first ∈ collections)
    (hcall : call.segments = [first, s]) (hs : Url.StaysWhole s) :
    (call.endpoint base).path.render
      = stem base.path.render ++ "/" ++ first ++ "/" ++ written s := by
  have hwhole : call.StaysWhole := by
    rw [StaysWhole, hcall]
    simpa using ⟨staysWhole_of_collections hfirst, hs⟩
  have hplain : written first = first := by
    simp only [collections, List.mem_cons, List.not_mem_nil, or_false] at hfirst
    rcases hfirst with rfl | rfl <;> decide +kernel
  rw [path_endpoint hpath hhttp hwhole, hcall, List.map_cons, List.map_singleton, hplain,
    ← Url.render_ground hpath (hcut list hpath)]
  apply String.toList_inj.mp
  simp [Url.toList_render_segments, Url.segmentsText]

/-- The call for a kind or an id that stays whole has as its path that of the base without a slash
at its end, the collection, and one more segment, from which the kind or id is read back. The query
of a call for suggestions is read back as one pair. So of calls for such kinds and ids no two that
differ go to the same URL, but for submissions, which go to one whatever they carry. -/
theorem url_determines_call (hbase : baseOf config = .ok base) (hhttp : isHttp base = true)
    (hquery : base.query = none) (hfragment : base.fragment = none) :
    (∀ (call : Call) (first s : String), first ∈ collections → call.segments = [first, s] →
      Url.StaysWhole s → ∃ last,
        (call.endpoint base).path.render = stem base.path.render ++ "/" ++ first ++ "/" ++ last
        ∧ (∀ c ∈ last.toList, c ≠ '/' ∧ c ≠ '?' ∧ c ≠ '#')
        ∧ parameter? last.toList = some s)
    ∧ (∀ kind query : String, ∃ text, ((suggestions kind query).url base).query = some text
        ∧ Text.Form.pairs text.toList = [("query", query)])
    ∧ (∀ call call' : Call, call.StaysWhole → call'.StaysWhole →
        ((call.url base).render = (call'.url base).render
          ↔ call = call' ∨ ∃ body body', call = .submission body ∧ call' = .submission body'))
    ∧ ∀ (call : Call) (token : Option String) (out : Outgoing),
        call.outgoing base token = .ok out → out.url = call.url base := by
  obtain ⟨list, hpath⟩ := hasSegments_of_baseOf hbase
  have hcut := hasCutPath_of_baseOf hbase hhttp
  refine ⟨?_, ?_, ?_, fun call token out => url_of_outgoing⟩
  · intro call first s hfirst hcall hs
    refine ⟨written s, render_path_endpoint hpath hcut hhttp hfirst hcall hs, ?_,
      Url.parameter?_written s⟩
    intro c hc
    rw [Url.toList_written] at hc
    obtain ⟨hslash, -, hmark, hhash⟩ := Url.no_end_of_mem_encode hc
    exact ⟨hslash, hmark, hhash⟩
  · intro kind query
    refine ⟨_, (query_url hquery).trans (queryPair?_suggestions kind query), ?_⟩
    rw [String.toList_ofList, Text.Form.pairs_write]
  · intro call call' h h'
    exact render_url_eq_iff hpath hhttp hquery hfragment h h'

end Call

namespace Sample

def slashed : Config := Config.withApiBaseUrl {} "http://upstream/api/."

def slashedBase : Url := { apiBase with path := .segments ["api", ""] }

theorem baseOf_slashed : baseOf slashed = .ok slashedBase := eq_ok_of_toOption (by decide +kernel)

def doubled : Config := Config.withApiBaseUrl {} "http://upstream//."

def doubledBase : Url := { apiBase with path := .segments ["", ""] }

theorem baseOf_doubled : baseOf doubled = .ok doubledBase := eq_ok_of_toOption (by decide +kernel)

theorem staysWhole_of_dots : Url.StaysWhole "%2e./?" :=
  ⟨by decide, by simp, by decide, by decide⟩

theorem staysWhole_of_number : Url.StaysWhole "42" := ⟨by decide, by simp, by decide, by decide⟩

end Sample

/-- An id that looks like dots and a slash in their coded form is read back from below a base with a
slash at its end, and its call goes to another URL than that for suggestions under the same text. -/
theorem Call.of_coded_dots_read_back :
    baseOf Sample.slashed = .ok Sample.slashedBase ∧ isHttp Sample.slashedBase = true
    ∧ Url.StaysWhole "%2e./?"
    ∧ (∃ last, ((dataRequest "%2e./?").endpoint Sample.slashedBase).path.render
          = "/api/data-requests/" ++ last ∧ parameter? last.toList = some "%2e./?")
    ∧ ((dataRequest "%2e./?").url Sample.slashedBase).render
        ≠ ((suggestions "%2e./?" "a&b").url Sample.slashedBase).render := by
  obtain ⟨read, -, distinct, -⟩ :=
    url_determines_call Sample.baseOf_slashed (by decide) rfl rfl
  obtain ⟨last, hlast, -, hread⟩ := read (dataRequest "%2e./?") "data-requests" "%2e./?"
    (by decide) rfl Sample.staysWhole_of_dots
  have hstem : stem Sample.slashedBase.path.render ++ "/" ++ "data-requests" ++ "/"
      = "/api/data-requests/" := by decide +kernel
  have hwhole (call : Call) {first : String} (hfirst : first ∈ collections)
      (hcall : call.segments = [first, "%2e./?"]) : call.StaysWhole := by
    rw [StaysWhole, hcall]
    simpa using ⟨staysWhole_of_collections hfirst, Sample.staysWhole_of_dots⟩
  refine ⟨Sample.baseOf_slashed, by decide, Sample.staysWhole_of_dots,
    ⟨last, hlast.trans (by rw [hstem]), hread⟩, fun heq => ?_⟩
  have hsame := (distinct _ _ (hwhole (dataRequest "%2e./?") (by decide) rfl)
    (hwhole (suggestions "%2e./?" "a&b") (by decide) rfl)).mp heq
  simp at hsame

/-- Below a path of two slashes an id is put as if there were but one. -/
theorem Call.below_two_slashes_as_below_root :
    baseOf Sample.doubled = .ok Sample.doubledBase ∧ isHttp Sample.doubledBase = true
    ∧ Sample.doubledBase.query = none ∧ Sample.doubledBase.fragment = none
    ∧ Url.StaysWhole "42" ∧ Sample.doubledBase.path.render = "//"
    ∧ ((dataRequest "42").endpoint Sample.doubledBase).path.render = "/data-requests/42"
    ∧ ¬ ∃ last, ((dataRequest "42").endpoint Sample.doubledBase).path.render
        = withoutSlash Sample.doubledBase.path.render ++ "/" ++ "data-requests" ++ "/" ++ last := by
  have hpath : ((dataRequest "42").endpoint Sample.doubledBase).path.render
      = "/data-requests/42" := by decide +kernel
  have hfront : withoutSlash Sample.doubledBase.path.render ++ "/" ++ "data-requests" ++ "/"
      = "//data-requests/" := by decide +kernel
  refine ⟨Sample.baseOf_doubled, by decide, rfl, rfl, Sample.staysWhole_of_number, by decide,
    hpath, ?_⟩
  rintro ⟨last, hlast⟩
  rw [hpath, hfront] at hlast
  have htext := congrArg String.toList hlast
  rw [String.toList_append] at htext
  exact absurd (List.cons.inj (List.cons.inj htext).2).1 (by decide)

end Portal
end SessionGateway
