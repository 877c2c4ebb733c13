import SessionGateway.Proofs.PortalCalls
import SessionGateway.Proofs.TokenGrammar

/-!
Which of the tokens that log in are sent. A login takes blanks off the ends of a token and looks at
its middle segment alone, and keeps the token as it came; a call sends what is kept, and a header
refuses control characters wherever they stand. Main statement: `Auth.login_token_sent_iff`.
-/

namespace SessionGateway

open Portal (Outgoing fitsHeader fitsInHeader)

/-! ## Tokens in headers -/

namespace Token

def isLostAtEnd (c : Char) : Bool := c == ' ' || c == '\t'

def arriving (token : String) : String :=
  String.ofList (Text.dropEndWhile isLostAtEnd token.toList)

theorem fitsHeader_of_mem_alphabet {c : Char} (h : c ∈ Text.Base64Url.alphabet) :
    fitsHeader c = true := by
  have hall : Text.Base64Url.alphabet.all fitsHeader = true := by decide +kernel
  exact List.all_eq_true.mp hall c h

/-- What a login has looked at always fits, so it is for the other two segments to fit. -/
theorem fitsInHeader_iff_of_claims {token : String} {c : Claims} (h : claims token = .ok c) :
    ∃ header payload signature, token.toList = header ++ '.' :: (payload ++ '.' :: signature)
      ∧ '.' ∉ header ∧ '.' ∉ payload ∧ '.' ∉ signature
      ∧ (fitsInHeader token = true
        ↔ (∀ d ∈ header, fitsHeader d = true) ∧ ∀ d ∈ signature, fitsHeader d = true) := by
  have comes := comes_claims token
  rw [h] at comes
  cases comes with
  | @accepted bytes _ carries read =>
    obtain ⟨header, padding, signature, htoken, hheader, hcore, hsignature, hpad, -⟩ := carries
    have hcanonical := Text.Base64Url.exists_eq_text_iff.mp ⟨bytes, rfl⟩
    have hpayload : ∀ d ∈ Text.Base64Url.text bytes ++ padding, fitsHeader d = true := by
      intro d hd
      rcases List.mem_append.mp hd with hd | hd
      · exact fitsHeader_of_mem_alphabet (hcanonical.symbols d hd)
      · cases hpad d hd
        rfl
    have hdark : '.' ∉ Text.Base64Url.text bytes ++ padding := by
      simpa using ⟨hcore, fun hmem => by cases hpad _ hmem⟩
    have hdot : fitsHeader '.' = true := rfl
    refine ⟨header, _, signature, htoken, hheader, hdark, hsignature, ?_⟩
    rw [fitsInHeader, List.all_eq_true, htoken]
    simp only [List.forall_mem_append, List.forall_mem_cons, hdot, true_and] at hpayload ⊢
    exact ⟨fun hall => ⟨hall.1, hall.2.2⟩, fun hall => ⟨hall.1, hpayload, hall.2⟩⟩

theorem exists_dot_of_claims {token : String} {c : Claims} (h : claims token = .ok c) :
    ∃ before after, token.toList = before ++ '.' :: after := by
  obtain ⟨header, payload, signature, htoken, -⟩ := fitsInHeader_iff_of_claims h
  exact ⟨header, _, htoken⟩

end Token

/-! ## Calls with a token -/

namespace Portal

variable {call : Call} {base : Url} {plain out : Outgoing} {token : String}

theorem Call.address_of_outgoing (h : call.outgoing base none = .ok plain) :
    (call.endpoint base).hasHost = true
      ∧ (isHttp (call.url base) && fitsRequest (call.url base)) = true := by
  simp only [outgoing, Option.all_none, Bool.not_true, Bool.false_eq_true, ↓reduceIte] at h
  split at h
  · cases h
  · rename_i hhost
    split at h
    · cases h
    · rename_i haddress
      exact ⟨by simpa using hhost, by simpa using haddress⟩

theorem Call.outgoing_some (h : call.outgoing base none = .ok plain) (token : String) :
    call.outgoing base (some token)
      = if fitsInHeader token then .ok { plain with authorization := some ("Bearer " ++ token) }
        else .error .header := by
  obtain ⟨hhost, haddress⟩ := address_of_outgoing h
  simp only [outgoing, hhost, haddress, Option.all_none, Option.all_some, Bool.not_true,
    Bool.false_eq_true, ↓reduceIte] at h ⊢
  cases fitsInHeader token with
  | false => rfl
  | true => cases call <;> cases h <;> rfl

theorem bearer_injective {s t : String} (h : "Bearer " ++ s = "Bearer " ++ t) : s = t := by
  have hlist := congrArg String.toList h
  rw [String.toList_append, String.toList_append] at hlist
  exact String.toList_inj.mp (List.append_cancel_left hlist)

theorem Outgoing.arrivingAuthorization_of_bearer {before after : List Char}
    (hdot : token.toList = before ++ '.' :: after)
    (h : out.authorization = some ("Bearer " ++ token)) :
    out.arrivingAuthorization = some ("Bearer " ++ Token.arriving token) := by
  have hlost : Token.isLostAtEnd '.' = false := rfl
  have hbearer : ("Bearer " ++ token).toList
      = ("Bearer ".toList ++ before) ++ '.' :: after := by
    rw [String.toList_append, hdot, List.append_assoc]
  have harrives : Text.dropEndWhile Token.isLostAtEnd ("Bearer " ++ token).toList
      = "Bearer ".toList ++ Text.dropEndWhile Token.isLostAtEnd token.toList := by
    rw [hbearer, hdot, Text.dropEndWhile_append_cons hlost, Text.dropEndWhile_append_cons hlost,
      List.append_assoc]
  have hjoin : String.ofList ("Bearer ".toList ++ Text.dropEndWhile Token.isLostAtEnd token.toList)
      = "Bearer " ++ Token.arriving token := by
    rw [String.ofList_append, String.ofList_toList, Token.arriving]
  rw [arrivingAuthorization, h, Option.map_some, ← hjoin, ← harrives]
  rfl

end Portal

/-! ## Calls of a session -/

theorem Auth.login_eq_ok_iff {a a' : Auth} {token : String} {now : Instant} {s : Session} :
    a.login token now = .ok (a', s) ↔ ∃ c, Token.claims token = .ok c ∧ s = ⟨token, c, now⟩
      ∧ a' = a.enter s := by
  unfold login
  cases Token.claims token with
  | error e => simp [bind, Except.bind]
  | ok c =>
    simp only [bind, Except.bind, pure, Except.pure, Except.ok.injEq, Prod.mk.injEq]
    constructor
    · rintro ⟨rfl, rfl⟩
      exact ⟨c, rfl, rfl, rfl⟩
    · rintro ⟨_, rfl, rfl, rfl⟩
      exact ⟨rfl, rfl⟩

namespace Gateway

/-- How a call fares with the token of its session, beside the request it would make without. -/
structure SendsWith (g : Gateway) (w : Waiting) (token : String) (plain : Outgoing) : Prop where
  sent : fitsInHeader token = true →
    g.outgoing w = .ok { plain with authorization := some ("Bearer " ++ token) }
  refused : fitsInHeader token = false → ∀ now outcome,
    g.complete now w outcome = (g, respond w.headOnly (.ofError (.network .header)))
  trimmed : (∃ out, g.outgoing w = .ok out
      ∧ out.authorization = some ("Bearer " ++ Text.trim token))
    ↔ fitsInHeader token = true ∧ Text.trim token = token
  arrives : (∃ out, g.outgoing w = .ok out
      ∧ out.arrivingAuthorization = some ("Bearer " ++ Text.trim token))
    ↔ fitsInHeader token = true ∧ Text.trim token = Token.arriving token

variable {g : Gateway} {w : Waiting} {plain : Outgoing} {token : String} {c : Claims}

theorem sendsWith_of_outgoing (hclaims : Token.claims token = .ok c)
    (htoken : w.pending.token = some token) (h : w.pending.call.outgoing g.base none = .ok plain) :
    g.SendsWith w token plain := by
  have hout : g.outgoing w
      = if fitsInHeader token then .ok { plain with authorization := some ("Bearer " ++ token) }
        else .error .header := by
    rw [outgoing, htoken, Portal.Call.outgoing_some h]
  -- the dot keeps the space of the scheme, so that what the header loses is the token's own
  obtain ⟨before, after, hdot⟩ := Token.exists_dot_of_claims hclaims
  cases hfits : fitsInHeader token with
  | false =>
    rw [hfits, if_neg Bool.false_ne_true] at hout
    refine ⟨fun h => absurd h (by simp [hfits]), fun _ now outcome => ?_, by simp [hout, hfits],
      by simp [hout, hfits]⟩
    rw [complete, value, hout]
  | true =>
    rw [hfits, if_pos rfl] at hout
    have harrives : Outgoing.arrivingAuthorization
        { plain with authorization := some ("Bearer " ++ token) }
          = some ("Bearer " ++ Token.arriving token) :=
      Portal.Outgoing.arrivingAuthorization_of_bearer hdot rfl
    refine ⟨fun _ => hout, fun h => absurd h (by simp [hfits]), ?_, ?_⟩
    · simp only [hout, Except.ok.injEq, exists_eq_left', Option.some.injEq, hfits, true_and]
      exact ⟨fun h => (Portal.bearer_injective h).symm, fun h => by rw [h]⟩
    · simp only [hout, Except.ok.injEq, exists_eq_left', harrives, Option.some.injEq, hfits,
        true_and]
      exact ⟨fun h => (Portal.bearer_injective h).symm, fun h => by rw [h]⟩

end Gateway

namespace Auth

/-- A login keeps its token as it came. A request that needs the portal while the session is live
waits for a call with this token, and if the call could be made without it, then it is sent exactly
if the token fits in a header, which is for the segments that no login looks at. The authorization
is the token without the blanks around it exactly if it has none, and it arrives so exactly if those
that it has are such as a header loses. -/
theorem login_token_sent_iff {a a' : Auth} {token : String} {start : Instant} {s : Session}
    (h : a.login token start = .ok (a', s)) :
    a'.session = some s ∧ s.token = token
    ∧ (∃ header payload signature, token.toList = header ++ '.' :: (payload ++ '.' :: signature)
      ∧ '.' ∉ header ∧ '.' ∉ payload ∧ '.' ∉ signature
      ∧ (fitsInHeader token = true
        ↔ (∀ d ∈ header, fitsHeader d = true) ∧ ∀ d ∈ signature, fitsHeader d = true))
    ∧ ∀ (g : Gateway) (now : Instant), g.context.auth.session = some s →
      s.claims.isExpiredAt now = false → ∀ (r : Request) (call : Portal.Call), r.Asks call →
      (∀ place, call.place? = some place → g.context.served? now place = none) →
      ∃ w, (g.arrive now r).2 = .waiting w ∧ w.pending = ⟨call, some token⟩
        ∧ ∀ (later : Gateway) (plain : Outgoing), call.outgoing later.base none = .ok plain →
          later.SendsWith w token plain := by
  obtain ⟨c, hclaims, rfl, rfl⟩ := login_eq_ok_iff.mp h
  refine ⟨rfl, rfl, Token.fitsInHeader_iff_of_claims hclaims, ?_⟩
  intro g now current unexpired r call hasks hplace
  have hlive : g.context.auth.live? now = some ⟨token, c, start⟩ :=
    live?_eq_some_iff.mpr ⟨current, unexpired⟩
  let w : Waiting := ⟨⟨call, some token⟩, r.method == .head⟩
  have hwaits : (g.arrive now r).2 = .waiting w :=
    Gateway.arrive_eq_waiting_iff.mpr ⟨hasks, rfl, hplace, by simp [w, hlive], by simp [hlive]⟩
  have htoken : w.pending.token = some token := rfl
  exact ⟨w, hwaits, rfl, fun later plain => Gateway.sendsWith_of_outgoing hclaims htoken⟩

end Auth

namespace Sample

def loggedIn (auth : Auth) : Gateway := ⟨base, { Context.new {} with auth }⟩

theorem exists_outgoing_profile : ∃ plain, Portal.Call.profile.outgoing base none = .ok plain := by
  have hsent : (Portal.Call.profile.outgoing base none).toOption.isSome := by decide +kernel
  obtain ⟨plain, hplain⟩ := Option.isSome_iff_exists.mp hsent
  exact ⟨plain, eq_ok_of_toOption hplain⟩

end Sample

namespace Auth

theorem profile_call_of_alice :
    ∃ a s w plain out, (Auth.new defaultWindow).login Sample.alice 0 = .ok (a, s)
      ∧ s.claims.isExpiredAt 1 = false
      ∧ (Sample.get "/session/profile").Asks .profile
      ∧ ((Sample.loggedIn a).arrive 1 (Sample.get "/session/profile")).2 = .waiting w
      ∧ Portal.Call.profile.outgoing Sample.base none = .ok plain
      ∧ (Sample.loggedIn a).outgoing w = .ok out
      ∧ out.authorization = some ("Bearer " ++ Sample.alice) := by
  have hexpiry : (Token.claims Sample.alice).toOption.map (·.isExpiredAt 1) = some false := by
    decide +kernel
  obtain ⟨c, hc, hlater⟩ := Option.map_eq_some_iff.mp hexpiry
  let a : Auth := (Auth.new defaultWindow).enter ⟨Sample.alice, c, 0⟩
  have hlogin : (Auth.new defaultWindow).login Sample.alice 0 = .ok (a, ⟨Sample.alice, c, 0⟩) :=
    login_eq_ok_iff.mpr ⟨c, eq_ok_of_toOption hc, rfl, rfl⟩
  have hroute : (Sample.get "/session/profile").route? = some .profile := by decide +kernel
  obtain ⟨-, -, -, calls⟩ := login_token_sent_iff hlogin
  have hplace : ∀ place, Portal.Call.profile.place? = some place →
      (Sample.loggedIn a).context.served? 1 place = none := by
    rintro _ ⟨⟩
    rfl
  obtain ⟨w, hwaits, -, sends⟩ := calls (Sample.loggedIn a) 1 rfl hlater _ .profile
    (.profile hroute) hplace
  obtain ⟨plain, hplain⟩ := Sample.exists_outgoing_profile
  have hsent := (sends (Sample.loggedIn a) plain hplain).sent (by decide +kernel)
  exact ⟨a, _, w, plain, _, hlogin, hlater, .profile hroute, hwaits, hplain, hsent, rfl⟩

/-- A token with a line end after it logs in for good, and no call is made with it. With a space
before it the call is made, and its authorization is another than that of the token itself. -/
theorem blanks_around_token_kept :
    (∀ token ∈ ["h.e30.s\n", " h.e30.s"], Text.trim token = "h.e30.s"
      ∧ ∃ a, (Auth.new defaultWindow).login token 0 = .ok (a, ⟨token, Token.Sample.nobody, 0⟩))
    ∧ (∀ now, Token.Sample.nobody.isExpiredAt now = false)
    ∧ (∃ plain, Portal.Call.profile.outgoing Sample.base none = .ok plain)
    ∧ Portal.Call.profile.outgoing Sample.base (some "h.e30.s\n") = .error .header
    ∧ ∃ out, Portal.Call.profile.outgoing Sample.base (some " h.e30.s") = .ok out
      ∧ out.authorization = some "Bearer  h.e30.s" := by
  obtain ⟨plain, hplain⟩ := Sample.exists_outgoing_profile
  refine ⟨?_, fun _ => rfl, ⟨plain, hplain⟩, ?_, ?_⟩
  · have htrim : ∀ token ∈ ["h.e30.s\n", " h.e30.s"], Text.trim token = "h.e30.s" := by
      decide +kernel
    have hclaims : ∀ token ∈ ["h.e30.s\n", " h.e30.s"],
        Token.claims token = .ok Token.Sample.nobody := by
      simp only [List.forall_mem_cons, List.not_mem_nil, false_implies, implies_true, and_true]
      exact ⟨Token.Sample.claims_of_emptyObject ['h'] "s\n".toList (by decide +kernel)
          (by decide) (by decide),
        Token.Sample.claims_of_emptyObject " h".toList ['s'] (by decide +kernel) (by decide)
          (by decide)⟩
    intro token hmem
    exact ⟨htrim token hmem, _, login_eq_ok_iff.mpr ⟨_, hclaims token hmem, rfl, rfl⟩⟩
  · rw [Portal.Call.outgoing_some hplain, if_neg (by decide +kernel)]
  · rw [Portal.Call.outgoing_some hplain, if_pos (by decide +kernel)]
    exact ⟨_, rfl, rfl⟩

end Auth

end SessionGateway
