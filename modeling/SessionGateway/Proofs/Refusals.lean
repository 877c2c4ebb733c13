import SessionGateway.Portal.Call
import SessionGateway.Proofs.JsonExtent

/-!
What a refusal of the portal is told as. The portal explains a refusal by a text under `error` or
under `message` of an object, by a body of any kind, or by the status alone, and the first of these
that there is should be told. It is, unless an `error` that is no text stands before a `message`
that is one. Main statement: `Portal.Outgoing.explanation_told_iff`.
-/

namespace SessionGateway

namespace Text.Utf8

theorem decodeLossy_of_decode? {bytes : List UInt8} {cs : List Char}
    (h : decode? bytes = some cs) : decodeLossy bytes = cs := by
  unfold decode? at h
  split at h
  · rename_i hvalid
    obtain rfl := Option.some.inj h
    have hwell : ∀ u ∈ units bytes, u.isSome := List.all_eq_true.mp hvalid
    unfold decodeLossy validStart
    generalize units bytes = us at hwell
    induction us with
    | nil => rfl
    | cons u us ih =>
      obtain ⟨hu, hus⟩ := List.forall_mem_cons.mp hwell
      obtain ⟨c, rfl⟩ := Option.isSome_iff_exists.mp hu
      simp [ih hus]
  · cases h

end Text.Utf8

namespace Portal

/-! ## The texts of a body -/

def under? (key body : String) : Option Json := (Json.parse body).toOption.bind (Json.get? key)

def textUnder? (key body : String) : Option String := (under? key body).bind Json.asString?

/-- What a refusal should be told as: the first that there is of the text under `error`, the text
under `message`, the body if it is not empty, and the usual phrase of the status. -/
def firstExplanation (status : Nat) (body : String) : String :=
  let said := (textUnder? "error" body).or (textUnder? "message" body)
  let whole := if body = "" then none else some body
  (said.or whole).getD ((phrases.lookup status).getD "upstream error")

/-- An `error` that is no text stands before a `message` that is one. -/
def HidesMessage (body : String) : Prop :=
  (under? "error" body).isSome ∧ textUnder? "error" body = none
    ∧ (textUnder? "message" body).isSome

instance (body : String) : Decidable (HidesMessage body) := inferInstanceAs (Decidable (_ ∧ _))

section

variable {body : String}

theorem exists_parse_of_textUnder? {key text : String} (h : textUnder? key body = some text) :
    ∃ members, Json.parse body = .ok (.obj members) ∧ members.lookup key = some (.str text) := by
  obtain ⟨v, hv, htext⟩ := Option.bind_eq_some_iff.mp h
  obtain ⟨whole, hwhole, hget⟩ := Option.bind_eq_some_iff.mp hv
  cases hparse : Json.parse body with
  | error e => simp [hparse, Except.toOption] at hwhole
  | ok w =>
    obtain rfl : w = whole := by simpa [hparse, Except.toOption] using hwhole
    cases w with
    | obj members =>
      cases v with
      | str s =>
        obtain rfl := Option.some.inj htext
        exact ⟨members, rfl, hget⟩
      | _ => cases htext
    | _ => cases hget

theorem length_lt_of_textUnder? {key text : String} (h : textUnder? key body = some text) :
    text.length < body.length := by
  obtain ⟨members, hparse, hlookup⟩ := exists_parse_of_textUnder? h
  exact Json.length_lt_of_parse hparse hlookup

theorem explanation?_eq :
    explanation? body = ((under? "error" body).or (under? "message" body)).bind Json.asString? := by
  unfold explanation? under?
  cases Json.parse body <;> rfl

theorem explanation?_of_not_hidesMessage (h : ¬ HidesMessage body) :
    explanation? body = (textUnder? "error" body).or (textUnder? "message" body) := by
  cases herror : under? "error" body with
  | none => simp [explanation?_eq, textUnder?, herror]
  | some v =>
    cases htext : v.asString? with
    | some s => simp [explanation?_eq, textUnder?, herror, htext]
    | none =>
      have hmessage : textUnder? "message" body = none := by
        simpa [HidesMessage, textUnder?.eq_def "error", herror, htext] using h
      simp [explanation?_eq, textUnder?.eq_def "error", hmessage, herror, htext]

theorem explanation?_of_hidesMessage (h : HidesMessage body) : explanation? body = none := by
  obtain ⟨hsome, htext, -⟩ := h
  obtain ⟨v, herror⟩ := Option.isSome_iff_exists.mp hsome
  simpa [explanation?_eq, textUnder?, herror] using htext

end

/-! ## The message of a refusal -/

section

variable {reply : Reply} {text : String}
  (hbody : Text.Utf8.decode? reply.body = some text.toList)

include hbody

theorem refusalMessage_eq :
    refusalMessage reply
      = (explanation? text).getD (if text = "" then phrase reply.status else text) := by
  simp only [refusalMessage, Text.Utf8.decodeLossy_of_decode? hbody, String.ofList_toList,
    String.isEmpty_iff]
  cases explanation? text <;> rfl

theorem refusalMessage_of_not_hidesMessage (h : ¬ HidesMessage text) :
    refusalMessage reply = firstExplanation reply.status text := by
  rw [refusalMessage_eq hbody, explanation?_of_not_hidesMessage h, firstExplanation]
  cases (textUnder? "error" text).or (textUnder? "message" text) with
  | some said => rfl
  | none => by_cases hempty : text = "" <;> simp [hempty, phrase]

theorem refusalMessage_of_hidesMessage (h : HidesMessage text) : refusalMessage reply = text := by
  obtain ⟨m, hm⟩ := Option.isSome_iff_exists.mp h.2.2
  have hne : text ≠ "" := by
    rintro rfl
    exact Nat.not_lt_zero _ (length_lt_of_textUnder? hm)
  rw [refusalMessage_eq hbody, explanation?_of_hidesMessage h]
  simp [hne]

end

theorem firstExplanation_ne_of_hidesMessage {status : Nat} {text : String}
    (h : HidesMessage text) : firstExplanation status text ≠ text := by
  obtain ⟨-, herror, hsome⟩ := h
  obtain ⟨m, hm⟩ := Option.isSome_iff_exists.mp hsome
  have hfirst : firstExplanation status text = m := by simp [firstExplanation, herror, hm]
  intro heq
  have hlt := length_lt_of_textUnder? hm
  rw [← hfirst, heq] at hlt
  exact Nat.lt_irrefl _ hlt

theorem Outgoing.value_of_refusal (out : Outgoing) (reply : Reply)
    (hstatus : isSuccess reply.status = false) :
    out.value (.replied reply) = .error (.refused reply.status (refusalMessage reply)) := by
  simp [Outgoing.value, Reply.value, hstatus]

/-- Whatever was asked, a reply without success is told as the first explanation that there is,
exactly if it hides no message. One that hides its message is told as the whole body. -/
theorem Outgoing.explanation_told_iff (out : Outgoing) (reply : Reply) (text : String)
    (hstatus : isSuccess reply.status = false)
    (hbody : Text.Utf8.decode? reply.body = some text.toList) :
    (out.value (.replied reply)
        = .error (.refused reply.status (firstExplanation reply.status text))
      ↔ ¬ HidesMessage text)
    ∧ (HidesMessage text → out.value (.replied reply) = .error (.refused reply.status text)) := by
  rw [out.value_of_refusal reply hstatus]
  refine ⟨⟨fun htold hhides => ?_, fun hshows => ?_⟩, fun hhides => ?_⟩
  · injection htold with htold
    injection htold with _ htold
    rw [refusalMessage_of_hidesMessage hbody hhides] at htold
    exact firstExplanation_ne_of_hidesMessage hhides htold.symm
  · rw [refusalMessage_of_not_hidesMessage hbody hshows]
  · rw [refusalMessage_of_hidesMessage hbody hhides]

end Portal

namespace Sample

def question : Portal.Outgoing :=
  ⟨"GET", ⟨"http", some ⟨"", none, .name "portal", none⟩, .segments ["users", "me"], none, none,
    false⟩, none, none, ""⟩

def twoErrors : String := "\x7b\"error\":null,\"message\":\"m\",\"error\":\"e\"\x7d"

def nullError : String := "\x7b\"error\":null,\"message\":\"m\"\x7d"

def refusal (body : String) : Portal.Reply := ⟨400, Text.Utf8.encode body.toList⟩

theorem isSuccess_refusal (body : String) :
    Portal.isSuccess (refusal body).status = false := rfl

theorem decode?_refusal (body : String) :
    Text.Utf8.decode? (refusal body).body = some body.toList := by
  simp [refusal, Text.Utf8.decode?, Text.Utf8.isValid_encode, Text.Utf8.validStart_encode]

end Sample

namespace Portal

theorem Outgoing.last_error_told :
    isSuccess (Sample.refusal Sample.twoErrors).status = false
    ∧ Text.Utf8.decode? (Sample.refusal Sample.twoErrors).body = some Sample.twoErrors.toList
    ∧ ¬ HidesMessage Sample.twoErrors
    ∧ Sample.question.value (.replied (Sample.refusal Sample.twoErrors))
        = .error (.refused 400 "e") := by
  have hshows : ¬ HidesMessage Sample.twoErrors := by decide +kernel
  have hfirst : firstExplanation (Sample.refusal Sample.twoErrors).status Sample.twoErrors
      = "e" := by decide +kernel
  have htold := (explanation_told_iff Sample.question _ _ (Sample.isSuccess_refusal _)
    (Sample.decode?_refusal Sample.twoErrors)).1.mpr hshows
  rw [hfirst] at htold
  exact ⟨Sample.isSuccess_refusal _, Sample.decode?_refusal _, hshows, htold⟩

/-- A `message` behind an `error` of null is not told. -/
theorem Outgoing.message_behind_null_lost :
    isSuccess (Sample.refusal Sample.nullError).status = false
    ∧ textUnder? "error" Sample.nullError = none
    ∧ textUnder? "message" Sample.nullError = some "m"
    ∧ Sample.question.value (.replied (Sample.refusal Sample.nullError))
        = .error (.refused 400 Sample.nullError)
    ∧ Sample.nullError ≠ "m" := by
  have hmessage : refusalMessage (Sample.refusal Sample.nullError) = Sample.nullError := by
    decide +kernel
  refine ⟨Sample.isSuccess_refusal _, by decide +kernel, by decide +kernel, ?_, by decide⟩
  rw [value_of_refusal _ _ (Sample.isSuccess_refusal _), hmessage]
  rfl

end Portal
end SessionGateway
