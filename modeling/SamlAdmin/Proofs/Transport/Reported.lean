import SamlAdmin.Proofs.ServerError
import SamlAdmin.Proofs.Transport.Answers

/-!
# Errors that the server reports

An answer without success may report a text as its code.  The error that it becomes has the
code as it stands and the status of the answer.  Its kind comes from the name that the code
carries, if the name is listed, and otherwise from the status; the detail behind the name
never counts.  The message is made of the code, or of the text of the body where the code is
empty.  So it is only an answer with an empty code and a body without a text that becomes no
such error.
-/

namespace SamlAdmin

/-- An error that is made of an answer and of the code that the answer reports, where some
encodings are known. -/
structure ServerError.StandsFor (codecs : Codecs) (error : ServerError) (response : Response)
    (code : Text) : Prop where
  code_eq : error.code = .str code
  status_eq : error.status = response.status
  kind_of_known : ∀ name kind, (name, kind) ∈ ErrorKind.codes → ErrorKind.Carries name code →
    error.kind = kind
  kind_of_unknown : (∀ name kind, (name, kind) ∈ ErrorKind.codes → ¬ErrorKind.Carries name code) →
    error.kind = .ofStatus response.status
  message_of_code : code ≠ [] →
    error.message = code ++ (" (HTTP " : Text) ++ Text.ofNat response.status ++ (")" : Text)
  message_of_body : code = [] → ∃ text, response.text codecs = .ok text ∧ error.message =
    Transport.plainMessage response.status
      (if text = [] then Status.phrase response.status else text)

namespace Transport

variable {codecs : Codecs} {response : Response} {call : Call} {transport : Transport} {server : Server}
  {request : Request} {code : Text}

theorem faultOf_of_code (reports : response.Reports (.str code)) (nonempty : code ≠ []) :
    ∃ error, faultOf codecs response = .server error ∧ error.StandsFor codecs response code := by
  have isCode := errorCode_of_reports reports
  have present : (errorCode response).isTruthy = true := by
    simpa [isCode, Value.isTruthy] using nonempty
  rw [faultOf_of_isTruthy present, isCode]
  refine ⟨_, rfl, ?_⟩
  constructor
  · rfl
  · rfl
  · intro name kind known carries
    exact ErrorKind.ofAnswer_of_carries known carries response.status
  · intro unknown
    exact ErrorKind.ofAnswer_of_not_carries unknown response.status
  · intro _
    simp [codeMessage, Value.plain]
  · intro empty
    exact absurd empty nonempty

theorem faultOf_of_text {text : Text} (reports : response.Reports (.str []))
    (readable : response.text codecs = .ok text) :
    ∃ error, faultOf codecs response = .server error ∧ error.StandsFor codecs response [] := by
  have isCode := errorCode_of_reports reports
  have absent : (errorCode response).isTruthy = false := by
    rw [isCode]
    rfl
  rw [faultOf_of_not_isTruthy absent, detail_eq_map_text, readable, isCode]
  refine ⟨_, rfl, ?_⟩
  constructor
  · rfl
  · rfl
  · intro name kind known carries
    exact ErrorKind.ofAnswer_of_carries known carries response.status
  · intro _
    rfl
  · intro nonempty
    exact absurd rfl nonempty
  · intro _
    exact ⟨text, readable, rfl⟩

theorem faultOf_of_illegible (reports : response.Reports (.str []))
    (illegible : response.IsIllegible codecs) :
    ∃ reason, faultOf codecs response = .unreadable reason := by
  have absent : (errorCode response).isTruthy = false := by
    rw [errorCode_of_reports reports]
    rfl
  obtain ⟨reason, unreadable⟩ := detail_eq_error_iff.mpr illegible
  exact ⟨reason, by rw [faultOf_of_not_isTruthy absent, unreadable]⟩

/-- A call that is sent and answered without success, by a body that reports a text as its
code, ends in the error for the answer and the code exactly if the code is not empty or the
body can be read.  The kind of the error is the same for every code that carries the same
listed name. -/
theorem reported_text_decides_error
    (sent : (transport.request call server).1.sent = some request)
    (replied : server.answer.1 = .response response)
    (failure : ¬(200 ≤ response.status ∧ response.status ≤ 299))
    (noLocation : response.headers.get? "Location" = none)
    (reports : response.Reports (.str code)) :
    ((∃ error, (transport.request call server).1.outcome = .error (.server error) ∧
        error.StandsFor transport.codecs response code) ↔
      code ≠ [] ∨ ¬response.IsIllegible transport.codecs) ∧
    (code = [] → response.IsIllegible transport.codecs →
      ∃ reason, (transport.request call server).1.outcome = .error (.unreadable reason)) ∧
    ∀ (name : Text) (kind : ErrorKind) (before behind detail : Text),
      (name, kind) ∈ ErrorKind.codes → before.IsBlank → behind.IsBlank →
      code = before ++ name ++ behind ++ .char ':' :: detail →
      ∀ (other : Response) (error plain : ServerError),
        error.StandsFor transport.codecs response code →
        plain.StandsFor transport.codecs other name → error.kind = plain.kind := by
  rw [outcome_of_failure sent replied failure noLocation]
  simp only [Except.error.injEq]
  refine ⟨⟨?_, ?_⟩, ?_, ?_⟩
  · rintro ⟨error, isError, _⟩
    by_contra neither
    rw [not_or, not_not, not_not] at neither
    obtain ⟨rfl, illegible⟩ := neither
    obtain ⟨reason, isUnreadable⟩ := faultOf_of_illegible reports illegible
    rw [isError] at isUnreadable
    cases isUnreadable
  · intro condition
    by_cases empty : code = []
    · subst empty
      have legible := condition.resolve_left fun nonempty => nonempty rfl
      cases read : response.text transport.codecs with
      | ok text => exact faultOf_of_text reports read
      | error reason => exact absurd (Response.text_eq_error_iff.mp ⟨reason, read⟩) legible
    · exact faultOf_of_code reports empty
  · rintro rfl illegible
    exact faultOf_of_illegible reports illegible
  · rintro name kind before behind detail known blankBefore blankBehind rfl
    intro other error plain ofDetailed ofPlain
    have detailed := ofDetailed.kind_of_known name kind known
      (.detailed blankBefore blankBehind detail)
    have alone := ofPlain.kind_of_known name kind known (.refl name)
    rw [detailed, alone]

/-- Whether a body is an object with an error whose message is a given text. -/
def namesText (code : Text) : Value → Bool
  | .object members =>
    match Members.lookup "error" members with
    | some (.object error) =>
      match Members.lookup "message" error with
      | some (.str text) => text = code
      | _ => false
    | _ => false
  | _ => false

theorem reports_of_namesText
    (named : (Json.readBody response.body).toOption.any (namesText code) = true) :
    response.Reports (.str code) := by
  cases read : Json.readBody response.body with
  | error fault =>
      rw [read] at named
      cases named
  | ok body =>
      rw [read] at named
      change namesText code body = true at named
      cases body with
      | object members =>
          simp only [namesText] at named
          split at named
          next error inBody =>
            split at named
            next text inError =>
              obtain rfl := of_decide_eq_true named
              exact ⟨members, error, read, inBody, inError⟩
            next => cases named
          next => cases named
      | _ => cases named

/-- A conflict that reports a missing configuration with a detail. -/
def detailedAnswer : Response where
  status := 409
  body := Utf8.encode
    "\x7b\"error\":\x7b\"message\":\" CONFIGURATION_NOT_FOUND\\u3000: gone: now\"\x7d\x7d"

/-- An answer that reports an empty code and whose content type names an encoding with a mark,
which the body does not have. -/
def unmarkedAnswer : Response where
  status := 404
  headers := [("Content-Type", "application/json; charset=utf-16")]
  body := Utf8.encode "\x7b\"error\":\x7b\"message\":\"\"\x7d\x7d"

/-- The name of the first code decides, and the second answer is no error of the server. -/
theorem name_decides_and_unmarked_body_is_unreadable :
    (∃ error, (plainTransport.request plainCall ⟨[.response detailedAnswer]⟩).1.outcome =
        .error (.server error) ∧ error.kind = .notFound ∧ error.status = 409) ∧
      ∃ reason, (plainTransport.request plainCall ⟨[.response unmarkedAnswer]⟩).1.outcome =
        .error (.unreadable reason) := by
  obtain ⟨sentRequest, sent⟩ := exists_sent_plainCall
  have conflict : (Server.answer ⟨[.response detailedAnswer]⟩).1 = .response detailedAnswer := rfl
  have unmarked : (Server.answer ⟨[.response unmarkedAnswer]⟩).1 = .response unmarkedAnswer := rfl
  constructor
  · have reports : detailedAnswer.Reports (.str " CONFIGURATION_NOT_FOUND\u3000: gone: now") :=
      reports_of_namesText (by decide +kernel)
    obtain ⟨error, isError, standsFor⟩ :=
      (reported_text_decides_error (sent _) conflict (by decide) rfl reports).1.mpr
        (Or.inl (by decide))
    have ideographicSpace : Text.IsBlank "\u3000" := by decide
    have space : Text.IsBlank " " := by decide
    refine ⟨error, isError, ?_, standsFor.status_eq⟩
    exact standsFor.kind_of_known "CONFIGURATION_NOT_FOUND" .notFound (by decide)
      (.detailed space ideographicSpace " gone: now")
  · have reports : unmarkedAnswer.Reports (.str []) := reports_of_namesText (by decide +kernel)
    apply (reported_text_decides_error (sent _) unmarked (by decide) rfl reports).2.1 rfl
    have chosen : ContentType.encoding .none (unmarkedAnswer.headers.get? "Content-Type") =
        .ok (.listed .utf16) := by
      rfl
    exact ⟨by decide +kernel, .refused chosen ⟨by decide +kernel, by decide +kernel⟩⟩

end Transport

end SamlAdmin
