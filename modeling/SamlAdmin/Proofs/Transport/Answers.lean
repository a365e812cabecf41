import SamlAdmin.Proofs.Http.ContentType
import SamlAdmin.Proofs.Transport.Call

/-!
# Answers without success

An answer without success is meant to become an error of the server with its status.  It
does exactly where the code that it reports is a text, or where it reports none and its
body has a text.  A code of another kind and a body without a text end in faults that say
nothing of the status.
-/

namespace SamlAdmin

namespace Response

/-- Whether the body of a response reports a code: it is an object with an error, which is
an object whose message is the code. -/
def Reports (response : Response) (code : Value) : Prop :=
  ∃ members error, Json.readBody response.body = .ok (.object members) ∧
    Members.lookup "error" members = some (.object error) ∧
    Members.lookup "message" error = some code

/-- Whether a response without success has what its error is made of.  A code that counts
as present has to be a text; without one, the body has to have a text. -/
structure Reportable (codecs : Codecs) (response : Response) : Prop where
  textCode : ∀ code, response.Reports code → code.isTruthy = true → ∃ text, code = .str text
  legible : (∀ code, response.Reports code → code.isTruthy = false) →
    ¬response.IsIllegible codecs

end Response

theorem Value.toSplittable_eq_ok_iff {value : Value} {text : Text} :
    value.toSplittable = .ok text ↔ value = .str text := by
  cases value <;> simp [toSplittable]

namespace Transport

variable {codecs : Codecs} {response : Response}

theorem errorCode_of_reports {code : Value} (reports : response.Reports code) :
    errorCode response = code := by
  obtain ⟨members, error, read, inBody, inError⟩ := reports
  simp only [errorCode, read, codeOf, inBody, inError, Option.getD_some]

theorem reports_of_isTruthy (present : (errorCode response).isTruthy = true) :
    response.Reports (errorCode response) := by
  cases read : Json.readBody response.body with
  | error fault =>
      rw [errorCode, read] at present
      cases present
  | ok body =>
      have isCode : errorCode response = codeOf body := by rw [errorCode, read]
      rw [isCode] at present ⊢
      cases body with
      | object members =>
          cases inBody : Members.lookup "error" members with
          | none =>
              simp only [codeOf, inBody] at present
              cases present
          | some value =>
              cases value with
              | object error =>
                  cases inError : Members.lookup "message" error with
                  | none =>
                      simp only [codeOf, inBody, inError] at present
                      cases present
                  | some code =>
                      refine ⟨members, error, read, inBody, ?_⟩
                      simp only [codeOf, inBody, inError, Option.getD_some]
              | _ =>
                  simp only [codeOf, inBody] at present
                  cases present
      | _ => cases present

theorem reportable_iff_of_isTruthy (present : (errorCode response).isTruthy = true) :
    response.Reportable codecs ↔ ∃ text, errorCode response = .str text := by
  have reports := reports_of_isTruthy present
  constructor
  · intro reportable
    exact reportable.textCode _ reports present
  · intro isText
    constructor
    · intro code other _
      rw [← errorCode_of_reports other]
      exact isText
    · intro falsy
      rw [falsy _ reports] at present
      cases present

/-- An answer without such a code is reportable exactly if its body has a text. -/
theorem reportable_iff_of_not_isTruthy (absent : (errorCode response).isTruthy = false) :
    response.Reportable codecs ↔ ¬response.IsIllegible codecs := by
  have falsy : ∀ code, response.Reports code → code.isTruthy = false := by
    intro code reports
    rw [← errorCode_of_reports reports]
    exact absent
  constructor
  · intro reportable
    exact reportable.legible falsy
  · intro legible
    constructor
    · intro code reports present
      rw [falsy code reports] at present
      cases present
    · intro _
      exact legible

theorem detail_eq_map_text (codecs : Codecs) (response : Response) :
    detail codecs response = (response.text codecs).map fun text =>
      if text = [] then Status.phrase response.status else text := by
  rw [detail]
  cases response.text codecs with
  | error reason => rfl
  | ok text =>
      cases text with
      | nil => rfl
      | cons first rest => rfl

theorem detail_eq_error_iff :
    (∃ reason, detail codecs response = .error reason) ↔ response.IsIllegible codecs := by
  simp only [detail_eq_map_text, map_eq_error_iff, Response.text_eq_error_iff]

theorem faultOf_of_isTruthy (present : (errorCode response).isTruthy = true) :
    faultOf codecs response = match (errorCode response).toSplittable with
      | .ok text => .server ⟨.ofAnswer response.status text, response.status, errorCode response,
          codeMessage response.status (errorCode response)⟩
      | .error fault => .code fault := by
  simp only [faultOf, present, if_true, ServerError.classify]
  cases (errorCode response).toSplittable with
  | ok text => rfl
  | error fault => rfl

theorem faultOf_of_not_isTruthy (absent : (errorCode response).isTruthy = false) :
    faultOf codecs response = match detail codecs response with
      | .ok text => .server ⟨.ofStatus response.status, response.status, errorCode response,
          plainMessage response.status text⟩
      | .error reason => .unreadable reason := by
  simp only [faultOf, absent, Bool.false_eq_true, if_false, ServerError.classify]
  cases detail codecs response with
  | ok text => rfl
  | error reason => rfl

/-- An answer is an error of the server with its status, or it is not reportable and ends
in a fault of its code or of its body. -/
theorem faultOf_cases (codecs : Codecs) (response : Response) :
    (response.Reportable codecs ∧
      ∃ error, faultOf codecs response = .server error ∧ error.status = response.status) ∨
    (¬response.Reportable codecs ∧
      ((∃ fault, faultOf codecs response = .code fault) ∨
        ∃ reason, faultOf codecs response = .unreadable reason)) := by
  cases present : (errorCode response).isTruthy with
  | true =>
      rw [reportable_iff_of_isTruthy present, faultOf_of_isTruthy present]
      cases cut : (errorCode response).toSplittable with
      | ok text => exact Or.inl ⟨⟨text, Value.toSplittable_eq_ok_iff.mp cut⟩, _, rfl, rfl⟩
      | error fault =>
          refine Or.inr ⟨?_, Or.inl ⟨fault, rfl⟩⟩
          rintro ⟨text, isText⟩
          rw [Value.toSplittable_eq_ok_iff.mpr isText] at cut
          cases cut
  | false =>
      rw [reportable_iff_of_not_isTruthy present, faultOf_of_not_isTruthy present,
        ← detail_eq_error_iff]
      cases detail codecs response with
      | ok text => exact Or.inl ⟨nofun, _, rfl, rfl⟩
      | error reason =>
          refine Or.inr ⟨?_, Or.inr ⟨reason, rfl⟩⟩
          intro readable
          exact readable ⟨reason, rfl⟩

/-! ## The outcome of a call -/

theorem bodyOf_eq_error_iff {response : Response} {fault : Fault} :
    bodyOf response = .error fault ↔
      response.body ≠ [] ∧
        ∃ cause, Json.readBody response.body = .error cause ∧ fault = .undecodable cause := by
  rw [bodyOf]
  cases response.body with
  | nil => simp
  | cons first rest =>
      cases read : Json.readBody (first :: rest) with
      | ok body => simp [read]
      | error cause => simp [read, eq_comm]

/-- An answer that sends nobody on is taken as it is. -/
theorem taken_of_noLocation (noLocation : response.headers.get? "Location" = none)
    (asked : Target) : (Reply.response response).taken asked = .response response := by
  rw [Reply.taken, noLocation]
  cases Status.isRedirect response.status with
  | true => rfl
  | false => rfl

theorem conclude_of_failure (failure : Status.isSuccess response.status = false)
    (method heading : Text) :
    (conclude codecs method heading (.response response)).1 = .error (faultOf codecs response) := by
  simp only [conclude, failure, Bool.false_eq_true, if_false]
  cases faultOf codecs response <;> rfl

variable {call : Call} {transport : Transport} {server : Server} {request : Request}

/-- A call that is sent and answered without success ends in the fault of the answer. -/
theorem outcome_of_failure (sent : (transport.request call server).1.sent = some request)
    (replied : server.answer.1 = .response response)
    (failure : ¬(200 ≤ response.status ∧ response.status ≤ 299))
    (noLocation : response.headers.get? "Location" = none) :
    (transport.request call server).1.outcome = .error (faultOf transport.codecs response) := by
  have unsuccessful : Status.isSuccess response.status = false := by
    simpa [Status.isSuccess] using failure
  cases ready : prepared call transport with
  | error fault =>
      rw [request_of_error ready] at sent
      cases sent
  | ok prepared =>
      rw [request_of_ok ready, verdict, replied, taken_of_noLocation noLocation]
      exact conclude_of_failure unsuccessful call.method _

/-- A call that is sent and answered without success gives an error of the server with the
status of the answer exactly if the answer is reportable.  All other answers give a fault
that says what is wrong with their code or their body.  This is so whatever encodings are
known to the transport. -/
theorem failed_answer_is_server_error_iff {call : Call} {transport : Transport} {server : Server}
    {request : Request} (sent : (transport.request call server).1.sent = some request)
    (replied : server.answer.1 = .response response)
    (failure : ¬(200 ≤ response.status ∧ response.status ≤ 299))
    (noLocation : response.headers.get? "Location" = none) :
    ((∃ error, (transport.request call server).1.outcome = .error (.server error) ∧
        error.status = response.status) ↔ response.Reportable transport.codecs) ∧
      (¬response.Reportable transport.codecs →
        (∃ fault, (transport.request call server).1.outcome = .error (.code fault)) ∨
        ∃ reason, (transport.request call server).1.outcome = .error (.unreadable reason)) := by
  rw [outcome_of_failure sent replied failure noLocation]
  simp only [Except.error.injEq]
  rcases faultOf_cases transport.codecs response with
    ⟨reportable, error, isError, status⟩ | ⟨unreportable, other⟩
  · rw [isError]
    refine ⟨iff_of_true ⟨error, rfl, status⟩ reportable, fun unreportable => ?_⟩
    exact absurd reportable unreportable
  · refine ⟨iff_of_false ?_ unreportable, fun _ => other⟩
    rintro ⟨error, isError, _⟩
    rcases other with ⟨fault, isFault⟩ | ⟨reason, isUnreadable⟩
    · rw [isError] at isFault
      cases isFault
    · rw [isError] at isUnreadable
      cases isUnreadable

/-- A transport and a call that it sends. -/
def plainTransport : Transport := .ofEndpoint "https://h.test/v1" [] (.ofLimits (.all .null))

def plainCall : Call := { method := "GET", path := "/x" }

theorem exists_sent_plainCall : ∃ request, ∀ server,
    (plainTransport.request plainCall server).1.sent = some request := by
  have prepares : (prepared plainCall plainTransport).toOption.isSome = true := by decide +kernel
  cases ready : prepared plainCall plainTransport with
  | error fault =>
      rw [ready] at prepares
      cases prepares
  | ok request => exact ⟨request, fun server => by rw [request_of_ok ready]⟩

/-- Answers with a code that is a text and a code that is a number. -/
def namedAnswer : Response where
  status := 404
  body := Utf8.encode "\x7b\"error\":\x7b\"message\":\"GONE\"\x7d\x7d"

def numberedAnswer : Response where
  status := 404
  body := Utf8.encode "\x7b\"error\":\x7b\"message\":5\x7d\x7d"

/-- The first of these answers gives an error of the server, and the second does not. -/
theorem failed_answer_is_server_error_for_text_only :
    (∃ error, (plainTransport.request plainCall ⟨[.response namedAnswer]⟩).1.outcome =
        .error (.server error) ∧ error.status = 404) ∧
      ¬∃ error, (plainTransport.request plainCall ⟨[.response numberedAnswer]⟩).1.outcome =
        .error (.server error) ∧ error.status = 404 := by
  obtain ⟨request, sent⟩ := exists_sent_plainCall
  have namedPresent : (errorCode namedAnswer).isTruthy = true := by decide +kernel
  have namedText : (errorCode namedAnswer).toSplittable.toOption.isSome = true := by decide +kernel
  have numberedPresent : (errorCode numberedAnswer).isTruthy = true := by decide +kernel
  have numberedNoText : (errorCode numberedAnswer).toSplittable.toOption.isSome = false := by
    decide +kernel
  have named : (Server.answer ⟨[.response namedAnswer]⟩).1 = .response namedAnswer := rfl
  have numbered : (Server.answer ⟨[.response numberedAnswer]⟩).1 = .response numberedAnswer := rfl
  constructor
  · refine (failed_answer_is_server_error_iff (sent _) named (by decide) rfl).1.mpr ?_
    rw [reportable_iff_of_isTruthy namedPresent]
    cases cut : (errorCode namedAnswer).toSplittable with
    | ok text => exact ⟨text, Value.toSplittable_eq_ok_iff.mp cut⟩
    | error fault =>
        rw [cut] at namedText
        cases namedText
  · intro isError
    have reportable :=
      (failed_answer_is_server_error_iff (sent _) numbered (by decide) rfl).1.mp isError
    obtain ⟨text, isText⟩ := (reportable_iff_of_isTruthy numberedPresent).mp reportable
    rw [isText] at numberedNoText
    cases numberedNoText

end Transport

end SamlAdmin
