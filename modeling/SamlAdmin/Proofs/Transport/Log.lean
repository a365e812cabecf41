import SamlAdmin.Proofs.Transport.Answers

/-!
# What a call writes to the log

A call announces itself, and behind the announcement there is at most one warning.  Which one
it is, if there is one, can be told from the outcome: a request that is not delivered and an
error of the server are written down, and nothing else is.  So one failure that is reported to
the caller is missing in the log: a success whose body is there and is no JSON.
-/

namespace SamlAdmin

/-- Whether a response has a body that is no JSON. -/
def Response.IsGarbled (response : Response) : Prop :=
  response.body ≠ [] ∧ ∃ fault, Json.readBody response.body = .error fault

namespace Transport

/-- Whether a fault is reported as a failure of the transport or as an error of the server.
The other faults reach the caller as what they are. -/
def Fault.isReported : Fault → Bool
  | .undelivered _ _ _ => true
  | .undecodable _ => true
  | .server _ => true
  | .unprepared _ => false
  | .misused _ _ => false
  | .code _ => false
  | .unreadable _ => false

/-- What is written about a fault, for a call with a given heading. -/
def Fault.warning? (heading : Text) : Fault → Option Text
  | .undelivered _ _ message => some (heading ++ (" failed: " : Text) ++ message)
  | .server error => some (heading ++ (" returned HTTP " : Text) ++ Text.ofInt error.status
      ++ (": " : Text) ++ error.message)
  | .undecodable _ => none
  | .unprepared _ => none
  | .misused _ _ => none
  | .code _ => none
  | .unreadable _ => none

/-- The warnings about an outcome, for a call with a given heading. -/
def warnings {α : Type} (heading : Text) : Except Fault α → List LogRecord
  | .ok _ => []
  | .error fault => (fault.warning? heading).toList.map (record .warning)

/-- What is written about a reply is what is written about its outcome. -/
theorem warnings_of_conclude (codecs : Codecs) (method heading : Text) (reply : Reply) :
    (conclude codecs method heading reply).2 =
      warnings heading (conclude codecs method heading reply).1 := by
  cases reply with
  | undelivered kind message => rfl
  | misused kind message => rfl
  | response response =>
      cases success : Status.isSuccess response.status with
      | true =>
          simp only [conclude, success, if_true]
          cases body : bodyOf response with
          | ok value => rfl
          | error fault =>
              obtain ⟨_, cause, _, rfl⟩ := bodyOf_eq_error_iff.mp body
              rfl
      | false =>
          simp only [conclude, success, Bool.false_eq_true, if_false]
          rcases faultOf_cases codecs response with ⟨_, error, isError, status⟩ | ⟨_, other⟩
          · simp only [isError, warnings, Fault.warning?, status]
            rfl
          · rcases other with ⟨fault, isFault⟩ | ⟨reason, isUnreadable⟩
            · rw [isFault]
              rfl
            · rw [isUnreadable]
              rfl

variable {call : Call} {transport : Transport} {server : Server}

/-- A call writes its announcement and what there is to be written about its outcome. -/
theorem log_of_request (call : Call) (transport : Transport) (server : Server) :
    (transport.request call server).1.log = announcement call transport ::
      warnings (heading call transport) (transport.request call server).1.outcome := by
  cases ready : prepared call transport with
  | error fault =>
      rw [request_of_error ready]
      rfl
  | ok sent =>
      rw [request_of_ok ready]
      exact congrArg _ (warnings_of_conclude _ _ _ _)

theorem faultOf_ne_undecodable (codecs : Codecs) (response : Response) (cause : Json.Fault) :
    faultOf codecs response ≠ .undecodable cause := by
  intro isUndecodable
  rcases faultOf_cases codecs response with ⟨_, error, isError, _⟩ | ⟨_, other⟩
  · cases isError.symm.trans isUndecodable
  · rcases other with ⟨fault, isFault⟩ | ⟨reason, isUnreadable⟩
    · cases isFault.symm.trans isUndecodable
    · cases isUnreadable.symm.trans isUndecodable

theorem conclude_eq_undecodable_iff {codecs : Codecs} {method heading : Text} {reply : Reply} :
    (∃ cause, (conclude codecs method heading reply).1 = .error (.undecodable cause)) ↔
      ∃ response, reply = .response response ∧ Status.isSuccess response.status = true ∧
        response.IsGarbled := by
  cases reply with
  | undelivered kind message => simp [conclude]
  | misused kind message => simp [conclude]
  | response response =>
      simp only [Reply.response.injEq, exists_eq_left']
      cases success : Status.isSuccess response.status with
      | true =>
          simp only [conclude, success, if_true, true_and, Response.IsGarbled, bodyOf_eq_error_iff,
            Fault.undecodable.injEq, exists_and_left]
          simp
      | false =>
          simp only [conclude_of_failure success]
          refine iff_of_false ?_ fun both => absurd both.1 (by decide)
          rintro ⟨cause, isUndecodable⟩
          exact faultOf_ne_undecodable codecs response cause (Except.error.inj isUndecodable)

theorem outcome_eq_undecodable_iff :
    (∃ cause, (transport.request call server).1.outcome = .error (.undecodable cause)) ↔
      ∃ request response, (transport.request call server).1.sent = some request ∧
        server.answer.1 = .response response ∧
        (200 ≤ response.status ∧ response.status ≤ 299) ∧ response.IsGarbled := by
  cases ready : prepared call transport with
  | error fault =>
      simp [request_of_error ready]
  | ok sent =>
      rw [request_of_ok ready]
      simp only [verdict, conclude_eq_undecodable_iff, ← Status.isSuccess_iff]
      constructor
      · rintro ⟨response, taken, success, garbled⟩
        exact ⟨sent, response, rfl, Reply.eq_of_taken taken, success, garbled⟩
      · rintro ⟨_, response, _, replied, success, garbled⟩
        rw [replied]
        exact ⟨response, Reply.taken_of_success success _, success, garbled⟩

/-- Every fault that is reported has one warning, but for a body that is no JSON. -/
theorem exists_warning_of_isReported {fault : Fault} (heading : Text)
    (reported : fault.isReported = true) (readable : ∀ cause, fault ≠ .undecodable cause) :
    ∃ warning, warnings heading (.error fault : Except Fault (Option Value)) = [warning] ∧
      warning.level = .warning := by
  cases fault with
  | undelivered method kind message => exact ⟨_, rfl, rfl⟩
  | server error => exact ⟨_, rfl, rfl⟩
  | undecodable cause => exact absurd rfl (readable cause)
  | unprepared fault => cases reported
  | misused kind message => cases reported
  | code fault => cases reported
  | unreadable reason => cases reported

end Transport

/-- Whether the log of a call is what its outcome asks for: an announcement, and behind it one
warning where the call ends in a fault that is reported, and nothing where it has a result. -/
def Exchange.TellsOutcome {α : Type} (exchange : Exchange α) : Prop :=
  ∃ announced others, exchange.log = announced :: others ∧ announced.level = .debug ∧
    (∀ fault, exchange.outcome = .error fault → fault.isReported = true →
      ∃ warning, others = [warning] ∧ warning.level = .warning) ∧
    ∀ result, exchange.outcome = .ok result → others = []

namespace Transport

/-- The log of a call is its announcement with what there is to be written about its outcome.
It is what the outcome asks for exactly if the answer is no success with a body that is no
JSON: that one is reported without a warning. -/
theorem outcome_is_logged_iff_not_garbled (call : Call) (transport : Transport) (server : Server) :
    (transport.request call server).1.log = announcement call transport ::
        warnings (heading call transport) (transport.request call server).1.outcome ∧
      ((transport.request call server).1.TellsOutcome ↔
        ¬∃ request response, (transport.request call server).1.sent = some request ∧
          server.answer.1 = .response response ∧
          (200 ≤ response.status ∧ response.status ≤ 299) ∧ response.IsGarbled) := by
  have log := log_of_request call transport server
  refine ⟨log, ?_⟩
  rw [← outcome_eq_undecodable_iff]
  constructor
  · rintro ⟨announced, others, same, _, failed, _⟩ ⟨cause, isUndecodable⟩
    obtain ⟨warning, rfl, _⟩ := failed _ isUndecodable rfl
    rw [log, isUndecodable] at same
    cases same
  · intro readable
    refine ⟨_, _, log, rfl, fun fault failed reported => ?_, fun result finished => ?_⟩
    · rw [failed]
      refine exists_warning_of_isReported _ reported fun cause isUndecodable => ?_
      exact readable ⟨cause, failed.trans (congrArg _ isUndecodable)⟩
    · rw [finished]
      rfl

/-- An answer that breaks off behind its first sign. -/
def brokenAnswer : Response := { body := Utf8.encode "\x7b" }

/-- A broken answer is reported, and the log has nothing but the announcement of its call.  A
missing configuration is reported and written down. -/
theorem broken_answer_is_not_logged :
    (∃ fault, (plainTransport.request plainCall ⟨[.response brokenAnswer]⟩).1.outcome =
        .error fault ∧ fault.isReported = true ∧
      (plainTransport.request plainCall ⟨[.response brokenAnswer]⟩).1.log =
        [announcement plainCall plainTransport]) ∧
      ¬(plainTransport.request plainCall ⟨[.response brokenAnswer]⟩).1.TellsOutcome ∧
      (plainTransport.request plainCall ⟨[.response namedAnswer]⟩).1.TellsOutcome := by
  have garbled : brokenAnswer.IsGarbled := by
    refine ⟨by decide, ?_⟩
    have unread : (Json.readBody brokenAnswer.body).toOption.isSome = false := by decide +kernel
    cases read : Json.readBody brokenAnswer.body with
    | ok body =>
        rw [read] at unread
        cases unread
    | error fault => exact ⟨fault, rfl⟩
  obtain ⟨request, sent⟩ : ∃ request,
      (plainTransport.request plainCall ⟨[.response brokenAnswer]⟩).1.sent = some request :=
    ⟨_, rfl⟩
  obtain ⟨log, told⟩ :=
    outcome_is_logged_iff_not_garbled plainCall plainTransport ⟨[.response brokenAnswer]⟩
  have ended : ∃ cause, (plainTransport.request plainCall ⟨[.response brokenAnswer]⟩).1.outcome =
      .error (.undecodable cause) :=
    outcome_eq_undecodable_iff.mpr ⟨request, brokenAnswer, sent, rfl, by decide, garbled⟩
  obtain ⟨cause, isUndecodable⟩ := ended
  refine ⟨⟨_, isUndecodable, rfl, ?_⟩, fun tells => ?_, ?_⟩
  · rw [log, isUndecodable]
    rfl
  · exact told.mp tells ⟨request, brokenAnswer, sent, rfl, by decide, garbled⟩
  · refine (outcome_is_logged_iff_not_garbled plainCall plainTransport _).2.mpr ?_
    rintro ⟨_, response, _, replied, success, _⟩
    cases replied
    exact absurd success (by decide)

end Transport

end SamlAdmin
