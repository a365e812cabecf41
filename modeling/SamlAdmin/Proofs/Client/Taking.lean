import SamlAdmin.Proofs.Client.Sending
import SamlAdmin.Proofs.Resource.Shape

/-!
# What is taken for a resource

The body of an answer with success should be an object of the expected shape, and every
other body an error of the transport.  There is one gap.  A body that counts as absent is
read like an answer without a body, so null, false, zero, the empty text and the empty
list are taken for a configuration whose fields are all empty, or for a page without
configurations.
-/

namespace SamlAdmin

namespace Operation

/-- The shape that the body of an answer should have.  The answer to a deletion may have
any body. -/
def Expects : Operation → Value → Prop
  | .get _ => Value.IsResource
  | .create _ => Value.IsResource
  | .update _ _ => Value.IsResource
  | .delete _ => fun _ => True
  | .list _ _ => Value.IsResourceList

def emptyResult : Operation → Result
  | .get _ => .config ({} : Resource).toConfig
  | .create _ => .config ({} : Resource).toConfig
  | .update _ _ => .config ({} : Resource).toConfig
  | .delete _ => .deleted
  | .list _ _ => .page { configs := [], nextPageToken := none }

variable {operation : Operation} {body : Value}

theorem presentBody_of_isTruthy (present : body.isTruthy = true) :
    presentBody (some body) = body := by
  simp only [presentBody, present, if_true]

theorem presentBody_of_not_isTruthy (absent : body.isTruthy = false) :
    presentBody (some body) = .object [] := by
  simp only [presentBody, absent, Bool.false_eq_true, if_false]

theorem readConfig_ok_iff (present : body.isTruthy = true) :
    (∃ result, readConfig (some body) = .ok result) ↔ body.IsResource := by
  rw [← Reading.accepts_resource body, readConfig, presentBody_of_isTruthy present]
  simp only [Reading.Succeeds, ← Resource.ofBody_eq_ok_iff]
  cases Resource.ofBody body with
  | ok resource => simp
  | error refused => simp

theorem readPage_ok_iff (present : body.isTruthy = true) :
    (∃ result, readPage (some body) = .ok result) ↔ body.IsResourceList := by
  rw [← Reading.accepts_resourceList body, readPage, presentBody_of_isTruthy present]
  simp only [Reading.Succeeds, ← ResourceList.ofBody_eq_ok_iff]
  cases ResourceList.ofBody body with
  | ok list => simp
  | error refused => simp

/-- A body that counts as present is read exactly if it has the expected shape. -/
theorem conclude_ok_iff (present : body.isTruthy = true) :
    (∃ result, operation.conclude (some body) = .ok result) ↔ operation.Expects body := by
  cases operation with
  | get id => exact readConfig_ok_iff present
  | create draft => exact readConfig_ok_iff present
  | update id draft => exact readConfig_ok_iff present
  | delete id => exact iff_of_true ⟨.deleted, rfl⟩ trivial
  | list token size => exact readPage_ok_iff present

theorem conclude_of_not_isTruthy (absent : body.isTruthy = false) :
    operation.conclude (some body) = .ok operation.emptyResult := by
  have config : readConfig (some body) = .ok (.config ({} : Resource).toConfig) := by
    rw [readConfig, presentBody_of_not_isTruthy absent]
    rfl
  have page : readPage (some body) = .ok (.page { configs := [], nextPageToken := none }) := by
    rw [readPage, presentBody_of_not_isTruthy absent]
    rfl
  cases operation with
  | get id => exact config
  | create draft => exact config
  | update id draft => exact config
  | delete id => rfl
  | list token size => exact page

end Operation

namespace Client

/-- Whether a fault is reported as an error of the transport: the request or its answer
was lost on the way, or the answer is not what was asked for. -/
def Fault.isOfTransport : Fault → Bool
  | .argument _ => false
  | .noProject => false
  | .transport (.undelivered _ _ _) => true
  | .transport (.undecodable _) => true
  | .transport _ => false
  | .unexpectedConfig _ => true
  | .unexpectedList _ => true

variable {operation : Operation} {client : Client} {server : Server} {request : Request}
  {response : Response}

theorem isOfTransport_of_conclude {body : Option Value} {fault : Fault}
    (failed : operation.conclude body = .error fault) : fault.isOfTransport = true := by
  obtain ⟨refused, rfl | rfl⟩ := fault_of_conclude failed
  · rfl
  · rfl

/-- An operation that was sent and answered with success ends with what is read of the
body. -/
theorem Course.outcome_of_success {answer : Answer} {after : Client} {serverAfter : Server}
    {value : Value} (course : Course operation client server answer after serverAfter)
    (isSent : answer.sent = some request) (replied : server.answer.1 = .response response)
    (success : Status.isSuccess response.status = true)
    (decoded : Json.readBody response.body = .ok value) :
    answer.outcome = operation.conclude (some value) := by
  have body : Transport.bodyOf response = .ok (some value) := by
    rw [Transport.bodyOf]
    cases octets : response.body with
    | nil =>
        rw [octets] at decoded
        cases decoded
    | cons first rest =>
        rw [octets] at decoded
        simp only [decoded]
  cases course with
  | refused _ => cases isSent
  | withoutProject _ _ => cases isSent
  | unprepared _ _ _ => cases isSent
  | sent planned present ready =>
      simp only [answered, verdict, Transport.verdict, Transport.conclude, replied,
        Reply.taken_of_success success, success, if_true, body]

/-- An answer with success and a body gives a result exactly if the body has the expected
shape or counts as absent.  In the second case all that is returned is empty, whatever kind
of value the body is.  Every other body is an error of the transport. -/
theorem answer_is_taken_iff_expected_or_absent {value : Value}
    (isSent : (client.perform operation server).1.sent = some request)
    (replied : server.answer.1 = .response response)
    (success : 200 ≤ response.status ∧ response.status ≤ 299)
    (decoded : Json.readBody response.body = .ok value) :
    ((∃ result, (client.perform operation server).1.outcome = .ok result) ↔
      operation.Expects value ∨ value.isTruthy = false) ∧
    (value.isTruthy = false →
      (client.perform operation server).1.outcome = .ok operation.emptyResult) ∧
    (¬(operation.Expects value ∨ value.isTruthy = false) →
      ∃ fault, (client.perform operation server).1.outcome = .error fault ∧
        fault.isOfTransport = true) := by
  have successful : Status.isSuccess response.status = true := by
    simpa [Status.isSuccess] using success
  have course := perform_course operation client server
  rw [course.outcome_of_success isSent replied successful decoded]
  have taken : (∃ result, operation.conclude (some value) = .ok result) ↔
      operation.Expects value ∨ value.isTruthy = false := by
    cases present : value.isTruthy with
    | true =>
        rw [Operation.conclude_ok_iff present]
        simp
    | false => exact iff_of_true ⟨_, Operation.conclude_of_not_isTruthy present⟩ (Or.inr rfl)
  refine ⟨taken, Operation.conclude_of_not_isTruthy, ?_⟩
  intro other
  cases concluded : operation.conclude (some value) with
  | ok result => exact absurd (taken.mp ⟨result, concluded⟩) other
  | error fault => exact ⟨fault, rfl, isOfTransport_of_conclude concluded⟩

def answerOf (body : String) : Response := { body := Utf8.encode body }

theorem exists_value_of_any (octets : List UInt8) (test : Value → Bool)
    (tested : (Json.readBody octets).toOption.any test = true) :
    ∃ value, Json.readBody octets = .ok value ∧ test value = true := by
  cases read : Json.readBody octets with
  | error fault =>
      rw [read] at tested
      cases tested
  | ok value =>
      rw [read] at tested
      exact ⟨value, rfl, tested⟩

/-- An empty list is taken for a configuration, and a list of one item is an error of the
transport. -/
theorem empty_list_is_taken_for_configuration :
    (∃ value, Json.readBody (answerOf "[]").body = .ok value ∧ value.kind = "list" ∧
      ((usual "my-project").perform (.get (.str "saml.okta"))
        ⟨[.response (answerOf "[]")]⟩).1.outcome = .ok (.config ({} : Resource).toConfig)) ∧
    ∃ fault, ((usual "my-project").perform (.get (.str "saml.okta"))
      ⟨[.response (answerOf "[0]")]⟩).1.outcome = .error fault ∧ fault.isOfTransport = true := by
  have named : IsProjectName ("my-project" : Text) := by decide
  have formed : ProviderId.WellFormed ("saml.okta" : Text) :=
    ProviderId.isValid_iff.mp (by decide)
  have planned := Operation.Planned.get formed (.ofString _)
  obtain ⟨request, _, isSent⟩ :=
    (atAdmin_usual "my-project").sends named rfl planned (by decide) (by decide +kernel)
  constructor
  · obtain ⟨value, read, tested⟩ := exists_value_of_any (answerOf "[]").body
      (fun value => value.kind = "list" && !value.isTruthy) (by decide +kernel)
    simp only [Bool.and_eq_true, decide_eq_true_eq, Bool.not_eq_true'] at tested
    obtain ⟨_, empty, _⟩ :=
      answer_is_taken_iff_expected_or_absent (isSent ⟨[.response (answerOf "[]")]⟩) rfl
        (by decide) read
    exact ⟨value, read, tested.1, empty tested.2⟩
  · obtain ⟨value, read, tested⟩ := exists_value_of_any (answerOf "[0]").body
      (fun value => value.kind = "list" && value.isTruthy) (by decide +kernel)
    simp only [Bool.and_eq_true, decide_eq_true_eq] at tested
    obtain ⟨_, _, refused⟩ :=
      answer_is_taken_iff_expected_or_absent (isSent ⟨[.response (answerOf "[0]")]⟩) rfl
        (by decide) read
    apply refused
    intro taken
    cases taken with
    | inl expected => exact absurd (tested.1.symm.trans expected.kind_eq) (by decide)
    | inr absent => exact absurd (tested.2.symm.trans absent) (by decide)

end Client

end SamlAdmin
