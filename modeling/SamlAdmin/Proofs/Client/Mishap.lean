import SamlAdmin.Proofs.Client.Project
import SamlAdmin.Proofs.Transport.Answers
import SamlAdmin.Proofs.Url.Refused

/-!
# Mishaps on the way

Where a request gets no response, the network layer says so in one of two ways: the request was
not delivered, or it was made in the wrong way.  Only the first is reported as a failure of the
transport; the second reaches the caller as it is, and the check of an address belongs to it.

Arguments that pass every check can still lead to an address that is refused: a project ID with a
control, and a project ID, the ID of a configuration or the token of a page that is too long.
-/

namespace SamlAdmin

/-- What the network layer has to say of a request that gets no response. -/
inductive Mishap where
  | undelivered (kind : DeliveryKind) (message : Text)
  | misused (kind : MisuseKind) (message : Text)
  deriving DecidableEq

def Mishap.isOfDelivery : Mishap → Bool
  | .undelivered _ _ => true
  | .misused _ _ => false

/-- The mishap that a reply is, if it is no response. -/
def Reply.mishap? : Reply → Option Mishap
  | .response _ => none
  | .undelivered kind message => some (.undelivered kind message)
  | .misused kind message => some (.misused kind message)

namespace Transport

namespace Fault

/-- The mishap that is the cause of a fault, where the fault is a failure of the transport. -/
def cause? : Fault → Option Mishap
  | .undelivered _ kind message => some (.undelivered kind message)
  | .undecodable _ => none
  | .unprepared _ => none
  | .misused _ _ => none
  | .server _ => none
  | .code _ => none
  | .unreadable _ => none

/-- The mishap that a fault is, where it reaches the caller as it is. -/
def mishap? : Fault → Option Mishap
  | .unprepared (.target fault) =>
    if fault.isOfAddress then some (.misused .invalidUrl fault.message) else none
  | .unprepared _ => none
  | .misused kind message => some (.misused kind message)
  | .undelivered _ _ _ => none
  | .undecodable _ => none
  | .server _ => none
  | .code _ => none
  | .unreadable _ => none

variable {mishap : Mishap}

/-- What is wrong with a request that is not sent is a mishap only where it is the address. -/
theorem mishap?_unprepared_iff {refusal : Request.Fault} :
    mishap? (.unprepared refusal) = some mishap ↔
      ∃ cause, refusal = .target cause ∧ cause.isOfAddress = true ∧
        mishap = .misused .invalidUrl cause.message := by
  cases refusal with
  | target cause =>
      cases ofAddress : cause.isOfAddress with
      | true =>
          rw [mishap?, if_pos ofAddress, Option.some.injEq]
          constructor
          · rintro rfl
            exact ⟨cause, rfl, ofAddress, rfl⟩
          · rintro ⟨other, same, _, rfl⟩
            cases same
            rfl
      | false => simp [mishap?, ofAddress]
  | header _ => simp [mishap?]
  | parameter _ => simp [mishap?]
  | body _ => simp [mishap?]
  | bodyText _ => simp [mishap?]

end Fault

variable {codecs : Codecs} {method heading : Text} {mishap : Mishap}

theorem no_mishap_of_response {response : Response} {fault : Fault}
    (failed : (conclude codecs method heading (.response response)).1 = .error fault) :
    fault.cause? = none ∧ fault.mishap? = none := by
  cases success : Status.isSuccess response.status with
  | true =>
      simp only [conclude, success, if_true] at failed
      obtain ⟨_, cause, _, rfl⟩ := bodyOf_eq_error_iff.mp failed
      exact ⟨rfl, rfl⟩
  | false =>
      rw [conclude_of_failure success] at failed
      obtain rfl := Except.error.inj failed
      rcases faultOf_cases codecs response with ⟨_, error, isError, _⟩ | ⟨_, other⟩
      · rw [isError]
        exact ⟨rfl, rfl⟩
      · rcases other with ⟨fault, isFault⟩ | ⟨reason, isUnreadable⟩
        · rw [isFault]
          exact ⟨rfl, rfl⟩
        · rw [isUnreadable]
          exact ⟨rfl, rfl⟩

/-- A mishap becomes the cause of a fault if it is one of delivery. -/
theorem conclude_cause?_iff {reply : Reply} :
    (∃ fault, (conclude codecs method heading reply).1 = .error fault ∧ fault.cause? = some mishap) ↔
      reply.mishap? = some mishap ∧ mishap.isOfDelivery = true := by
  cases reply with
  | response response =>
      constructor
      · rintro ⟨fault, failed, isCause⟩
        cases (no_mishap_of_response failed).1.symm.trans isCause
      · rintro ⟨noMishap, _⟩
        cases noMishap
  | undelivered kind message =>
      cases mishap <;> simp [conclude, Fault.cause?, Reply.mishap?, Mishap.isOfDelivery]
  | misused kind message =>
      cases mishap <;> simp [conclude, Fault.cause?, Reply.mishap?, Mishap.isOfDelivery]

theorem conclude_mishap?_iff {reply : Reply} :
    (∃ fault, (conclude codecs method heading reply).1 = .error fault ∧ fault.mishap? = some mishap) ↔
      reply.mishap? = some mishap ∧ mishap.isOfDelivery = false := by
  cases reply with
  | response response =>
      constructor
      · rintro ⟨fault, failed, isMishap⟩
        cases (no_mishap_of_response failed).2.symm.trans isMishap
      · rintro ⟨noMishap, _⟩
        cases noMishap
  | undelivered kind message =>
      cases mishap <;> simp [conclude, Fault.mishap?, Reply.mishap?, Mishap.isOfDelivery]
  | misused kind message =>
      cases mishap <;> simp [conclude, Fault.mishap?, Reply.mishap?, Mishap.isOfDelivery]

end Transport

/-- Whether an answer reports a mishap as the cause of a failure of the transport. -/
def Answer.Wraps (answer : Answer) (mishap : Mishap) : Prop :=
  ∃ fault, answer.outcome = .error (.transport fault) ∧ fault.cause? = some mishap

/-- Whether an answer is a mishap as it is. -/
def Answer.LetsThrough (answer : Answer) (mishap : Mishap) : Prop :=
  ∃ fault, answer.outcome = .error (.transport fault) ∧ fault.mishap? = some mishap

/-! ## Addresses that are refused -/

namespace Request

variable {address : Text} {call : Call} {headers : Headers} {fault : Target.Fault}

/-- Parameters are refused with the address where they can be written and not be put in place. -/
theorem withParameters_eq_target_iff {parameters : Option (List (Text × Value))} {plain : Target}
    (filled : ∀ members ∈ parameters, members ≠ []) :
    withParameters parameters plain = .error (.target fault) ↔
      ∃ members, parameters = some members ∧ Form.fault? (Form.pairs members) = none ∧
        plain.withQuery (some (Form.encode (Form.pairs members))) = .error fault := by
  cases parameters with
  | none => simp [withParameters]
  | some members =>
      have nonempty : members.isEmpty = false := by simpa using filled members rfl
      simp only [withParameters, queryOf, nonempty, Bool.false_eq_true, if_false]
      cases refused : Form.fault? (Form.pairs members) with
      | some unencodable => simp [refused]
      | none => simp [refused, mapError_eq_error_iff]

theorem bodyText_ne_target (body : Value) : bodyText body ≠ .error (.target fault) := by
  intro refused
  unfold bodyText at refused
  split at refused
  · cases refused
  · split at refused
    · cases refused
    · split at refused
      · cases refused
      · cases refused

/-- A call is refused with its address where the address is read, and where the parameters are
put in place. -/
theorem prepare_eq_target_iff :
    prepare address call headers = .error (.target fault) ↔
      Target.parse address = .error fault ∨
      ∃ plain, Target.parse address = .ok plain ∧ headers.check = .ok () ∧
        withParameters call.parameters plain = .error (.target fault) := by
  rw [prepare]
  cases parsed : Target.parse address with
  | error other => simp
  | ok plain =>
      cases checked : headers.check with
      | error other => simp
      | ok checkedAll =>
          cases placed : withParameters call.parameters plain with
          | error other => simp [placed]
          | ok target =>
              cases written : bodyText call.body with
              | error other =>
                  have noTarget : other ≠ .target fault := fun same =>
                    bodyText_ne_target call.body (same ▸ written)
                  simp [placed, noTarget]
              | ok body => simp [placed]

end Request

namespace Client

variable {project : Text} {client : Client} {operation : Operation} {plan : Plan}
  {server : Server}

/-- The address of a planned request in a project, at the admin endpoint. -/
def addressOf (project : Text) (plan : Plan) : Text :=
  Target.adminOrigin ++ (projectsPath ++ (project ++ plan.path))

/-- What keeps a planned request in a project from having an address at the admin endpoint: the
whole is too long, or the project holds a control.  Where there are parameters, a part in its
final spelling may be too long as well. -/
inductive Unaddressable (project : Text) (headers : Headers) (plan : Plan) : Prop where
  | tooLong (long : Target.longest < (addressOf project plan).length)
  | control {point : CodePoint} (member : point ∈ project)
      (isControl : Target.isControl point = true)
  | partTooLong {plain : Target} {members : List (Text × Value)}
      (isRead : Target.parse (addressOf project plan) = .ok plain)
      (checked : headers.check = .ok ()) (given : plan.parameters = some members)
      (writable : Form.fault? (Form.pairs members) = none)
      (long : Target.longest < plain.path.length ∨
        Target.longest < (Form.encode (Form.pairs members)).length ∨
        Target.longest < (plain.fragment.getD []).length)

/-- Of an address only the project can hold a control. -/
theorem mem_project_of_isControl (planned : operation.Planned plan) {point : CodePoint}
    (member : point ∈ addressOf project plan) (isControl : Target.isControl point = true) :
    point ∈ project := by
  have inOrigin : ∀ point ∈ Target.adminOrigin, Target.isControl point = false := by decide
  have inParents : ∀ point ∈ projectsPath, Target.isControl point = false := by decide
  have inPath : ∀ point ∈ plan.path, Target.isControl point = false := fun point member =>
    Target.isControl_of_isPrintableExcept (planned.isPathSign point member)
  simp only [addressOf, List.mem_append] at member
  rcases member with member | member | member | member
  · cases isControl.symm.trans (inOrigin point member)
  · cases isControl.symm.trans (inParents point member)
  · exact member
  · cases isControl.symm.trans (inPath point member)

/-- The address of a planned request is read unless it is too long or the project holds a
control. -/
theorem parse_addressOf_refused_iff (planned : operation.Planned plan) :
    (∃ fault, Target.parse (addressOf project plan) = .error fault ∧ fault.isOfAddress = true) ↔
      Target.longest < (addressOf project plan).length ∨
        ∃ point ∈ project, Target.isControl point = true := by
  have refused : (∃ fault, Target.parse (addressOf project plan) = .error fault ∧ _) ↔ _ :=
    Target.parse_refused_iff (by decide) (by decide) (by decide) (project ++ plan.path)
  refine refused.trans (or_congr_right ?_)
  constructor
  · rintro ⟨point, member, isControl⟩
    exact ⟨point, mem_project_of_isControl planned member isControl, isControl⟩
  · rintro ⟨point, member, isControl⟩
    have inAddress : point ∈ addressOf project plan :=
      List.mem_append_right _ (List.mem_append_right _ (List.mem_append_left _ member))
    exact ⟨point, inAddress, isControl⟩

/-- Parameters are put in place in such an address unless they or the parts beside them are too
long. -/
theorem withQuery_addressOf_refused_iff {plain : Target}
    (isRead : Target.parse (addressOf project plan) = .ok plain) (members : List (Text × Value)) :
    (∃ fault, plain.withQuery (some (Form.encode (Form.pairs members))) = .error fault ∧
        fault.isOfAddress = true) ↔
      Target.longest < plain.path.length ∨
        Target.longest < (Form.encode (Form.pairs members)).length ∨
        Target.longest < (plain.fragment.getD []).length :=
  Target.withQuery_refused_iff (by decide) (by decide) (by decide) isRead fun _ member =>
    Form.isQuerySign_of_mem_encode member

/-- The address of a planned request is refused exactly where one of these things keeps the
request from having one. -/
theorem AtAdmin.calls_refused_iff (admin : AtAdmin project client)
    (planned : operation.Planned plan) :
    (∃ fault, client.calls plan = .error (.target fault) ∧ fault.isOfAddress = true) ↔
      Unaddressable project client.transport.headers plan := by
  have called : client.calls plan = Request.prepare (addressOf project plan)
      (callOf client.projectId plan) client.transport.headers := by
    rw [calls, Transport.prepared, admin.address]
    rfl
  simp only [called, Request.prepare_eq_target_iff]
  constructor
  · rintro ⟨fault, unread | ⟨plain, isRead, checked, unplaced⟩, ofAddress⟩
    · rcases (parse_addressOf_refused_iff planned).mp ⟨fault, unread, ofAddress⟩ with
        long | ⟨point, member, isControl⟩
      · exact .tooLong long
      · exact .control member isControl
    · obtain ⟨members, given, writable, refused⟩ :=
        (Request.withParameters_eq_target_iff planned.parameters_ne_nil).mp unplaced
      exact .partTooLong isRead checked given writable
        ((withQuery_addressOf_refused_iff isRead members).mp ⟨fault, refused, ofAddress⟩)
  · intro unaddressable
    cases unaddressable with
    | tooLong long =>
        obtain ⟨fault, unread, ofAddress⟩ :=
          (parse_addressOf_refused_iff planned).mpr (Or.inl long)
        exact ⟨fault, Or.inl unread, ofAddress⟩
    | control member isControl =>
        obtain ⟨fault, unread, ofAddress⟩ :=
          (parse_addressOf_refused_iff planned).mpr (Or.inr ⟨_, member, isControl⟩)
        exact ⟨fault, Or.inl unread, ofAddress⟩
    | partTooLong isRead checked given writable long =>
        obtain ⟨fault, refused, ofAddress⟩ :=
          (withQuery_addressOf_refused_iff isRead _).mpr long
        have unplaced := (Request.withParameters_eq_target_iff planned.parameters_ne_nil).mpr
          ⟨_, given, writable, refused⟩
        exact ⟨fault, Or.inr ⟨_, isRead, checked, unplaced⟩, ofAddress⟩

/-! ## What the caller sees -/

/-- The mishaps that an operation can meet once it is planned: its address is refused, or its
request is sent and gets no response. -/
inductive Meets (operation : Operation) (client : Client) (server : Server) : Mishap → Prop where
  | unaddressed {plan : Plan} {fault : Target.Fault} (planned : operation.Planned plan)
      (refused : client.calls plan = .error (.target fault))
      (ofAddress : fault.isOfAddress = true) :
      Meets operation client server (.misused .invalidUrl fault.message)
  | unanswered {plan : Plan} {request : Request} {mishap : Mishap}
      (planned : operation.Planned plan) (ready : client.calls plan = .ok request)
      (replied : (server.answer.1.taken request.target).mishap? = some mishap) :
      Meets operation client server mishap

variable {mishap : Mishap} {request : Request}

theorem verdict_cause?_iff :
    (∃ fault, (client.verdict plan request server).1 = .error fault ∧ fault.cause? = some mishap) ↔
      (server.answer.1.taken request.target).mishap? = some mishap ∧ mishap.isOfDelivery = true :=
  Transport.conclude_cause?_iff

theorem verdict_mishap?_iff :
    (∃ fault, (client.verdict plan request server).1 = .error fault ∧
        fault.mishap? = some mishap) ↔
      (server.answer.1.taken request.target).mishap? = some mishap ∧ mishap.isOfDelivery = false :=
  Transport.conclude_mishap?_iff

theorem wraps_iff (present : client.projectId.isTruthy = true) :
    (client.perform operation server).1.Wraps mishap ↔
      Meets operation client server mishap ∧ mishap.isOfDelivery = true := by
  constructor
  · rintro ⟨fault, failed, isCause⟩
    obtain ⟨_, plan, planned, ⟨refusal, _, rfl⟩ | ⟨request, ready, concluded⟩⟩ :=
      outcome_eq_transport_iff.mp failed
    · cases isCause
    · obtain ⟨replied, ofDelivery⟩ :=
        verdict_cause?_iff.mp ⟨fault, concluded, isCause⟩
      exact ⟨.unanswered planned ready replied, ofDelivery⟩
  · rintro ⟨meets, ofDelivery⟩
    cases meets with
    | unaddressed _ _ _ => cases ofDelivery
    | unanswered planned ready replied =>
        obtain ⟨fault, concluded, isCause⟩ :=
          verdict_cause?_iff.mpr ⟨replied, ofDelivery⟩
        exact ⟨fault, outcome_eq_transport_iff.mpr
          ⟨present, _, planned, Or.inr ⟨_, ready, concluded⟩⟩, isCause⟩

theorem letsThrough_iff (present : client.projectId.isTruthy = true) :
    (client.perform operation server).1.LetsThrough mishap ↔
      Meets operation client server mishap ∧ mishap.isOfDelivery = false := by
  constructor
  · rintro ⟨fault, failed, isMishap⟩
    obtain ⟨_, plan, planned, ⟨refusal, refused, rfl⟩ | ⟨request, ready, concluded⟩⟩ :=
      outcome_eq_transport_iff.mp failed
    · obtain ⟨cause, rfl, ofAddress, rfl⟩ :=
        Transport.Fault.mishap?_unprepared_iff.mp isMishap
      exact ⟨.unaddressed planned refused ofAddress, rfl⟩
    · obtain ⟨replied, notOfDelivery⟩ :=
        verdict_mishap?_iff.mp ⟨fault, concluded, isMishap⟩
      exact ⟨.unanswered planned ready replied, notOfDelivery⟩
  · rintro ⟨meets, notOfDelivery⟩
    cases meets with
    | unaddressed planned refused ofAddress =>
        have isMishap := Transport.Fault.mishap?_unprepared_iff.mpr ⟨_, rfl, ofAddress, rfl⟩
        exact ⟨_, outcome_eq_transport_iff.mpr
          ⟨present, _, planned, Or.inl ⟨_, refused, rfl⟩⟩, isMishap⟩
    | unanswered planned ready replied =>
        obtain ⟨fault, concluded, isMishap⟩ :=
          verdict_mishap?_iff.mpr ⟨replied, notOfDelivery⟩
        exact ⟨fault, outcome_eq_transport_iff.mpr
          ⟨present, _, planned, Or.inr ⟨_, ready, concluded⟩⟩, isMishap⟩

/-- A mishap is let through before anything is sent exactly where the request has no address. -/
theorem AtAdmin.letsThrough_unsent_iff (admin : AtAdmin project client) (filled : project ≠ []) :
    ((client.perform operation server).1.sent = none ∧
        ∃ mishap, (client.perform operation server).1.LetsThrough mishap) ↔
      ∃ plan, operation.Planned plan ∧
        Unaddressable project client.transport.headers plan := by
  have present : client.projectId.isTruthy = true := by
    rw [admin.project]
    exact Value.isTruthy_str_iff.mpr filled
  constructor
  · rintro ⟨notSent, mishap, letsThrough⟩
    obtain ⟨meets, _⟩ := (letsThrough_iff present).mp letsThrough
    cases meets with
    | unaddressed planned refused ofAddress =>
        exact ⟨_, planned, (admin.calls_refused_iff planned).mp ⟨_, refused, ofAddress⟩⟩
    | unanswered planned ready _ =>
        rw [sent_perform_eq_some_iff.mpr ⟨_, planned, present, ready⟩] at notSent
        cases notSent
  · rintro ⟨plan, planned, unaddressable⟩
    obtain ⟨fault, refused, ofAddress⟩ := (admin.calls_refused_iff planned).mpr unaddressable
    have course := perform_course operation client server
    refine ⟨?_, _, (letsThrough_iff present).mpr ⟨.unaddressed planned refused ofAddress, rfl⟩⟩
    rw [course.answer_of_error planned present refused]

/-- The mishaps that the operations of a project meet are the ones that are seen.  A mishap of
delivery is reported as the cause of a failure of the transport, and every other one reaches the
caller as it is.  At the admin endpoint this happens before anything is sent exactly where the
planned request has no address. -/
theorem mishap_is_wrapped_iff_of_delivery (isProject : client.projectId = .str project)
    (filled : project ≠ []) (operation : Operation) (server : Server) :
    (∀ mishap,
      ((client.perform operation server).1.Wraps mishap ↔
        Meets operation client server mishap ∧ mishap.isOfDelivery = true) ∧
      ((client.perform operation server).1.LetsThrough mishap ↔
        Meets operation client server mishap ∧ mishap.isOfDelivery = false)) ∧
    (client.transport.endpoint = Target.adminOrigin ++ adminPath →
      (((client.perform operation server).1.sent = none ∧
          ∃ mishap, (client.perform operation server).1.LetsThrough mishap) ↔
        ∃ plan, operation.Planned plan ∧
          Unaddressable project client.transport.headers plan)) := by
  have present : client.projectId.isTruthy = true := by
    rw [isProject]
    exact Value.isTruthy_str_iff.mpr filled
  refine ⟨fun mishap => ⟨wraps_iff present, letsThrough_iff present⟩, ?_⟩
  intro endpoint
  exact AtAdmin.letsThrough_unsent_iff ⟨endpoint, isProject⟩ filled

/-- A project ID with a line break at its end has no address, and this is not reported as a failure
of the transport.  A connection that is refused is. -/
theorem control_in_project_is_not_wrapped :
    (((usual "my-project\n").perform (.get (.str "saml.okta")) ⟨[]⟩).1.sent = none ∧
      ∃ mishap, ((usual "my-project\n").perform (.get (.str "saml.okta")) ⟨[]⟩).1.LetsThrough
        mishap) ∧
      ((usual "my-project").perform (.get (.str "saml.okta"))
        ⟨[.undelivered .connect "refused"]⟩).1.Wraps (.undelivered .connect "refused") := by
  have formed : ProviderId.WellFormed ("saml.okta" : Text) :=
    ProviderId.isValid_iff.mp (by decide)
  have planned := Operation.Planned.get formed (.ofString _)
  constructor
  · have project : (usual "my-project\n").projectId = .str "my-project\n" := rfl
    obtain ⟨_, letsThrough⟩ :=
      mishap_is_wrapped_iff_of_delivery project (by decide) (.get (.str "saml.okta")) ⟨[]⟩
    refine (letsThrough (atAdmin_usual _).endpoint).mpr ⟨_, planned, ?_⟩
    have member : (.char '\n' : CodePoint) ∈ ("my-project\n" : Text) := by decide
    exact .control member (by decide)
  · have project : (usual "my-project").projectId = .str "my-project" := rfl
    have named : IsProjectName ("my-project" : Text) := by decide
    obtain ⟨request, ready, _⟩ :=
      (atAdmin_usual "my-project").exists_sent named rfl planned (by decide) (by decide +kernel)
    obtain ⟨seen, _⟩ :=
      mishap_is_wrapped_iff_of_delivery project (by decide) (.get (.str "saml.okta"))
        ⟨[.undelivered .connect "refused"]⟩
    exact (seen _).1.mpr ⟨.unanswered planned ready rfl, rfl⟩

end Client

end SamlAdmin
