import SamlAdmin.Proofs.Client.Plan
import SamlAdmin.Proofs.Transport.Call

/-!
# The course of an operation

An operation ends in one of four ways: its arguments are refused, there is no project,
its call cannot be prepared, or its call is sent and answered.  `Client.Course` says for
each of them what is answered and what is left of the client and the server.
-/

namespace SamlAdmin.Client

/-- The call that a client makes of a plan. -/
def calls (client : Client) (plan : Plan) : Except Request.Fault Request :=
  Transport.prepared (callOf client.projectId plan) client.transport

/-- What the transport makes of the reply to a planned request. -/
def verdict (client : Client) (plan : Plan) (request : Request) (server : Server) :
    Except Transport.Fault (Option Value) × List LogRecord :=
  Transport.verdict (callOf client.projectId plan) client.transport request server

/-- The answer of an operation to what the transport made of a reply. -/
def answered (operation : Operation) (plan : Plan) (request : Request) (announced : LogRecord)
    (concluded : Except Transport.Fault (Option Value) × List LogRecord) : Answer where
  outcome := match concluded.1 with
    | .error fault => .error (.transport fault)
    | .ok body => operation.conclude body
  sent := some request
  log := match concluded.1 with
    | .error _ => announced :: concluded.2
    | .ok _ => announced :: concluded.2 ++ plan.notice.toList.map record

/-- The ways in which an operation ends. -/
inductive Course (operation : Operation) (client : Client) (server : Server) :
    Answer → Client → Server → Prop where
  | refused {fault : ArgumentFault} (refused : operation.plan = .error fault) :
      Course operation client server { outcome := .error (.argument fault) } client server
  | withoutProject {plan : Plan} (planned : operation.Planned plan)
      (missing : client.projectId.isTruthy = false) :
      Course operation client server { outcome := .error .noProject } client server
  | unprepared {plan : Plan} {fault : Request.Fault} (planned : operation.Planned plan)
      (present : client.projectId.isTruthy = true) (refused : client.calls plan = .error fault) :
      Course operation client server {
          outcome := .error (.transport (.unprepared fault))
          log := [Transport.announcement (callOf client.projectId plan) client.transport] }
        { client with transport := client.transport.acquired } server
  | sent {plan : Plan} {request : Request} (planned : operation.Planned plan)
      (present : client.projectId.isTruthy = true) (ready : client.calls plan = .ok request) :
      Course operation client server
        (answered operation plan request
          (Transport.announcement (callOf client.projectId plan) client.transport)
          (client.verdict plan request server))
        { client with transport := client.transport.acquired } server.answer.2

/-- Every operation takes one of these courses. -/
theorem perform_course (operation : Operation) (client : Client) (server : Server) :
    Course operation client server (client.perform operation server).1
      (client.perform operation server).2.1 (client.perform operation server).2.2 := by
  cases planned : operation.plan with
  | error fault =>
      rw [perform, planned]
      exact .refused planned
  | ok plan =>
      have isPlanned := Operation.plan_eq_ok_iff.mp planned
      cases present : client.projectId.isTruthy with
      | false =>
          rw [perform, planned]
          simp only [present]
          exact .withoutProject isPlanned present
      | true =>
          cases ready : client.calls plan with
          | error fault =>
              have course : Course operation client server _ _ _ :=
                .unprepared isPlanned present ready
              rw [perform, planned]
              simp only [present, Transport.request_of_error ready]
              exact course
          | ok request =>
              have course : Course operation client server _ _ _ := .sent isPlanned present ready
              rw [perform, planned]
              simp only [present, Transport.request_of_ok ready]
              cases concluded : (Transport.verdict (callOf client.projectId plan) client.transport
                  request server).1 with
              | error fault =>
                  simp only [answered, verdict, concluded] at course
                  simp only [Bool.not_true, Bool.false_eq_true, if_false]
                  exact course
              | ok body =>
                  simp only [answered, verdict, concluded] at course
                  simp only [Bool.not_true, Bool.false_eq_true, if_false]
                  exact course

variable {operation : Operation} {client : Client} {server : Server} {plan : Plan}
  {request : Request}

/-! ## Faults before and after a request -/

/-- Whether a fault is found before anything is sent: in an argument, or for want of a
project. -/
def Fault.isLocal : Fault → Bool
  | .argument _ => true
  | .noProject => true
  | .transport _ => false
  | .unexpectedConfig _ => false
  | .unexpectedList _ => false

/-- What can be wrong with the body of an answer is that it is no configuration or no page. -/
theorem fault_of_conclude {body : Option Value} {fault : Fault}
    (failed : operation.conclude body = .error fault) :
    ∃ refused, fault = .unexpectedConfig refused ∨ fault = .unexpectedList refused := by
  have config : Operation.readConfig body = .error fault →
      ∃ refused, fault = .unexpectedConfig refused ∨ fault = .unexpectedList refused := by
    intro unread
    rw [Operation.readConfig] at unread
    cases read : Resource.ofBody (Operation.presentBody body) with
    | ok resource =>
        rw [read] at unread
        cases unread
    | error refused =>
        rw [read] at unread
        cases unread
        exact ⟨refused, Or.inl rfl⟩
  cases operation with
  | get id => exact config failed
  | create draft => exact config failed
  | update id draft => exact config failed
  | delete id => cases failed
  | list token size =>
      rw [Operation.conclude, Operation.readPage] at failed
      cases read : ResourceList.ofBody (Operation.presentBody body) with
      | ok resources =>
          rw [read] at failed
          cases failed
      | error refused =>
          rw [read] at failed
          cases failed
          exact ⟨refused, Or.inr rfl⟩

theorem isLocal_of_conclude {body : Option Value} {fault : Fault}
    (failed : operation.conclude body = .error fault) : fault.isLocal = false := by
  obtain ⟨refused, rfl | rfl⟩ := fault_of_conclude failed
  · rfl
  · rfl

theorem isLocal_of_answered {plan : Plan} {request : Request} {announced : LogRecord}
    {concluded : Except Transport.Fault (Option Value) × List LogRecord} {fault : Fault}
    (failed : (answered operation plan request announced concluded).outcome = .error fault) :
    fault.isLocal = false := by
  rw [answered] at failed
  cases ended : concluded.1 with
  | error other =>
      simp only [ended] at failed
      cases failed
      rfl
  | ok body =>
      simp only [ended] at failed
      exact isLocal_of_conclude failed

/-- A fault of the transport that comes after a request is what the transport made of the reply. -/
theorem answered_outcome_eq_transport_iff {announced : LogRecord}
    {concluded : Except Transport.Fault (Option Value) × List LogRecord} {fault : Transport.Fault} :
    (answered operation plan request announced concluded).outcome = .error (.transport fault) ↔
      concluded.1 = .error fault := by
  rw [answered]
  cases concluded.1 with
  | error other => simp
  | ok body =>
      refine iff_of_false ?_ (by simp)
      intro failed
      obtain ⟨refused, same | same⟩ := fault_of_conclude failed
      · cases same
      · cases same

/-! ## What a course tells -/

namespace Course

variable {answer : Answer} {after : Client} {serverAfter : Server}

/-- What is sent is a planned request that could be prepared. -/
theorem exists_plan (course : Course operation client server answer after serverAfter)
    (isSent : answer.sent = some request) :
    ∃ plan, operation.Planned plan ∧ client.projectId.isTruthy = true ∧
      client.calls plan = .ok request := by
  cases course with
  | refused _ => cases isSent
  | withoutProject _ _ => cases isSent
  | unprepared _ _ _ => cases isSent
  | sent planned present ready =>
      cases isSent
      exact ⟨_, planned, present, ready⟩

/-- Where there is a project, a planned request is either refused when it is prepared or sent. -/
theorem answer_of_planned (course : Course operation client server answer after serverAfter)
    (planned : operation.Planned plan) (present : client.projectId.isTruthy = true) :
    (∃ fault, client.calls plan = .error fault ∧ answer = {
        outcome := .error (.transport (.unprepared fault))
        log := [Transport.announcement (callOf client.projectId plan) client.transport] }) ∨
      ∃ request, client.calls plan = .ok request ∧ answer = answered operation plan request
        (Transport.announcement (callOf client.projectId plan) client.transport)
        (client.verdict plan request server) := by
  have isPlan := Operation.plan_eq_ok_iff.mpr planned
  cases course with
  | refused refused =>
      rw [refused] at isPlan
      cases isPlan
  | withoutProject _ missing =>
      rw [missing] at present
      cases present
  | unprepared otherPlanned _ refused =>
      rw [Operation.plan_eq_ok_iff.mpr otherPlanned] at isPlan
      cases isPlan
      exact Or.inl ⟨_, refused, rfl⟩
  | sent otherPlanned _ ready =>
      rw [Operation.plan_eq_ok_iff.mpr otherPlanned] at isPlan
      cases isPlan
      exact Or.inr ⟨_, ready, rfl⟩

/-- A planned request that cannot be prepared ends with the fault of its preparation. -/
theorem answer_of_error (course : Course operation client server answer after serverAfter)
    (planned : operation.Planned plan) (present : client.projectId.isTruthy = true)
    {fault : Request.Fault} (refused : client.calls plan = .error fault) :
    answer = {
      outcome := .error (.transport (.unprepared fault))
      log := [Transport.announcement (callOf client.projectId plan) client.transport] } := by
  rcases course.answer_of_planned planned present with ⟨other, same, ended⟩ | ⟨_, ready, _⟩
  · rw [refused] at same
    cases same
    exact ended
  · rw [refused] at ready
    cases ready

/-- A planned request that can be prepared is sent and ends with what comes back. -/
theorem answer_of_ok (course : Course operation client server answer after serverAfter)
    (planned : operation.Planned plan) (present : client.projectId.isTruthy = true)
    (ready : client.calls plan = .ok request) :
    answer = answered operation plan request
      (Transport.announcement (callOf client.projectId plan) client.transport)
      (client.verdict plan request server) := by
  rcases course.answer_of_planned planned present with ⟨_, refused, _⟩ | ⟨other, same, ended⟩
  · rw [ready] at refused
    cases refused
  · rw [ready] at same
    cases same
    exact ended

theorem sent_eq_some (course : Course operation client server answer after serverAfter)
    (planned : operation.Planned plan) (present : client.projectId.isTruthy = true)
    (ready : client.calls plan = .ok request) : answer.sent = some request := by
  rw [course.answer_of_ok planned present ready]
  rfl

/-- What is sent takes one answer of the server, and the client then holds a channel. -/
theorem after_of_sent (course : Course operation client server answer after serverAfter)
    (isSent : answer.sent = some request) :
    after = { client with transport := client.transport.acquired } ∧
      serverAfter = server.answer.2 := by
  cases course with
  | refused _ => cases isSent
  | withoutProject _ _ => cases isSent
  | unprepared _ _ _ => cases isSent
  | sent _ _ _ => exact ⟨rfl, rfl⟩

theorem sent_eq_none (course : Course operation client server answer after serverAfter)
    {fault : Fault} (failed : answer.outcome = .error fault) (found : fault.isLocal = true) :
    answer.sent = none := by
  cases course with
  | refused _ => rfl
  | withoutProject _ _ => rfl
  | unprepared _ _ _ => rfl
  | sent _ _ _ =>
      rw [isLocal_of_answered failed] at found
      cases found

/-- A local fault leaves the client and the server as they were. -/
theorem after_of_isLocal (course : Course operation client server answer after serverAfter)
    {fault : Fault} (failed : answer.outcome = .error fault) (found : fault.isLocal = true) :
    after = client ∧ serverAfter = server := by
  cases course with
  | refused _ => exact ⟨rfl, rfl⟩
  | withoutProject _ _ => exact ⟨rfl, rfl⟩
  | unprepared _ _ _ =>
      cases failed
      cases found
  | sent _ _ _ =>
      rw [isLocal_of_answered failed] at found
      cases found

theorem failed_of_not_sent (course : Course operation client server answer after serverAfter)
    (notSent : answer.sent = none) : ∃ fault, answer.outcome = .error fault := by
  cases course with
  | refused _ => exact ⟨_, rfl⟩
  | withoutProject _ _ => exact ⟨_, rfl⟩
  | unprepared _ _ _ => exact ⟨_, rfl⟩
  | sent _ _ _ => cases notSent

theorem plan_eq_error (course : Course operation client server answer after serverAfter)
    {fault : ArgumentFault} (failed : answer.outcome = .error (.argument fault)) :
    operation.plan = .error fault := by
  cases course with
  | refused refused =>
      cases failed
      exact refused
  | withoutProject _ _ => cases failed
  | unprepared _ _ _ => cases failed
  | sent _ _ _ => cases isLocal_of_answered failed

/-- Where a project is missing, the operation is planned. -/
theorem planned_of_noProject (course : Course operation client server answer after serverAfter)
    (failed : answer.outcome = .error .noProject) :
    (∃ plan, operation.Planned plan) ∧ client.projectId.isTruthy = false := by
  cases course with
  | refused _ => cases failed
  | withoutProject planned missing => exact ⟨⟨_, planned⟩, missing⟩
  | unprepared _ _ _ => cases failed
  | sent _ _ _ => cases isLocal_of_answered failed

/-- A fault of the transport comes from a planned request: from its preparation, or from what comes
back for it. -/
theorem exists_of_transport (course : Course operation client server answer after serverAfter)
    {fault : Transport.Fault} (failed : answer.outcome = .error (.transport fault)) :
    client.projectId.isTruthy = true ∧ ∃ plan, operation.Planned plan ∧
      ((∃ refusal, client.calls plan = .error refusal ∧ fault = .unprepared refusal) ∨
        ∃ request, client.calls plan = .ok request ∧
          (client.verdict plan request server).1 = .error fault) := by
  cases course with
  | refused _ => cases failed
  | withoutProject _ _ => cases failed
  | unprepared planned present refused =>
      cases failed
      exact ⟨present, _, planned, Or.inl ⟨_, refused, rfl⟩⟩
  | sent planned present ready =>
      exact ⟨present, _, planned, Or.inr ⟨_, ready, answered_outcome_eq_transport_iff.mp failed⟩⟩

end Course

theorem sent_perform_eq_some_iff :
    (client.perform operation server).1.sent = some request ↔
      ∃ plan, operation.Planned plan ∧ client.projectId.isTruthy = true ∧
        client.calls plan = .ok request := by
  have course := perform_course operation client server
  constructor
  · exact course.exists_plan
  · rintro ⟨plan, planned, present, ready⟩
    exact course.sent_eq_some planned present ready

theorem outcome_eq_argument_iff {fault : ArgumentFault} :
    (client.perform operation server).1.outcome = .error (.argument fault) ↔
      operation.plan = .error fault := by
  constructor
  · exact (perform_course operation client server).plan_eq_error
  · intro refused
    rw [perform, refused]

/-- A project is what is missing exactly if the operation has a plan and the project
counts as absent. -/
theorem outcome_eq_noProject_iff :
    (client.perform operation server).1.outcome = .error .noProject ↔
      (∃ plan, operation.Planned plan) ∧ client.projectId.isTruthy = false := by
  constructor
  · exact (perform_course operation client server).planned_of_noProject
  · rintro ⟨⟨plan, planned⟩, missing⟩
    rw [perform, Operation.plan_eq_ok_iff.mpr planned]
    simp only [missing, Bool.not_false, if_true]

/-- The transport is what fails exactly if a planned request cannot be prepared, or if it is sent
and the transport makes a fault of what comes back. -/
theorem outcome_eq_transport_iff {fault : Transport.Fault} :
    (client.perform operation server).1.outcome = .error (.transport fault) ↔
      client.projectId.isTruthy = true ∧ ∃ plan, operation.Planned plan ∧
        ((∃ refusal, client.calls plan = .error refusal ∧ fault = .unprepared refusal) ∨
          ∃ request, client.calls plan = .ok request ∧
            (client.verdict plan request server).1 = .error fault) := by
  have course := perform_course operation client server
  constructor
  · exact course.exists_of_transport
  · rintro ⟨present, plan, planned, ⟨refusal, refused, rfl⟩ | ⟨request, ready, concluded⟩⟩
    · rw [course.answer_of_error planned present refused]
    · rw [course.answer_of_ok planned present ready]
      exact answered_outcome_eq_transport_iff.mpr concluded

end SamlAdmin.Client
