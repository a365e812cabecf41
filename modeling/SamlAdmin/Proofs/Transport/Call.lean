import SamlAdmin.Transport

/-!
# What a call sends

A call is prepared in four steps, and what is sent determines the outcome of each.
Once a request is prepared it is sent exactly once: the server gives one answer, and
the transport is left as it was but for the channel that it now holds.
-/

namespace SamlAdmin

theorem Status.isSuccess_iff {status : Nat} :
    Status.isSuccess status = true ↔ 200 ≤ status ∧ status ≤ 299 := by
  simp [Status.isSuccess]

namespace Reply

theorem taken_of_success {response : Response}
    (success : Status.isSuccess response.status = true) (asked : Target) :
    (Reply.response response).taken asked = .response response := by
  have stays : Status.isRedirect response.status = false := by
    simp only [Status.isSuccess, Bool.and_eq_true, decide_eq_true_eq] at success
    simp only [Status.isRedirect, List.contains_eq_mem, List.mem_cons, List.not_mem_nil, or_false,
      decide_eq_false_iff_not]
    omega
  simp only [taken, stays, Bool.false_eq_true, if_false]

theorem eq_of_taken {reply : Reply} {response : Response} {asked : Target}
    (isTaken : reply.taken asked = .response response) : reply = .response response := by
  cases reply with
  | undelivered kind message => cases isTaken
  | misused kind message => cases isTaken
  | response answer =>
      rw [taken] at isTaken
      split at isTaken
      · split at isTaken
        · exact isTaken
        · cases isTaken
        · split at isTaken
          · cases isTaken
          · exact isTaken
      · exact isTaken

end Reply

namespace Request

variable {address : Text} {call : Call} {headers : Headers} {sent : Request}

theorem prepare_eq_ok_iff :
    prepare address call headers = .ok sent ↔
      ∃ plain target body, Target.parse address = .ok plain ∧ headers.check = .ok () ∧
        withParameters call.parameters plain = .ok target ∧ bodyText call.body = .ok body ∧
        sent = {
          method := call.method.upper, target, body
          headers := withCredentials target (withHost target
            (withBodyFields call.method.upper body (headers.withStanding standing))) } := by
  constructor
  · intro prepared
    rw [prepare] at prepared
    cases parsed : Target.parse address with
    | error fault =>
        rw [parsed] at prepared
        cases prepared
    | ok plain =>
        cases checked : headers.check with
        | error fault =>
            rw [parsed, checked] at prepared
            cases prepared
        | ok checkedAll =>
            cases placed : withParameters call.parameters plain with
            | error fault =>
                simp only [parsed, checked, placed] at prepared
                cases prepared
            | ok target =>
                cases written : bodyText call.body with
                | error fault =>
                    simp only [parsed, checked, placed, written] at prepared
                    cases prepared
                | ok body =>
                    simp only [parsed, checked, placed, written, Except.ok.injEq] at prepared
                    exact ⟨plain, target, body, rfl, rfl, placed, rfl, prepared.symm⟩
  · rintro ⟨plain, target, body, parsed, checked, placed, written, rfl⟩
    simp only [prepare, parsed, checked, placed, written]

end Request

namespace Transport

variable {call : Call} {transport : Transport} {sent : Request}

def prepared (call : Call) (transport : Transport) : Except Request.Fault Request :=
  Request.prepare (transport.endpoint ++ call.path) call (transport.headers.merge call.headers)

/-- The method and the address of a call, as records name it. -/
def heading (call : Call) (transport : Transport) : Text :=
  call.method ++ (" " : Text) ++ (transport.endpoint ++ call.path)

def announcement (call : Call) (transport : Transport) : LogRecord :=
  record .debug (heading call transport ++ (" params=" : Text)
    ++ (Value.object (call.parameters.getD [])).literal)

/-- The transport with the channel that a call uses. -/
def acquired (transport : Transport) : Transport :=
  { transport with channels := transport.channels.acquire.2 }

/-- What becomes of the reply to a request that was sent for a call. -/
def verdict (call : Call) (transport : Transport) (sent : Request) (server : Server) :
    Except Fault (Option Value) × List LogRecord :=
  conclude transport.codecs call.method (heading call transport)
    (server.answer.1.taken sent.target)

theorem request_of_error {fault : Request.Fault} (refused : prepared call transport = .error fault)
    (server : Server) :
    transport.request call server =
      ({ outcome := .error (.unprepared fault), sent := none,
         log := [announcement call transport] },
       transport.acquired, server) := by
  rw [prepared] at refused
  simp only [request, refused]
  rfl

/-- A call that can be prepared is sent once, and the answer of the server decides. -/
theorem request_of_ok (ready : prepared call transport = .ok sent) (server : Server) :
    transport.request call server =
      ({ outcome := (verdict call transport sent server).1
         sent := some sent
         log := announcement call transport :: (verdict call transport sent server).2 },
       transport.acquired, server.answer.2) := by
  rw [prepared] at ready
  simp only [request, ready]
  rfl

end Transport

end SamlAdmin
