import SamlAdmin.Proofs.Client.Sending
import SamlAdmin.Proofs.Draft.Setting
import SamlAdmin.Session

/-!
# What a run keeps

A session goes through actions, some of which are calls.  Whatever is done, the client
stays at its endpoint with its headers, no draft gets a key that is not Unicode text, and
the server answers as many times as requests are sent.
-/

namespace SamlAdmin

def Server.afterRequests (server : Server) : Nat → Server
  | 0 => server
  | number + 1 => server.answer.2.afterRequests number

theorem Server.afterRequests_add (server : Server) (first second : Nat) :
    server.afterRequests (first + second) =
      (server.afterRequests first).afterRequests second := by
  induction first generalizing server with
  | zero => rw [Nat.zero_add, afterRequests]
  | succ first ih => rw [Nat.succ_add, afterRequests, afterRequests, ih]

def Outcome.requests (outcome : Outcome) : Nat := outcome.sent.toList.length

/-- What is seen of an operation within a session. -/
def Outcome.ofAnswer (answer : Answer) : Outcome where
  effect := match answer.outcome with
    | .ok result => .result result
    | .error fault => .failed fault
  sent := answer.sent
  log := answer.log

theorem Outcome.ofAnswer_effect_eq_failed_iff {answer : Answer} {fault : Client.Fault} :
    (ofAnswer answer).effect = .failed fault ↔ answer.outcome = .error fault := by
  rw [ofAnswer]
  cases answer.outcome with
  | ok result => simp
  | error other => simp

namespace Session

variable {session : Session} {action : Action} {operation : Operation}

/-- The operation that an action performs, if it is a call whose draft can be filled. -/
def call? (session : Session) : Action → Option Operation
  | .get id => some (.get id)
  | .create source => (session.draftFrom .create source).toOption.map .create
  | .update id source => (session.draftFrom .update source).toOption.map (.update id)
  | .delete id => some (.delete id)
  | .list token size => some (.list token size)
  | .openDraft _ _ => none
  | .set _ _ _ => none
  | .assignProject _ => none
  | .close => none

theorem performOn_of_call? {kind : DraftKind} {source : DraftSource}
    {wrap : Option AnyDraft → Operation}
    (called : (session.draftFrom kind source).toOption.map wrap = some operation) :
    session.performOn kind source wrap = session.perform operation ∧
      ∃ draft, session.draftFrom kind source = .ok draft ∧ operation = wrap draft := by
  cases filled : session.draftFrom kind source with
  | error fault =>
      rw [filled] at called
      cases called
  | ok draft =>
      rw [filled] at called
      cases called
      rw [performOn, filled]
      exact ⟨rfl, draft, rfl, rfl⟩

theorem step_of_call? (called : session.call? action = some operation) :
    session.step action = session.perform operation := by
  cases action with
  | get id =>
      cases called
      rfl
  | create source => exact (performOn_of_call? called).1
  | update id source => exact (performOn_of_call? called).1
  | delete id =>
      cases called
      rfl
  | list token size =>
      cases called
      rfl
  | _ => cases called

theorem perform_eq (session : Session) (operation : Operation) :
    session.perform operation =
      (.ofAnswer (session.client.perform operation session.server).1,
        { session with
          client := (session.client.perform operation session.server).2.1
          server := (session.client.perform operation session.server).2.2 }) := rfl

/-! ## One action -/

/-- What an action leaves as it is, apart from the drafts. -/
structure Settled (before : Session) (outcome : Outcome) (after : Session) : Prop where
  server : after.server = before.server.afterRequests outcome.requests
  endpoint : after.client.transport.endpoint = before.client.transport.endpoint
  headers : after.client.transport.headers = before.client.transport.headers

theorem settled_self {outcome : Outcome} (silent : outcome.sent = none) :
    Settled session outcome session where
  server := by rw [Outcome.requests, silent]; rfl
  endpoint := rfl
  headers := rfl

theorem settled_of_course {answer : Answer} {client : Client} {server : Server}
    (course : Client.Course operation session.client session.server answer client server) :
    Settled session (.ofAnswer answer) { session with client, server } := by
  cases course with
  | refused _ => exact ⟨rfl, rfl, rfl⟩
  | withoutProject _ _ => exact ⟨rfl, rfl, rfl⟩
  | unprepared _ _ _ => exact ⟨rfl, rfl, rfl⟩
  | sent _ _ _ => exact ⟨rfl, rfl, rfl⟩

theorem settled_perform (session : Session) (operation : Operation) :
    Settled session (session.perform operation).1 (session.perform operation).2 :=
  settled_of_course (Client.perform_course operation session.client session.server)

/-- A setter leaves the session as it is, or changes the draft that it names. -/
theorem step_set_cases (session : Session) (name : Text) (setter : Setter) (argument : Value) :
    (∃ effect, session.step (.set name setter argument) = ({ effect }, session)) ∨
      ∃ draft changed, Members.lookup name session.drafts = some draft ∧
        draft.apply setter argument = .ok changed ∧
        session.step (.set name setter argument) =
          ({ effect := .nothing },
            { session with drafts := Members.insert name changed session.drafts }) := by
  rw [step]
  cases found : Members.lookup name session.drafts with
  | none => exact Or.inl ⟨_, rfl⟩
  | some draft =>
      cases made : draft.apply setter argument with
      | error fault =>
          simp only [made]
          exact Or.inl ⟨_, rfl⟩
      | ok changed =>
          simp only [made]
          exact Or.inr ⟨draft, changed, rfl, made, rfl⟩

theorem sent_performOn_of_none {kind : DraftKind} {source : DraftSource}
    {wrap : Option AnyDraft → Operation}
    (idle : (session.draftFrom kind source).toOption.map wrap = none) :
    (session.performOn kind source wrap).1.sent = none := by
  rw [performOn]
  cases filled : session.draftFrom kind source with
  | error fault => rfl
  | ok draft =>
      rw [filled] at idle
      cases idle

theorem sent_of_no_call (idle : session.call? action = none) : (session.step action).1.sent = none := by
  cases action with
  | create source => exact sent_performOn_of_none idle
  | update id source => exact sent_performOn_of_none idle
  | set name setter argument =>
      rcases step_set_cases session name setter argument with
        ⟨effect, same⟩ | ⟨draft, changed, _, _, same⟩
      · rw [same]
      · rw [same]
  | openDraft name kind => rfl
  | assignProject id => rfl
  | close => rfl
  | _ => cases idle

theorem settled_performOn {kind : DraftKind} {source : DraftSource}
    {wrap : Option AnyDraft → Operation} :
    Settled session (session.performOn kind source wrap).1 (session.performOn kind source wrap).2 := by
  rw [performOn]
  cases session.draftFrom kind source with
  | error fault => exact settled_self rfl
  | ok draft => exact settled_perform session (wrap draft)

theorem settled_step (session : Session) (action : Action) :
    Settled session (session.step action).1 (session.step action).2 := by
  cases action with
  | get id => exact settled_perform session (.get id)
  | create source => exact settled_performOn
  | update id source => exact settled_performOn
  | delete id => exact settled_perform session (.delete id)
  | list token size => exact settled_perform session (.list token size)
  | openDraft name kind => exact ⟨rfl, rfl, rfl⟩
  | set name setter argument =>
      rcases step_set_cases session name setter argument with
        ⟨effect, same⟩ | ⟨draft, changed, _, _, same⟩
      · rw [same]
        exact settled_self rfl
      · rw [same]
        exact ⟨rfl, rfl, rfl⟩
  | assignProject id => exact ⟨rfl, rfl, rfl⟩
  | close => exact ⟨rfl, rfl, rfl⟩

/-- Whether all keys in all drafts are Unicode text. -/
def HasUnicodeKeys (session : Session) : Prop :=
  ∀ name draft, Members.lookup name session.drafts = some draft → draft.HasUnicodeKeys

theorem hasUnicodeKeys_fresh (kind : DraftKind) : kind.fresh.HasUnicodeKeys := by
  cases kind with
  | create => trivial
  | update => trivial

theorem HasUnicodeKeys.insert {drafts : List (Text × AnyDraft)} {client : Client} {server : Server}
    (keys : HasUnicodeKeys { client, server, drafts }) {name : Text} {draft : AnyDraft}
    (draftKeys : draft.HasUnicodeKeys) :
    HasUnicodeKeys { client, server, drafts := Members.insert name draft drafts } := by
  intro other found isFound
  by_cases same : other = name
  · subst same
    rw [Members.lookup_insert_self] at isFound
    cases isFound
    exact draftKeys
  · rw [Members.lookup_insert_of_ne same] at isFound
    exact keys other found isFound

theorem HasUnicodeKeys.draftFrom (keys : session.HasUnicodeKeys) {kind : DraftKind}
    {source : DraftSource} {draft : AnyDraft}
    (filled : session.draftFrom kind source = .ok (some draft)) : draft.HasUnicodeKeys := by
  cases source with
  | missing => cases filled
  | setters setters =>
      rw [Session.draftFrom] at filled
      cases made : kind.fresh.applyAll setters with
      | error fault =>
          rw [made] at filled
          cases filled
      | ok result =>
          rw [made] at filled
          cases filled
          exact (hasUnicodeKeys_fresh kind).applyAll made
  | shared name =>
      rw [Session.draftFrom] at filled
      exact keys name draft (Except.ok.inj filled)

theorem HasUnicodeKeys.step (keys : session.HasUnicodeKeys) (action : Action) :
    (session.step action).2.HasUnicodeKeys := by
  have performOn : ∀ kind source wrap, (session.performOn kind source wrap).2.HasUnicodeKeys := by
    intro kind source wrap
    rw [Session.performOn]
    cases session.draftFrom kind source with
    | error fault => exact keys
    | ok draft => exact keys
  cases action with
  | get id => exact keys
  | create source => exact performOn .create source .create
  | update id source => exact performOn .update source (.update id)
  | delete id => exact keys
  | list token size => exact keys
  | openDraft name kind => exact keys.insert (hasUnicodeKeys_fresh kind)
  | set name setter argument =>
      rcases step_set_cases session name setter argument with
        ⟨effect, same⟩ | ⟨draft, changed, found, made, same⟩
      · rw [same]
        exact keys
      · rw [same]
        exact keys.insert ((keys name draft found).apply made)
  | assignProject id => exact keys
  | close => exact keys

/-! ## Runs -/

def requests : List Outcome → Nat
  | [] => 0
  | outcome :: outcomes => outcome.requests + requests outcomes

theorem settled_run (actions : List Action) (session : Session) :
    (session.run actions).2.server =
        session.server.afterRequests (requests (session.run actions).1) ∧
      (session.run actions).2.client.transport.endpoint = session.client.transport.endpoint ∧
      (session.run actions).2.client.transport.headers = session.client.transport.headers := by
  induction actions generalizing session with
  | nil => exact ⟨rfl, rfl, rfl⟩
  | cons action actions ih =>
      obtain ⟨server, endpoint, headers⟩ := settled_step session action
      obtain ⟨runServer, runEndpoint, runHeaders⟩ := ih (session.step action).2
      refine ⟨?_, runEndpoint.trans endpoint, runHeaders.trans headers⟩
      refine runServer.trans ?_
      rw [server, ← Server.afterRequests_add]
      rfl

theorem HasUnicodeKeys.run (keys : session.HasUnicodeKeys) (actions : List Action) :
    (session.run actions).2.HasUnicodeKeys := by
  induction actions generalizing session with
  | nil => exact keys
  | cons action actions ih => exact ih (keys.step action)

end Session

end SamlAdmin
