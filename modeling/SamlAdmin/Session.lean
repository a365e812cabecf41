import SamlAdmin.Client

/-!
# Sessions

A session is a run of actions on one client against one server.  Drafts may be
shared: they are opened under a name, filled step by step, and used for several
operations.  `Session.step` runs one action, and `Session.run` all of them in turn.
-/

namespace SamlAdmin

/-- The kinds of drafts. -/
inductive DraftKind where
  | create
  | update
  deriving DecidableEq

/-- A draft of a kind with no field set. -/
def DraftKind.fresh : DraftKind → AnyDraft
  | .create => .create {}
  | .update => .update {}

/-- Where the draft of an operation comes from. -/
inductive DraftSource where
  | missing
  | setters (setters : List (Setter × Value))
  | shared (name : Text)

/-- What can be done in a session. -/
inductive Action where
  | get (id : Value)
  | create (source : DraftSource)
  | update (id : Value) (source : DraftSource)
  | delete (id : Value)
  | list (pageToken maxResults : Value)
  | openDraft (name : Text) (kind : DraftKind)
  | set (name : Text) (setter : Setter) (argument : Value)
  | assignProject (id : Value)
  | close

/-- What an action gives. -/
inductive Effect where
  | result (result : Result)
  | nothing
  | closed
  | failed (fault : Client.Fault)
  | refused (fault : Setter.Fault)

/-- What can be seen of an action. -/
structure Outcome where
  effect : Effect
  sent : Option Request := none
  log : List LogRecord := []

/-- The state of a session. -/
structure Session where
  client : Client
  server : Server
  drafts : List (Text × AnyDraft) := []

namespace Session

/-- The draft that a source stands for, for an operation that wants a given kind. -/
def draftFrom (kind : DraftKind) (session : Session) :
    DraftSource → Except Setter.Fault (Option AnyDraft)
  | .missing => .ok none
  | .setters setters => (kind.fresh.applyAll setters).map some
  | .shared name => .ok (Members.lookup name session.drafts)

def perform (operation : Operation) (session : Session) : Outcome × Session :=
  let (answer, client, server) := session.client.perform operation session.server
  let effect := match answer.outcome with
    | .ok result => .result result
    | .error fault => .failed fault
  ({ effect, sent := answer.sent, log := answer.log }, { session with client, server })

/-- Perform an operation on a draft. -/
def performOn (kind : DraftKind) (source : DraftSource) (operation : Option AnyDraft → Operation)
    (session : Session) : Outcome × Session :=
  match session.draftFrom kind source with
  | .error fault => ({ effect := .refused fault }, session)
  | .ok draft => session.perform (operation draft)

/-- Run an action. -/
def step (action : Action) (session : Session) : Outcome × Session :=
  match action with
  | .get id => session.perform (.get id)
  | .create source => session.performOn .create source .create
  | .update id source => session.performOn .update source (.update id)
  | .delete id => session.perform (.delete id)
  | .list pageToken maxResults => session.perform (.list pageToken maxResults)
  | .openDraft name kind =>
    ({ effect := .nothing },
     { session with drafts := Members.insert name kind.fresh session.drafts })
  | .set name setter argument =>
    match Members.lookup name session.drafts with
    | none => ({ effect := .nothing }, session)
    | some draft =>
      match draft.apply setter argument with
      | .error fault => ({ effect := .refused fault }, session)
      | .ok draft =>
        ({ effect := .nothing },
         { session with drafts := Members.insert name draft session.drafts })
  | .assignProject id =>
    ({ effect := .nothing }, { session with client := { session.client with projectId := id } })
  | .close =>
    let (log, client) := session.client.close
    ({ effect := .closed, log }, { session with client })

/-- Run actions in turn. -/
def run : List Action → Session → List Outcome × Session
  | [], session => ([], session)
  | action :: actions, session =>
    let (outcome, session) := session.step action
    let (outcomes, session) := run actions session
    (outcome :: outcomes, session)

end Session

end SamlAdmin
