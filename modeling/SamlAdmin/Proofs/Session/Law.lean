import SamlAdmin.Proofs.Client.Refusal
import SamlAdmin.Proofs.Session.Run

/-!
# The law of a call

A call is first checked, then it needs a project, and only then is it sent, once.  This
holds at every moment of every run, whatever was done before, and at the admin endpoint
nothing but text that UTF-8 cannot write keeps an accepted call from being sent.
-/

namespace SamlAdmin

/-! ## The texts of a call -/

/-- The texts that were given to a draft. -/
def AnyDraft.givenTexts (draft : AnyDraft) : List Text := draft.ownId ++ draft.fields.leafTexts

theorem AnyDraft.HasUnicodeKeys.texts_iff {draft : AnyDraft} (keys : draft.HasUnicodeKeys) :
    (∀ text ∈ draft.texts, text.IsUnicode) ↔ ∀ text ∈ draft.givenTexts, text.IsUnicode := by
  rw [AnyDraft.texts, AnyDraft.givenTexts, List.forall_mem_append, List.forall_mem_append]
  exact and_congr_right fun _ => FieldMap.AllKeys.isUnicode_iff keys

namespace Operation

/-- The draft that an operation is given. -/
def draft? : Operation → Option AnyDraft
  | .create draft => draft
  | .update _ draft => draft
  | _ => none

/-- The texts that an operation is given, those in its draft among them. -/
def givenTexts : Operation → List Text
  | .get id => id.ownText
  | .create draft => draft.elim [] AnyDraft.givenTexts
  | .update id draft => id.ownText ++ draft.elim [] AnyDraft.givenTexts
  | .delete id => id.ownText
  | .list token _ => token.ownText

theorem isUnicode_iff_givenTexts {operation : Operation}
    (keys : ∀ draft, operation.draft? = some draft → draft.HasUnicodeKeys) :
    operation.IsUnicode ↔ ∀ text ∈ operation.givenTexts, text.IsUnicode := by
  cases operation with
  | create draft =>
      cases draft with
      | none => exact Iff.rfl
      | some draft => exact (keys draft rfl).texts_iff
  | update id draft =>
      cases draft with
      | none => exact Iff.rfl
      | some draft =>
          rw [IsUnicode, texts, givenTexts, List.forall_mem_append, List.forall_mem_append]
          exact and_congr_right fun _ => (keys draft rfl).texts_iff
  | _ => exact Iff.rfl

theorem IsUnicode.hasSpelling {operation : Operation} (unicode : operation.IsUnicode) :
    operation.HasSpelling := by
  intro id about
  apply unicode
  cases operation with
  | get given =>
      cases about
      exact List.mem_singleton_self id
  | update given draft =>
      cases about
      exact List.mem_append_left _ (List.mem_singleton_self id)
  | delete given =>
      cases about
      exact List.mem_singleton_self id
  | _ => cases about

end Operation

namespace Session

variable {session : Session} {action : Action} {operation : Operation}

theorem HasUnicodeKeys.draft? (keys : session.HasUnicodeKeys)
    (called : session.call? action = some operation) {draft : AnyDraft}
    (given : operation.draft? = some draft) : draft.HasUnicodeKeys := by
  cases action with
  | create source =>
      obtain ⟨_, filling, filled, rfl⟩ := performOn_of_call? called
      cases given
      exact keys.draftFrom filled
  | update id source =>
      obtain ⟨_, filling, filled, rfl⟩ := performOn_of_call? called
      cases given
      exact keys.draftFrom filled
  | get id =>
      cases called
      cases given
  | delete id =>
      cases called
      cases given
  | list token size =>
      cases called
      cases given
  | _ => cases called

/-! ## One call -/

/-- The law of a call.  The server answers once for each request; a fault of an argument
or for want of a project means that there was none; what is sent is for a well-formed ID.
Arguments that are not accepted are reported first, then an ID that has no spelling, then
a missing project. -/
structure Lawful (before : Session) (operation : Operation) (outcome : Outcome)
    (after : Session) : Prop where
  answered : after.server = if outcome.sent.isSome then before.server.answer.2 else before.server
  silent : ∀ fault, outcome.effect = .failed fault → fault.isLocal = true → outcome.sent = none
  subject : outcome.sent.isSome = true → ∀ given, operation.subject? = some given →
    ∃ id, given = .str id ∧ ProviderId.WellFormed id
  invalid : (∃ fault, outcome.effect = .failed (.argument fault) ∧ fault.isInvalid = true) ↔
    ¬operation.Accepted
  unencodable : (∃ fault, outcome.effect = .failed (.argument (.unencodable fault))) ↔
    operation.Accepted ∧ ¬operation.HasSpelling
  noProject : outcome.effect = .failed .noProject ↔
    (operation.Accepted ∧ operation.HasSpelling) ∧ before.client.projectId.isTruthy = false

theorem lawful_perform (session : Session) (own : operation.HasOwnDraft) :
    Lawful session operation (session.perform operation).1 (session.perform operation).2 where
  answered := by
    rw [(settled_perform session operation).server, Outcome.requests]
    cases (session.perform operation).1.sent with
    | none => rfl
    | some request => rfl
  silent := by
    intro fault failed found
    rw [perform_eq, Outcome.ofAnswer_effect_eq_failed_iff] at failed
    exact (Client.perform_course operation session.client session.server).sent_eq_none failed found
  subject := by
    intro isSent given isSubject
    obtain ⟨request, isRequest⟩ := Option.isSome_iff_exists.mp isSent
    obtain ⟨plan, planned, _, _⟩ := Client.sent_perform_eq_some_iff.mp isRequest
    exact planned.accepted.1.subject isSubject
  invalid := by
    simp only [perform_eq, Outcome.ofAnswer_effect_eq_failed_iff, Client.outcome_eq_argument_iff]
    exact Operation.invalid_iff own
  unencodable := by
    simp only [perform_eq, Outcome.ofAnswer_effect_eq_failed_iff, Client.outcome_eq_argument_iff]
    exact Operation.unencodable_iff own
  noProject := by
    rw [perform_eq, Outcome.ofAnswer_effect_eq_failed_iff, Client.outcome_eq_noProject_iff]
    apply and_congr_left
    intro _
    constructor
    · rintro ⟨plan, planned⟩
      exact planned.accepted
    · rintro ⟨accepted, spelled⟩
      exact accepted.planned spelled

/-- At the admin endpoint, an accepted call within the limit is sent exactly if it is given
Unicode text only. -/
theorem exists_request_iff {project : Text} (admin : Client.AtAdmin project session.client)
    (named : IsProjectName project) (headers : session.client.transport.headers.check = .ok ())
    (accepted : operation.Accepted)
    (fits : ∀ plan, operation.plan = .ok plan →
      (Client.targetOf project plan).toText.length ≤ Target.longest) :
    (∃ request, (session.perform operation).1.sent = some request ∧
      request.method = operation.method) ↔ operation.IsUnicode := by
  constructor
  · rintro ⟨request, isSent, _⟩
    obtain ⟨plan, planned, _, ready⟩ := Client.sent_perform_eq_some_iff.mp isSent
    exact admin.isUnicode_of_calls named planned ready
  · intro unicode
    have spelled : operation.HasSpelling := unicode.hasSpelling
    obtain ⟨plan, planned⟩ := accepted.planned spelled
    have short := fits plan (Operation.plan_eq_ok_iff.mpr planned)
    obtain ⟨request, ready, method, _⟩ := admin.exists_sent named headers planned unicode short
    have present : session.client.projectId.isTruthy = true := by
      rw [admin.project]
      exact named.isTruthy
    exact ⟨request, Client.sent_perform_eq_some_iff.mpr ⟨plan, planned, present, ready⟩, method⟩

/-! ## Every call of every run -/

/-- After any actions, an action that is no call sends nothing, and a call obeys the law.
With the settings that a client has by default, a call that is accepted, has a project and
is within the limit sends one request with its method, unless UTF-8 cannot write a text
that it was given.  All in all the server has answered once for each request. -/
theorem calls_of_run_are_lawful (projectId : Value) (endpoint version : Text) (channels : Channels)
    (server : Server) (actions : List Action) :
    let ran := run actions ⟨.new projectId endpoint version channels, server, []⟩
    ran.2.server = server.afterRequests (requests ran.1) ∧
    (∀ action, ran.2.call? action = none →
      (ran.2.step action).1.sent = none ∧ (ran.2.step action).2.server = ran.2.server) ∧
    ∀ action operation, ran.2.call? action = some operation → operation.HasOwnDraft →
      Lawful ran.2 operation (ran.2.step action).1 (ran.2.step action).2 ∧
      (endpoint = Settings.defaultEndpoint → version = Settings.defaultVersion →
        ∀ project, ran.2.client.projectId = .str project → IsProjectName project →
        operation.Accepted →
        (∀ plan, operation.plan = .ok plan →
          (Client.targetOf project plan).toText.length ≤ Target.longest) →
        ((∃ request, (ran.2.step action).1.sent = some request ∧
          request.method = operation.method) ↔
            ∀ text ∈ operation.givenTexts, text.IsUnicode)) := by
  intro ran
  let fresh : Session := ⟨.new projectId endpoint version channels, server, []⟩
  obtain ⟨answered, isEndpoint, isHeaders⟩ := settled_run actions fresh
  have noDrafts : fresh.HasUnicodeKeys := by
    intro name draft found
    cases found
  have keys : ran.2.HasUnicodeKeys := noDrafts.run actions
  refine ⟨answered, fun action idle => ?_, fun action operation called own => ?_⟩
  · have silent := sent_of_no_call idle
    refine ⟨silent, ?_⟩
    rw [(settled_step ran.2 action).server, Outcome.requests, silent]
    rfl
  · rw [step_of_call? called]
    refine ⟨lawful_perform ran.2 own, ?_⟩
    rintro rfl rfl project isProject named accepted fits
    have admin : Client.AtAdmin project ran.2.client :=
      ⟨isEndpoint.trans (endpoint_ofEndpoint_default _ _), isProject⟩
    have headers : ran.2.client.transport.headers.check = .ok () := by
      rw [isHeaders]
      rfl
    rw [← Operation.isUnicode_iff_givenTexts fun draft given => keys.draft? called given]
    exact exists_request_iff admin named headers accepted fits

/-- A session of a client with the settings that it has by default. -/
def usual (projectId : Value) : Session :=
  ⟨.new projectId Settings.defaultEndpoint Settings.defaultVersion (.ofLimits (.all .null)), ⟨[]⟩,
    []⟩

/-- Actions that open a draft, clear the name in it and assign a project. -/
def preparingActions : List Action :=
  [.openDraft "changes" .update, .set "changes" (.field .displayName) (.str []),
   .assignProject (.str "my-project")]

/-- After these actions the draft goes out in one request. -/
theorem calls_of_preparing_run_are_lawful :
    ∃ request,
      ((run preparingActions (usual .null)).2.step
        (.update (.str "saml.okta") (.shared "changes"))).1.sent = some request ∧
      request.method = "PATCH" := by
  have named : IsProjectName ("my-project" : Text) := by decide
  have formed : ProviderId.WellFormed ("saml.okta" : Text) :=
    ProviderId.isValid_iff.mp (by decide)
  let draft : UpdateDraft := ⟨.leaf "displayName" .cleared .empty⟩
  have built : draft.build = .ok draft.fields := rfl
  unfold usual
  obtain ⟨_, _, calls⟩ := calls_of_run_are_lawful .null Settings.defaultEndpoint
    Settings.defaultVersion (.ofLimits (.all .null)) ⟨[]⟩ preparingActions
  obtain ⟨_, sends⟩ := calls (.update (.str "saml.okta") (.shared "changes"))
    (.update (.str "saml.okta") (some (.update draft))) rfl trivial
  have fits : ∀ plan, (Operation.update (.str "saml.okta") (some (.update draft))).plan = .ok plan →
      (Client.targetOf "my-project" plan).toText.length ≤ Target.longest := by
    intro plan isPlan
    cases isPlan
    decide +kernel
  exact (sends rfl rfl "my-project" rfl named (.update formed built) fits).mpr (by decide)

/-- An ID that ends in half of a surrogate pair. -/
def brokenId : Text := ("saml." : Text) ++ [.surrogate ⟨0, by decide⟩]

/-- An accepted ID that UTF-8 cannot write is reported before a missing project, and keeps
a call from being sent where there is one. -/
theorem broken_id_comes_before_project :
    (Operation.get (.str brokenId)).Accepted ∧
    (usual .null).client.projectId.isTruthy = false ∧
    ((usual .null).step (.get (.str brokenId))).1.effect ≠ .failed .noProject ∧
    IsProjectName "my-project" ∧
    ((usual (.str "my-project")).step (.get (.str brokenId))).1.sent = none := by
  have formed : ProviderId.WellFormed brokenId := ProviderId.isValid_iff.mp (by decide)
  have noSpelling : ¬(Operation.get (.str brokenId)).HasSpelling := by
    intro spelled
    exact absurd (spelled brokenId rfl) (by decide)
  have own : (Operation.get (.str brokenId)).HasOwnDraft := trivial
  have refused : ∀ projectId, ∃ fault,
      ((usual projectId).step (.get (.str brokenId))).1.effect =
        .failed (.argument (.unencodable fault)) := by
    intro projectId
    exact (lawful_perform (usual projectId) own).unencodable.mpr ⟨.get formed, noSpelling⟩
  refine ⟨.get formed, rfl, ?_, by decide, ?_⟩
  · obtain ⟨fault, failed⟩ := refused .null
    rw [failed]
    intro same
    cases same
  · obtain ⟨fault, failed⟩ := refused (.str "my-project")
    exact (lawful_perform (usual (.str "my-project")) own).silent _ failed rfl

end Session

end SamlAdmin
