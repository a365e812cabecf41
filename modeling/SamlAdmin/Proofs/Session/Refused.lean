import SamlAdmin.Proofs.Session.Law

/-!
# Actions without a trace

What a client refuses by itself, for an argument or for want of a project, takes no answer of
the server and changes neither the client nor a draft.  So a run can be thinned: any of the
refused actions may be left out, and all other actions are seen exactly as they were.

Drafts are changed by setters only.  `Action.onDrafts` says what an action does to them, in
which neither the client nor the server has a part, and an operation does nothing.
-/

namespace SamlAdmin

/-- Leaving out some items of a list, each of which may be left out. -/
inductive Thinned {α : Type} (may : α → Prop) : List α → List α → Prop where
  | nil : Thinned may [] []
  | keep (item : α) {items kept : List α} (rest : Thinned may items kept) :
      Thinned may (item :: items) (item :: kept)
  | drop {item : α} {items kept : List α} (allowed : may item) (rest : Thinned may items kept) :
      Thinned may (item :: items) kept

/-- Whether an effect is a refusal by the client itself, of an argument, of a setter, or for
want of a project. -/
def Effect.isLocal : Effect → Bool
  | .failed fault => fault.isLocal
  | .refused _ => true
  | .result _ | .nothing | .closed => false

def Action.isOperation : Action → Bool
  | .get _ | .create _ | .update _ _ | .delete _ | .list _ _ => true
  | .openDraft _ _ | .set _ _ _ | .assignProject _ | .close => false

/-- What an action does to the drafts. -/
def Action.onDrafts (drafts : List (Text × AnyDraft)) : Action → List (Text × AnyDraft)
  | .openDraft name kind => Members.insert name kind.fresh drafts
  | .set name setter argument =>
    match Members.lookup name drafts with
    | none => drafts
    | some draft =>
      match draft.apply setter argument with
      | .error _ => drafts
      | .ok changed => Members.insert name changed drafts
  | .get _ | .create _ | .update _ _ | .delete _ | .list _ _ | .assignProject _ | .close => drafts

theorem Action.onDrafts_of_isOperation {action : Action} (isOperation : action.isOperation = true)
    (drafts : List (Text × AnyDraft)) : action.onDrafts drafts = drafts := by
  cases action <;> first | rfl | cases isOperation

namespace Session

variable {session : Session} {action : Action}

/-! ## One action -/

theorem eq_of_perform_isLocal {operation : Operation}
    (refused : (session.perform operation).1.effect.isLocal = true) :
    (session.perform operation).2 = session := by
  have course := Client.perform_course operation session.client session.server
  rw [perform_eq] at refused ⊢
  cases ended : (session.client.perform operation session.server).1.outcome with
  | ok result =>
      simp only [Outcome.ofAnswer, ended] at refused
      cases refused
  | error fault =>
      simp only [Outcome.ofAnswer, ended] at refused
      obtain ⟨sameClient, sameServer⟩ := course.after_of_isLocal ended refused
      rw [sameClient, sameServer]

theorem eq_of_performOn_isLocal {kind : DraftKind} {source : DraftSource}
    {wrap : Option AnyDraft → Operation}
    (refused : (session.performOn kind source wrap).1.effect.isLocal = true) :
    (session.performOn kind source wrap).2 = session := by
  rw [performOn] at refused ⊢
  cases filled : session.draftFrom kind source with
  | error fault => rfl
  | ok draft =>
      rw [filled] at refused
      exact eq_of_perform_isLocal refused

theorem eq_of_step_isLocal (refused : (session.step action).1.effect.isLocal = true) :
    (session.step action).2 = session := by
  cases action with
  | get id => exact eq_of_perform_isLocal refused
  | create source => exact eq_of_performOn_isLocal refused
  | update id source => exact eq_of_performOn_isLocal refused
  | delete id => exact eq_of_perform_isLocal refused
  | list token size => exact eq_of_perform_isLocal refused
  | set name setter argument =>
      rcases step_set_cases session name setter argument with
        ⟨effect, same⟩ | ⟨draft, changed, _, _, same⟩
      · rw [same]
      · rw [same] at refused
        cases refused
  | openDraft name kind => cases refused
  | assignProject id => cases refused
  | close => cases refused

theorem drafts_performOn (kind : DraftKind) (source : DraftSource)
    (wrap : Option AnyDraft → Operation) :
    (session.performOn kind source wrap).2.drafts = session.drafts := by
  rw [performOn]
  cases session.draftFrom kind source with
  | error fault => rfl
  | ok draft => rfl

theorem drafts_step (session : Session) (action : Action) :
    (session.step action).2.drafts = action.onDrafts session.drafts := by
  cases action with
  | create source => exact drafts_performOn .create source .create
  | update id source => exact drafts_performOn .update source (.update id)
  | set name setter argument =>
      rw [step, Action.onDrafts]
      cases Members.lookup name session.drafts with
      | none => rfl
      | some draft =>
          cases made : draft.apply setter argument with
          | error fault => simp only [made]
          | ok changed => simp only [made]
  | get id => rfl
  | delete id => rfl
  | list token size => rfl
  | openDraft name kind => rfl
  | assignProject id => rfl
  | close => rfl

/-! ## Runs -/

theorem run_cons (session : Session) (action : Action) (actions : List Action) :
    session.run (action :: actions) =
      ((session.step action).1 :: ((session.step action).2.run actions).1,
        ((session.step action).2.run actions).2) := rfl

/-- The actions of a run, each with what is seen of it. -/
def trace (session : Session) (actions : List Action) : List (Action × Outcome) :=
  actions.zip (session.run actions).1

theorem trace_nil (session : Session) : session.trace [] = [] := rfl

theorem trace_cons (session : Session) (action : Action) (actions : List Action) :
    session.trace (action :: actions) =
      (action, (session.step action).1) :: (session.step action).2.trace actions := rfl

/-- Without some of the refused actions, the others are seen as they were, and the session is
left as it was. -/
theorem run_of_thinned {actions : List Action} {kept : List (Action × Outcome)}
    (thinned : Thinned (fun seen => seen.2.effect.isLocal = true) (session.trace actions) kept) :
    session.run (kept.map (·.1)) = (kept.map (·.2), (session.run actions).2) := by
  induction actions generalizing session kept with
  | nil =>
      cases thinned
      rfl
  | cons action actions ih =>
      rw [trace_cons] at thinned
      cases thinned with
      | keep _ rest => rw [List.map_cons, List.map_cons, run_cons, run_cons, ih rest]
      | drop refused rest =>
          have others := ih rest
          rw [eq_of_step_isLocal refused] at others
          rw [others, run_cons, eq_of_step_isLocal refused]

/-- The drafts after a run are made by the actions alone. -/
theorem drafts_run (session : Session) (actions : List Action) :
    (session.run actions).2.drafts = actions.foldl Action.onDrafts session.drafts := by
  induction actions generalizing session with
  | nil => rfl
  | cons action actions ih => rw [run_cons, ih, drafts_step, List.foldl_cons]

theorem foldl_onDrafts_of_thinned {actions kept : List Action} {drafts : List (Text × AnyDraft)}
    (thinned : Thinned (fun action => action.isOperation = true) actions kept) :
    kept.foldl Action.onDrafts drafts = actions.foldl Action.onDrafts drafts := by
  induction thinned generalizing drafts with
  | nil => rfl
  | keep action _ ih => rw [List.foldl_cons, List.foldl_cons, ih]
  | drop isOperation _ ih => rw [List.foldl_cons, Action.onDrafts_of_isOperation isOperation, ih]

/-- Refused actions leave no trace.  When any of them are left out of a run, every other
action is seen exactly as it was, with the same request, and the client, the server and the
drafts are left as they were.  And no operation, whether it succeeds or fails, has a part in
the drafts: without any of the operations, every draft would be the same. -/
theorem refused_actions_leave_no_trace (session : Session) (actions : List Action) :
    (∀ kept, Thinned (fun seen => seen.2.effect.isLocal = true) (session.trace actions) kept →
      session.run (kept.map (·.1)) = (kept.map (·.2), (session.run actions).2)) ∧
    ∀ kept, Thinned (fun action => action.isOperation = true) actions kept →
      (session.run kept).2.drafts = (session.run actions).2.drafts := by
  constructor
  · intro kept thinned
    exact run_of_thinned thinned
  · intro kept thinned
    rw [drafts_run, drafts_run, foldl_onDrafts_of_thinned thinned]

/-- Actions of which two are refused: an ID without its beginning, and a number for a name. -/
def busyActions : List Action :=
  [.openDraft "changes" .update, .get (.str "okta"),
   .set "changes" (.field .displayName) (.int 1),
   .set "changes" (.field .displayName) (.str []), .update (.str "saml.okta") (.shared "changes")]

/-- Without the two, the update that follows them is seen as it was, and the draft that it
sends is the same without any operation. -/
theorem busy_run_without_refused_actions :
    let session := usual (.str "my-project")
    (∃ opened unformed unnamed cleared updated,
      session.trace busyActions = [opened, unformed, unnamed, cleared, updated] ∧
      unformed.2.effect.isLocal = true ∧ unnamed.2.effect.isLocal = true ∧
      (session.run [opened.1, cleared.1, updated.1]).1 = [opened.2, cleared.2, updated.2]) ∧
    (session.run busyActions.dropLast).2.drafts = (session.run busyActions).2.drafts := by
  intro session
  obtain ⟨seenAlike, sameDrafts⟩ := refused_actions_leave_no_trace session busyActions
  constructor
  · simp only [busyActions, trace_cons, trace_nil] at seenAlike ⊢
    have others := seenAlike _ (.keep _ (.drop rfl (.drop rfl (.keep _ (.keep _ .nil)))))
    exact ⟨_, _, _, _, _, rfl, rfl, rfl, congrArg Prod.fst others⟩
  · apply sameDrafts
    exact .keep _ (.keep _ (.keep _ (.keep _ (.drop rfl .nil))))

end Session

end SamlAdmin
