import SamlAdmin.Draft

/-!
# Setters by name

Drafts of both kinds are filled by the same setters, and a draft of a new
configuration has one more, for its ID.  `AnyDraft.apply` runs a setter on a draft
of either kind.
-/

namespace SamlAdmin

/-- The setters of drafts. -/
inductive Setter where
  | providerId
  | field (field : Field)
  deriving DecidableEq

namespace Setter

def name : Setter → Text
  | .providerId => "provider_id"
  | .field target => target.label

def ofName? (name : Text) : Option Setter :=
  (Setter.providerId :: Field.all.map .field).find? (·.name = name)

/-- Why a setter did nothing. -/
inductive Fault where
  | missing (setter : Setter)
  | refused (refusal : Draft.Refusal)

def Fault.message : Fault → Text
  | .missing setter =>
    ("'SAMLProviderConfigToUpdate' object has no attribute " : Text) ++ setter.name.quoted
  | .refused refusal => refusal.message

end Setter

/-- A draft of either kind. -/
inductive AnyDraft where
  | create (draft : CreateDraft)
  | update (draft : UpdateDraft)

namespace AnyDraft

def apply (setter : Setter) (argument : Value) : AnyDraft → Except Setter.Fault AnyDraft
  | .create draft =>
    match setter with
    | .providerId => .ok (.create { draft with providerId := argument })
    | .field field => ((draft.set field argument).map .create).mapError .refused
  | .update draft =>
    match setter with
    | .providerId => .error (.missing .providerId)
    | .field field => ((draft.set field argument).map .update).mapError .refused

/-- Run setters in turn, up to the first fault. -/
def applyAll : List (Setter × Value) → AnyDraft → Except Setter.Fault AnyDraft
  | [], draft => .ok draft
  | (setter, argument) :: rest, draft =>
    match draft.apply setter argument with
    | .error fault => .error fault
    | .ok draft => applyAll rest draft

end AnyDraft

end SamlAdmin
