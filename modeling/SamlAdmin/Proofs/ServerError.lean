import SamlAdmin.Proofs.Text.Split
import SamlAdmin.Proofs.Text.Trim
import SamlAdmin.ServerError

/-!
# The kind of an error

A code of the server is a name with blanks around it, and there may be a colon and a detail
behind them.  Only the name counts: if it is listed, it decides the kind of the error, and
otherwise the status does.
-/

namespace SamlAdmin.ErrorKind

/-- A code that carries a name, alone or with a detail. -/
inductive Carries (name : Text) : Text → Prop where
  | alone {before behind : Text} (blankBefore : before.IsBlank) (blankBehind : behind.IsBlank) :
      Carries name (before ++ name ++ behind)
  | detailed {before behind : Text} (blankBefore : before.IsBlank) (blankBehind : behind.IsBlank)
      (detail : Text) : Carries name (before ++ name ++ behind ++ .char ':' :: detail)

theorem Carries.refl (name : Text) : Carries name name := by
  have nothing : Text.IsBlank [] := List.forall_mem_nil _
  have between : Carries name ([] ++ name ++ []) := .alone nothing nothing
  simpa using between

variable {name code : Text} {kind : ErrorKind}

theorem colon_notMem_of_isBlank {text : Text} (blank : text.IsBlank) :
    (.char ':' : CodePoint) ∉ text := by
  intro member
  exact absurd (blank _ member) (by decide)

theorem significant_eq_iff (tight : Text.IsTight CodePoint.isBlank name)
    (clean : (.char ':' : CodePoint) ∉ name) : significant code = name ↔ Carries name code := by
  rw [significant, Text.trimBlank, Text.trimWith_eq_iff]
  constructor
  · rintro ⟨_, before, behind, blankBefore, blankBehind, part⟩
    obtain ⟨_, rfl | ⟨detail, rfl⟩⟩ := Text.beforeFirst_eq_iff.mp part
    · exact .alone blankBefore blankBehind
    · exact .detailed blankBefore blankBehind detail
  · intro carries
    have cleanAround : ∀ {before behind : Text}, before.IsBlank → behind.IsBlank →
        (.char ':' : CodePoint) ∉ before ++ name ++ behind := by
      intro before behind blankBefore blankBehind
      simp only [List.mem_append, not_or]
      exact ⟨⟨colon_notMem_of_isBlank blankBefore, clean⟩, colon_notMem_of_isBlank blankBehind⟩
    refine ⟨tight, ?_⟩
    cases carries with
    | @alone before behind blankBefore blankBehind =>
        exact ⟨before, behind, blankBefore, blankBehind,
          Text.beforeFirst_of_notMem (cleanAround blankBefore blankBehind)⟩
    | @detailed before behind blankBefore blankBehind detail =>
        exact ⟨before, behind, blankBefore, blankBehind,
          Text.beforeFirst_append_cons (cleanAround blankBefore blankBehind) detail⟩

theorem isTight_of_mem_codes (known : (name, kind) ∈ codes) :
    Text.IsTight CodePoint.isBlank name ∧ (.char ':' : CodePoint) ∉ name := by
  have listed : ∀ entry ∈ codes, (∀ point ∈ entry.1.head?, point.isBlank = false) ∧
      (∀ point ∈ entry.1.getLast?, point.isBlank = false) ∧
      (.char ':' : CodePoint) ∉ entry.1 := by decide
  obtain ⟨first, last, clean⟩ := listed _ known
  exact ⟨⟨first, last⟩, clean⟩

theorem lookup_codes_eq_some_iff : codes.lookup name = some kind ↔ (name, kind) ∈ codes := by
  constructor
  · intro found
    obtain ⟨left, right, split, _⟩ := List.lookup_eq_some_iff.mp found
    rw [split]
    exact List.mem_append_right left List.mem_cons_self
  · intro known
    have listed : ∀ entry ∈ codes, codes.lookup entry.1 = some entry.2 := by decide
    exact listed _ known

theorem ofCode?_eq_some_iff :
    ofCode? code = some kind ↔ ∃ name, (name, kind) ∈ codes ∧ Carries name code := by
  rw [ofCode?, lookup_codes_eq_some_iff]
  constructor
  · intro known
    obtain ⟨tight, clean⟩ := isTight_of_mem_codes known
    exact ⟨_, known, (significant_eq_iff tight clean).mp rfl⟩
  · rintro ⟨name, known, carries⟩
    obtain ⟨tight, clean⟩ := isTight_of_mem_codes known
    rw [(significant_eq_iff tight clean).mpr carries]
    exact known

/-- A listed name decides the kind, whatever the status is. -/
theorem ofAnswer_of_carries (known : (name, kind) ∈ codes) (carries : Carries name code)
    (status : Int) : ofAnswer status code = kind := by
  rw [ofAnswer, ofCode?_eq_some_iff.mpr ⟨name, known, carries⟩]
  rfl

/-- A code without a listed name leaves the decision to the status. -/
theorem ofAnswer_of_not_carries (unknown : ∀ name kind, (name, kind) ∈ codes → ¬Carries name code)
    (status : Int) : ofAnswer status code = ofStatus status := by
  cases found : ofCode? code with
  | none => rw [ofAnswer, found, Option.getD_none]
  | some kind =>
      obtain ⟨name, known, carries⟩ := ofCode?_eq_some_iff.mp found
      exact absurd carries (unknown name kind known)

end SamlAdmin.ErrorKind
