import SamlAdmin.Proofs.Text.Split
import SamlAdmin.Proofs.Url.Percent
import SamlAdmin.ProviderId

/-!
# Provider IDs as segments of a path

An ID begins with `saml.` and holds no delimiter.  Its beginning is spelled as it is,
so the spelled ID is never taken for a dot segment, and it is found again behind the
last slash of whatever stands before it.
-/

namespace SamlAdmin.ProviderId

/-- What makes a text an ID. -/
structure WellFormed (id : Text) : Prop where
  begins : ∃ rest, id = beginning ++ rest
  noDelimiter : ∀ sign ∈ delimiters, sign ∉ id

theorem isValid_iff {id : Text} : isValid id = true ↔ WellFormed id := by
  have clean : (!id.any delimiters.contains) = true ↔ ∀ sign ∈ delimiters, sign ∉ id := by
    simp only [Bool.not_eq_true', List.any_eq_false, List.contains_iff_mem]
    constructor
    · intro absent sign isDelimiter inId
      exact absent sign inId isDelimiter
    · intro absent point inId isDelimiter
      exact absent point isDelimiter inId
  have begins : (id.afterPrefix? beginning).isSome = true ↔ ∃ rest, id = beginning ++ rest := by
    simp only [Option.isSome_iff_exists, Text.afterPrefix?_eq_some_iff]
  rw [isValid, Bool.and_eq_true, begins, clean]
  exact ⟨fun both => ⟨both.1, both.2⟩, fun formed => ⟨formed.1, formed.2⟩⟩

theorem validate_eq_ok_iff_wellFormed {given : Value} {id : Text} :
    validate given = .ok id ↔ given = .str id ∧ WellFormed id := by
  rw [validate_eq_ok_iff, isValid_iff]

namespace WellFormed

variable {id : Text}

theorem noSlash (formed : WellFormed id) : (.char '/' : CodePoint) ∉ id :=
  formed.noDelimiter _ (by decide)

theorem ofResourceName_append (formed : WellFormed id) (parent : Text) :
    ofResourceName (parent ++ .char '/' :: id) = id :=
  Text.afterLast_append_cons parent formed.noSlash

/-- The beginning of an ID is spelled as it is. -/
theorem encodeComponent_eq (formed : WellFormed id) :
    ∃ rest, Percent.encodeComponent id = beginning ++ rest := by
  obtain ⟨rest, rfl⟩ := formed.begins
  have plain : Percent.encode Percent.isUnreserved beginning = beginning :=
    Percent.encode_of_safe (by decide)
  refine ⟨Percent.encodeComponent rest, ?_⟩
  rw [Percent.encodeComponent, Percent.encode, List.flatMap_append, ← Percent.encode, plain]
  rfl

theorem encodeComponent_ne_dots (formed : WellFormed id) :
    Percent.encodeComponent id ≠ ("." : Text) ∧ Percent.encodeComponent id ≠ (".." : Text) := by
  obtain ⟨rest, spelled⟩ := formed.encodeComponent_eq
  have long : 5 ≤ (Percent.encodeComponent id).length := by
    rw [spelled, List.length_append]
    exact Nat.le_add_right 5 _
  constructor
  · intro dot
    rw [dot] at long
    exact absurd long (by decide)
  · intro dots
    rw [dots] at long
    exact absurd long (by decide)

end WellFormed

end SamlAdmin.ProviderId
