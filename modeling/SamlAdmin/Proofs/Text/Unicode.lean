import SamlAdmin.Proofs.Text.Split
import SamlAdmin.Text.Utf8

/-!
# Text that UTF-8 can write

A text without lone surrogates is Unicode text, and UTF-8 has octets for all of it.
A text that is put together is Unicode text exactly if its parts are.
-/

namespace SamlAdmin.Text

/-- Whether a text holds no lone surrogate. -/
def IsUnicode (text : Text) : Prop := ∀ point ∈ text, point.isScalar = true

instance (text : Text) : Decidable text.IsUnicode :=
  inferInstanceAs (Decidable (∀ point ∈ text, point.isScalar = true))

namespace IsUnicode

@[simp] theorem nil : IsUnicode [] := by
  intro point member
  cases member

theorem ofChars (chars : List Char) : (Text.ofChars chars).IsUnicode := by
  intro point member
  obtain ⟨value, _, rfl⟩ := List.mem_map.mp member
  rfl

@[simp] theorem ofString (string : String) : (Text.ofString string).IsUnicode :=
  ofChars string.toList

theorem singleton (value : Char) : IsUnicode [.char value] :=
  ofChars [value]

end IsUnicode

section Parts

variable {left right text : Text}

@[simp] theorem isUnicode_append_iff :
    IsUnicode (left ++ right) ↔ left.IsUnicode ∧ right.IsUnicode :=
  List.forall_mem_append

@[simp] theorem isUnicode_cons_iff (value : Char) :
    IsUnicode (.char value :: text) ↔ text.IsUnicode := by
  rw [IsUnicode, List.forall_mem_cons]
  exact and_iff_right rfl

/-- A text that is spelled point by point is Unicode text exactly with its spelling. -/
theorem isUnicode_flatMap_iff {spelled : CodePoint → Text}
    (same : ∀ point, (spelled point).IsUnicode ↔ point.isScalar = true) :
    IsUnicode (text.flatMap spelled) ↔ text.IsUnicode := by
  induction text with
  | nil => exact Iff.rfl
  | cons point rest ih =>
      rw [List.flatMap_cons, isUnicode_append_iff, same point, ih]
      simp only [IsUnicode, List.forall_mem_cons]

theorem isUnicode_join_iff {between : Text} (betweenUnicode : between.IsUnicode)
    {parts : List Text} : (Text.join between parts).IsUnicode ↔ ∀ part ∈ parts, part.IsUnicode := by
  induction parts with
  | nil => exact iff_of_true IsUnicode.nil (List.forall_mem_nil _)
  | cons part others ih =>
      cases others with
      | nil => rw [join, List.forall_mem_singleton]
      | cons next others =>
          simp only [join, isUnicode_append_iff, ih, List.forall_mem_cons, betweenUnicode, and_true]

end Parts

theorem isUnicode_iff_fault? {text : Text} : text.IsUnicode ↔ Utf8.fault? text = none :=
  Utf8.fault?_eq_none_iff.symm

end SamlAdmin.Text
