import Mathlib.Data.List.DropRight
import SamlAdmin.Text.Blank

/-!
# Trimming a text

Trimming takes the signs of a class off both ends of a text.  What is left is the one part
of the text that has nothing but such signs around it and neither begins nor ends with one.
-/

namespace SamlAdmin.Text

/-- Whether a text holds nothing but blanks. -/
def IsBlank (text : Text) : Prop := ∀ point ∈ text, point.isBlank = true

instance (text : Text) : Decidable text.IsBlank :=
  inferInstanceAs (Decidable (∀ point ∈ text, point.isBlank = true))

/-- Whether a text neither begins nor ends with a sign that satisfies a test. -/
structure IsTight (test : CodePoint → Bool) (text : Text) : Prop where
  first : ∀ point ∈ text.head?, test point = false
  last : ∀ point ∈ text.getLast?, test point = false

variable {test : CodePoint → Bool} {text before core behind : Text}

theorem dropEndWhile_eq_rdropWhile (test : CodePoint → Bool) (text : Text) :
    dropEndWhile test text = text.rdropWhile test := rfl

theorem dropWhile_append_of_first (outer : ∀ point ∈ before, test point = true)
    (first : ∀ point ∈ core.head?, test point = false) :
    (before ++ core).dropWhile test = core := by
  rw [List.dropWhile_append_of_pos outer]
  cases core with
  | nil => rfl
  | cons point rest =>
      apply List.dropWhile_cons_of_neg
      simp [first point rfl]

theorem dropEndWhile_append_of_last (outer : ∀ point ∈ behind, test point = true)
    (last : ∀ point ∈ core.getLast?, test point = false) :
    dropEndWhile test (core ++ behind) = core := by
  rw [dropEndWhile, List.reverse_append, dropWhile_append_of_first, List.reverse_reverse]
  · intro point member
    exact outer point (List.mem_reverse.mp member)
  · simpa using last

/-- What stands between signs of the class is left. -/
theorem IsTight.trimWith_append (tight : IsTight test core)
    (outerBefore : ∀ point ∈ before, test point = true)
    (outerBehind : ∀ point ∈ behind, test point = true) :
    trimWith test (before ++ core ++ behind) = core := by
  cases core with
  | nil =>
      have all : (before ++ behind).dropWhile test = [] :=
        List.dropWhile_eq_nil_iff.mpr (List.forall_mem_append.mpr ⟨outerBefore, outerBehind⟩)
      rw [List.append_nil, trimWith, all]
      rfl
  | cons point rest =>
      have front : (before ++ (point :: rest ++ behind)).dropWhile test = point :: rest ++ behind :=
        dropWhile_append_of_first outerBefore tight.first
      rw [trimWith, List.append_assoc, front]
      exact dropEndWhile_append_of_last outerBehind tight.last

theorem isTight_trimWith (test : CodePoint → Bool) (text : Text) :
    IsTight test (trimWith test text) := by
  constructor
  · intro point isFirst
    obtain ⟨rest, whole⟩ := List.rdropWhile_prefix test (l := text.dropWhile test)
    have dropped := List.head?_dropWhile_not test text
    rw [← whole, List.head?_append, ← dropEndWhile_eq_rdropWhile, ← trimWith, isFirst] at dropped
    exact dropped
  · intro point isLast
    obtain ⟨nonempty, rfl⟩ := List.mem_getLast?_eq_getLast isLast
    exact Bool.not_eq_true _ ▸ List.rdropWhile_last_not test _ nonempty

theorem exists_append_trimWith (test : CodePoint → Bool) (text : Text) :
    ∃ before behind, (∀ point ∈ before, test point = true) ∧ (∀ point ∈ behind, test point = true) ∧
      text = before ++ trimWith test text ++ behind := by
  refine ⟨text.takeWhile test, (text.dropWhile test).rtakeWhile test, ?_, ?_, ?_⟩
  · exact fun point => List.mem_takeWhile_imp
  · exact fun point => List.mem_rtakeWhile_imp
  · rw [List.append_assoc, trimWith, dropEndWhile_eq_rdropWhile, List.rdropWhile_append_rtakeWhile,
      List.takeWhile_append_dropWhile]

/-- The trimmed text is the tight part between signs of the class. -/
theorem trimWith_eq_iff :
    trimWith test text = core ↔ IsTight test core ∧ ∃ before behind,
      (∀ point ∈ before, test point = true) ∧ (∀ point ∈ behind, test point = true) ∧
        text = before ++ core ++ behind := by
  constructor
  · rintro rfl
    exact ⟨isTight_trimWith test text, exists_append_trimWith test text⟩
  · rintro ⟨tight, before, behind, outerBefore, outerBehind, rfl⟩
    exact tight.trimWith_append outerBefore outerBehind

end SamlAdmin.Text
