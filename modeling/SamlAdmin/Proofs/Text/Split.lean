import SamlAdmin.Text

/-!
# Cutting a text and putting it together

Cutting at a separator is the cut of the list library, so its laws carry over: parts
that hold no separator come back from their join, and a cut in two pieces is the cut
of each piece.  The first and the last part are read off the same laws.
-/

namespace SamlAdmin.Text

variable {separator : CodePoint} {left right part : Text}

/-- The cut of a text is the cut of a list. -/
theorem splitOn_eq_list (separator : CodePoint) (text : Text) :
    text.splitOn separator = List.splitOn separator text := by
  induction text with
  | nil => rfl
  | cons point rest ih =>
      rw [splitOn, List.splitOn_cons_eq_if_modifyHead, ih]
      by_cases same : point = separator
      · simp [same]
      · simp only [if_neg same, beq_iff_eq]
        cases cut : List.splitOn separator rest with
        | nil => exact absurd cut (List.splitOn_ne_nil separator rest)
        | cons part parts => rfl

theorem join_eq_intercalate (separator : CodePoint) (parts : List Text) :
    join [separator] parts = [separator].intercalate parts := by
  induction parts with
  | nil => rfl
  | cons part others ih =>
      cases others with
      | nil => simp [join]
      | cons next others => simp [join, ih]

theorem mem_of_mem_join {between : Text} {parts : List Text} {point : CodePoint}
    (member : point ∈ join between parts) : point ∈ between ∨ ∃ part ∈ parts, point ∈ part := by
  induction parts with
  | nil => cases member
  | cons part others ih =>
      cases others with
      | nil => exact Or.inr ⟨part, List.mem_cons_self, member⟩
      | cons next others =>
          rw [join, List.mem_append, List.mem_append] at member
          rcases member with (inPart | inBetween) | inRest
          · exact Or.inr ⟨part, List.mem_cons_self, inPart⟩
          · exact Or.inl inBetween
          · refine (ih inRest).imp_right ?_
            rintro ⟨other, isOther, inOther⟩
            exact ⟨other, List.mem_cons_of_mem part isOther, inOther⟩

theorem splitOn_of_notMem (clean : separator ∉ part) : part.splitOn separator = [part] := by
  rw [splitOn_eq_list]
  exact List.splitOn_eq_singleton clean

theorem notMem_of_mem_splitOn {text : Text} (isPart : part ∈ text.splitOn separator) :
    separator ∉ part := by
  induction text generalizing part with
  | nil =>
      obtain rfl := List.mem_singleton.mp isPart
      exact List.not_mem_nil
  | cons point rest ih =>
      rw [splitOn] at isPart
      by_cases same : point = separator
      · rw [if_pos same] at isPart
        rcases List.mem_cons.mp isPart with rfl | inRest
        · exact List.not_mem_nil
        · exact ih inRest
      · rw [if_neg same] at isPart
        cases cut : splitOn separator rest with
        | nil => exact absurd cut (splitOn_ne_nil separator rest)
        | cons first others =>
            simp only [cut] at isPart ih
            rcases List.mem_cons.mp isPart with rfl | inOthers
            · rw [List.mem_cons, not_or]
              exact ⟨Ne.symm same, ih List.mem_cons_self⟩
            · exact ih (List.mem_cons_of_mem first inOthers)

/-- A text that is cut at one of its separators is cut in both pieces. -/
theorem splitOn_append_cons (separator : CodePoint) (left right : Text) :
    splitOn separator (left ++ separator :: right) =
      left.splitOn separator ++ right.splitOn separator := by
  simp only [splitOn_eq_list]
  exact List.splitOn_append_cons_self left right

/-- Parts that hold no separator come back from their join. -/
theorem splitOn_join {parts : List Text} (nonempty : parts ≠ [])
    (clean : ∀ part ∈ parts, separator ∉ part) :
    splitOn separator (join [separator] parts) = parts := by
  rw [splitOn_eq_list, join_eq_intercalate]
  exact List.splitOn_intercalate separator clean nonempty

/-- What stands after the last separator, where the rest of the text holds none. -/
theorem afterLast_append_cons (left : Text) (clean : separator ∉ right) :
    afterLast separator (left ++ separator :: right) = right := by
  rw [afterLast, splitOn_append_cons, splitOn_of_notMem clean]
  simp

/-- What stands before the first separator begins with every text that holds none. -/
theorem beforeFirst_append (clean : separator ∉ left) (right : Text) :
    beforeFirst separator (left ++ right) = left ++ beforeFirst separator right := by
  apply List.takeWhile_append_of_pos
  intro point member
  simpa using fun same : point = separator => clean (same ▸ member)

theorem beforeFirst_append_cons (clean : separator ∉ left) (right : Text) :
    beforeFirst separator (left ++ separator :: right) = left := by
  rw [beforeFirst_append clean]
  simp [beforeFirst]

theorem beforeFirst_of_notMem (clean : separator ∉ part) :
    beforeFirst separator part = part := by
  simpa [beforeFirst] using beforeFirst_append clean []

/-- What stands before the first separator is the part that holds none and is all of the text
or has a separator behind it. -/
theorem beforeFirst_eq_iff {text : Text} :
    beforeFirst separator text = part ↔
      separator ∉ part ∧ (text = part ∨ ∃ rest, text = part ++ separator :: rest) := by
  constructor
  · rintro rfl
    constructor
    · intro member
      simpa using List.all_eq_true.mp List.all_takeWhile separator member
    · have whole : beforeFirst separator text ++ text.dropWhile (· ≠ separator) = text :=
        List.takeWhile_append_dropWhile
      cases behind : text.dropWhile (· ≠ separator) with
      | nil =>
          rw [behind, List.append_nil] at whole
          exact Or.inl whole.symm
      | cons point rest =>
          have stop := List.head?_dropWhile_not (· ≠ separator) text
          rw [behind] at stop
          obtain rfl : point = separator := by simpa using stop
          rw [behind] at whole
          exact Or.inr ⟨rest, whole.symm⟩
  · rintro ⟨clean, rfl | ⟨rest, rfl⟩⟩
    · exact beforeFirst_of_notMem clean
    · exact beforeFirst_append_cons clean rest

/-- A text is left after a beginning exactly when the text is both put together. -/
theorem afterPrefix?_eq_some_iff {text beginning rest : Text} :
    text.afterPrefix? beginning = some rest ↔ text = beginning ++ rest := by
  induction beginning generalizing text with
  | nil => simp [afterPrefix?]
  | cons expected beginning ih =>
      cases text with
      | nil => simp [afterPrefix?]
      | cons point others =>
          by_cases same : expected = point
          · simp [afterPrefix?, same, ih]
          · simp [afterPrefix?, same, Ne.symm same]

end SamlAdmin.Text
