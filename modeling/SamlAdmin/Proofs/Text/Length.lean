import SamlAdmin.Proofs.Text.Split
import SamlAdmin.Text.Utf8

/-!
# How many octets a text has

Every code point has at least one octet, and the octets of a text are those of its code
points.  So a part of a text has fewer octets than the text, unless it is all of it.
-/

namespace SamlAdmin.Utf8

theorem length_encodePoint_pos (point : CodePoint) : 0 < (encodePoint point).length := by
  unfold encodePoint
  simp only
  split
  · exact Nat.one_pos
  split
  · exact Nat.two_pos
  split
  · exact Nat.succ_pos 2
  · exact Nat.succ_pos 3

theorem encode_cons (point : CodePoint) (rest : Text) :
    encode (point :: rest) = encodePoint point ++ encode rest := by
  rw [encode, encode, List.flatMap_cons]

theorem length_encode_append (left right : Text) :
    (encode (left ++ right)).length = (encode left).length + (encode right).length := by
  rw [encode, List.flatMap_append, List.length_append, encode, encode]

theorem length_encode_pos {text : Text} (nonempty : text ≠ []) : 0 < (encode text).length := by
  cases text with
  | nil => exact absurd rfl nonempty
  | cons point rest =>
      rw [encode_cons, List.length_append]
      exact Nat.add_pos_left (length_encodePoint_pos point) _

/-- A part of a text has no more octets than the text, and fewer if there is another part. -/
theorem length_encode_of_mem_join (separator : CodePoint) {parts : List Text} {part : Text}
    (isPart : part ∈ parts) :
    (encode part).length ≤ (encode (Text.join [separator] parts)).length ∧
      (parts ≠ [part] → (encode part).length < (encode (Text.join [separator] parts)).length) := by
  induction parts with
  | nil => cases isPart
  | cons first others ih =>
      cases others with
      | nil =>
          obtain rfl := List.mem_singleton.mp isPart
          exact ⟨Nat.le_refl _, fun other => absurd rfl other⟩
      | cons next others =>
          have between : 0 < (encode [separator]).length := length_encode_pos (by simp)
          have whole : (encode (Text.join [separator] (first :: next :: others))).length =
              (encode first).length + (encode [separator]).length +
                (encode (Text.join [separator] (next :: others))).length := by
            rw [Text.join, length_encode_append, length_encode_append]
          have shorter : (encode part).length <
              (encode (Text.join [separator] (first :: next :: others))).length := by
            rw [whole]
            rcases List.mem_cons.mp isPart with rfl | inOthers
            · omega
            · have inRest := (ih inOthers).1
              omega
          exact ⟨Nat.le_of_lt shorter, fun _ => shorter⟩

/-- A segment of a text has no more octets than the text, and fewer if it is not all of
it. -/
theorem length_encode_of_mem_splitOn {separator : CodePoint} {text part : Text}
    (isPart : part ∈ text.splitOn separator) :
    (encode part).length ≤ (encode text).length ∧
      (separator ∈ text → (encode part).length < (encode text).length) := by
  have bounds := length_encode_of_mem_join separator isPart
  rw [Text.join_splitOn] at bounds
  refine ⟨bounds.1, fun member => bounds.2 ?_⟩
  intro single
  have same := Text.join_splitOn separator text
  rw [single, Text.join] at same
  subst same
  exact Text.notMem_of_mem_splitOn isPart member

end SamlAdmin.Utf8
