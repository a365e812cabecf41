import SamlAdmin.Json.Body
import SamlAdmin.Proofs.Json.RoundTrip
import SamlAdmin.Proofs.Text.Utf8

/-!
# Reading an object from the octets of its text

The encoding of a body is read off its first octets.  The text of an object begins with a
brace and a quote, or with both braces, so its octets are taken for UTF-8 and the object is
read from them.
-/

namespace SamlAdmin.Json

/-- Octets that begin with a brace, and a quote or another brace, are taken for UTF-8. -/
theorem detect_of_brace {next : UInt8} (sign : next = 0x22 ∨ next = 0x7D) (rest : List UInt8) :
    detect (0x7B :: next :: rest) = (.utf8, 0) := by
  cases sign with
  | inl quote =>
      subst quote
      match rest with
      | [] => rfl
      | [_] => rfl
      | _ :: _ :: _ => rfl
  | inr brace =>
      subst brace
      match rest with
      | [] => rfl
      | [_] => rfl
      | _ :: _ :: _ => rfl

/-- The text of an object begins with a brace, and a quote or another brace. -/
theorem exists_of_print_object {members : List (Text × Value)} {text : Text}
    (printed : print .compact (.object members) = .ok text) :
    ∃ next others, (next = '"' ∨ next = '\x7d') ∧ text = .char '\x7b' :: .char next :: others := by
  obtain ⟨texts, membersPrinted, rfl⟩ := print_object_eq_ok printed
  cases members with
  | nil =>
      cases membersPrinted
      exact ⟨_, _, Or.inr rfl, rfl⟩
  | cons member others =>
      obtain ⟨key, value⟩ := member
      obtain ⟨first, rest, _, _, rfl⟩ := printMembers_cons_eq_ok membersPrinted
      cases rest with
      | nil => exact ⟨_, _, Or.inl rfl, rfl⟩
      | cons next rest => exact ⟨_, _, Or.inl rfl, rfl⟩

theorem Plain.readBody_encode {members : List (Text × Value)} (plain : Plain (.object members))
    {text : Text} (printed : print .compact (.object members) = .ok text) :
    readBody (Utf8.encode text) = .ok (.object members) := by
  have detected : detect (Utf8.encode text) = (.utf8, 0) := by
    obtain ⟨next, others, sign, rfl⟩ := exists_of_print_object printed
    cases sign with
    | inl quote =>
        subst quote
        exact detect_of_brace (Or.inl rfl) _
    | inr brace =>
        subst brace
        exact detect_of_brace (Or.inr rfl) _
  have decoded : decode (Utf8.encode text) = .ok text := by
    simp only [decode, detected, List.drop_zero]
    rw [Utf8.pieces_encode true text (Or.inl rfl), Piece.strict_map_point]
  rw [readBody, decoded]
  exact plain.read_print printed

end SamlAdmin.Json
