import SamlAdmin.Text.Charset

/-!
# Bodies that have no text

Under most encodings every body has a text, since what cannot be decoded is replaced.
`Charset.Refuses` lists the bodies that have none: an encoding with a mark refuses a body
without it, Punycode refuses counts beyond ASCII, and a name that stands for no text
encoding refuses every body that holds anything.  What an encoding refuses that is not
listed is its own affair.
-/

namespace SamlAdmin

namespace Charset

/-- Whether octets have no text under an encoding. -/
def Refuses (octets : List UInt8) : Charset → Prop
  | .utf16 => Wide.mark16? octets = none ∧ 2 ≤ octets.length
  | .utf32 => Wide.mark32? octets = none ∧ 4 ≤ octets.length
  | .punycode => ∃ octet ∈ (octets.reverse.takeWhile (· ≠ 0x2D)).reverse, 0x80 ≤ octet
  | .useless _ => octets ≠ []
  | .ascii => False
  | .latin1 => False
  | .page _ => False
  | .utf8 => False
  | .utf8Marked => False
  | .utf16Ordered _ => False
  | .utf32Ordered _ => False

variable {octets : List UInt8} {charset : Charset}

theorem decodePunycode_eq_error_iff :
    (∃ reason, decodePunycode octets = .error reason) ↔ Refuses octets .punycode := by
  rw [decodePunycode, Refuses]
  cases found : (octets.reverse.takeWhile (· ≠ 0x2D)).reverse.findIdx? (0x80 ≤ ·) with
  | some position =>
      obtain ⟨inRange, high, _⟩ := List.findIdx?_eq_some_iff_getElem.mp found
      exact iff_of_true ⟨_, rfl⟩ ⟨_, List.getElem_mem inRange, of_decide_eq_true high⟩
  | none =>
      rw [List.findIdx?_eq_none_iff] at found
      refine iff_of_false ?_ ?_
      · rintro ⟨reason, failed⟩
        cases failed
      · rintro ⟨octet, member, high⟩
        exact absurd high (of_decide_eq_false (found octet member))

/-- Octets cannot be read exactly if the encoding refuses them. -/
theorem decode_eq_error_iff :
    (∃ reason, decode octets charset = .error reason) ↔ Refuses octets charset := by
  cases charset with
  | utf16 =>
      cases marked : Wide.mark16? octets with
      | some both => simp [decode, Refuses, marked]
      | none =>
          by_cases long : 2 ≤ octets.length
          · simp [decode, Refuses, marked, long]
          · simp [decode, Refuses, marked, long]
  | utf32 =>
      cases marked : Wide.mark32? octets with
      | some both => simp [decode, Refuses, marked]
      | none =>
          by_cases long : 4 ≤ octets.length
          · simp [decode, Refuses, marked, long]
          · simp [decode, Refuses, marked, long]
  | punycode => exact decodePunycode_eq_error_iff
  | useless reason =>
      cases octets with
      | nil => simp [decode, Refuses]
      | cons first rest => simp [decode, Refuses]
  | _ => simp [decode, Refuses]

end Charset

namespace Encoding

/-- Whether octets have no text under an encoding. -/
def Refuses (octets : List UInt8) : Encoding → Prop
  | .listed charset => charset.Refuses octets
  | .other codec => ∃ reason, codec.replaced octets = .error reason

theorem decode_eq_error_iff {octets : List UInt8} {encoding : Encoding} :
    (∃ reason, decode octets encoding = .error reason) ↔ Refuses octets encoding := by
  cases encoding with
  | listed charset => exact Charset.decode_eq_error_iff
  | other codec => exact Iff.rfl

end Encoding

end SamlAdmin
