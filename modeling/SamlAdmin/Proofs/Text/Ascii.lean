import SamlAdmin.Text

/-!
# Classes of ASCII characters

What an address may hold at one of its places is a class of ASCII characters.  A
relation between such classes is a finite table: `CodePoint.forall_ascii` reads a
fact about every ASCII character off a check of the 128 numbers.
-/

namespace SamlAdmin.CodePoint

theorem isAscii_iff {point : CodePoint} : point.isAscii = true ↔ point.toNat < 0x80 := by
  unfold isAscii
  simp

/-- A property that holds at each of the 128 numbers holds of every ASCII character. -/
theorem forall_ascii {motive : CodePoint → Prop}
    (checked : ∀ number : Fin 128, motive (.char (Char.ofNat number.val)))
    {point : CodePoint} (ascii : point.isAscii = true) : motive point := by
  rw [isAscii_iff] at ascii
  cases point with
  | char value =>
      have found := checked ⟨value.toNat, ascii⟩
      rwa [Char.ofNat_toNat] at found
  | surrogate offset =>
      simp only [toNat] at ascii
      omega

theorem isAscii_of_isAlpha {point : CodePoint} (alpha : point.isAlpha = true) :
    point.isAscii = true := by
  rw [isAscii_iff]
  cases point with
  | char value =>
      have either : (value.isUpper || value.isLower) = true := alpha
      rcases (Bool.or_eq_true _ _).mp either with upper | lower
      · have bounds : value.val ≥ 'A'.val ∧ value.val ≤ 'Z'.val := of_decide_eq_true upper
        exact Nat.lt_of_le_of_lt (UInt32.le_iff_toNat_le.mp bounds.2) (by decide)
      · have bound : value.val ≤ 'z'.val := of_decide_eq_true ((Bool.and_eq_true _ _).mp lower).2
        exact Nat.lt_of_le_of_lt (UInt32.le_iff_toNat_le.mp bound) (by decide)
  | surrogate offset => simp [isAlpha, isCharWith] at alpha

theorem isAscii_of_isDigit {point : CodePoint} (digit : point.isDigit = true) :
    point.isAscii = true := by
  rw [isAscii_iff]
  cases point with
  | char value =>
      have same : value.val.toNat = value.toNat := rfl
      simp only [isDigit, isCharWith, Char.isDigit, Bool.and_eq_true, decide_eq_true_eq,
        UInt32.le_iff_toNat_le, ge_iff_le, same] at digit
      exact Nat.lt_of_le_of_lt digit.2 (by decide)
  | surrogate offset => simp [isDigit, isCharWith] at digit

theorem isAscii_of_isHexDigit {point : CodePoint} (digit : point.isHexDigit = true) :
    point.isAscii = true := by
  rw [isAscii_iff]
  cases point with
  | char value =>
      simp only [isHexDigit, hexValue?] at digit
      rcases Nat.lt_or_ge value.toNat 0x80 with within | beyond
      · exact within
      · rw [if_neg (by omega), if_neg (by omega), if_neg (by omega)] at digit
        simp at digit
  | surrogate offset => simp [isHexDigit, hexValue?] at digit

end SamlAdmin.CodePoint
