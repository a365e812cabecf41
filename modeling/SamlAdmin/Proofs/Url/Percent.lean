import SamlAdmin.Proofs.Text.Ascii
import SamlAdmin.Proofs.Text.Utf8
import SamlAdmin.Url.Percent

/-!
# Reading back percent encoding

Decoding gives back the octets of every encoded text, as long as a percent sign is
itself escaped.  An encoded component consists of unreserved signs and escapes, which
no part of an address takes for anything else.
-/

namespace SamlAdmin.Percent

theorem isAscii_of_isUnreserved {point : CodePoint} (unreserved : isUnreserved point = true) :
    point.isAscii = true := by
  simp only [isUnreserved, Bool.or_eq_true, decide_eq_true_eq] at unreserved
  rcases unreserved with ((((alpha | digit) | rfl) | rfl) | rfl) | rfl
  · exact CodePoint.isAscii_of_isAlpha alpha
  · exact CodePoint.isAscii_of_isDigit digit
  all_goals decide

/-- A relation between the unreserved signs and another class is checked on ASCII. -/
theorem forall_unreserved {motive : CodePoint → Prop}
    (checked : ∀ number : Fin 128, isUnreserved (.char (Char.ofNat number.val)) = true →
      motive (.char (Char.ofNat number.val)))
    {point : CodePoint} (unreserved : isUnreserved point = true) : motive point :=
  CodePoint.forall_ascii (motive := fun point => isUnreserved point = true → motive point)
    checked (isAscii_of_isUnreserved unreserved) unreserved

theorem isUnreserved_of_isHexDigit {point : CodePoint} (digit : point.isHexDigit = true) :
    isUnreserved point = true :=
  CodePoint.forall_ascii
    (motive := fun point => point.isHexDigit = true → isUnreserved point = true)
    (by decide) (CodePoint.isAscii_of_isHexDigit digit) digit

theorem hexValue?_hexDigit {number : Nat} (small : number < 16) :
    (hexDigit number).hexValue? = some number := by
  have checked : ∀ number : Fin 16, (hexDigit number.val).hexValue? = some number.val := by
    decide
  exact checked ⟨number, small⟩

theorem decode_escape (octet : UInt8) (rest : Text) :
    decode (escape octet ++ rest) = octet :: decode rest := by
  have bound := octet.toNat_lt
  have high : octet.toNat / 16 < 16 := by omega
  have low : octet.toNat % 16 < 16 := by omega
  have whole : 16 * (octet.toNat / 16) + octet.toNat % 16 = octet.toNat := by omega
  simp only [escape, List.cons_append, List.nil_append, decode, hexValue?_hexDigit high,
    hexValue?_hexDigit low, whole, UInt8.ofNat_toNat]

theorem decode_escapes (octets : List UInt8) (rest : Text) :
    decode (octets.flatMap escape ++ rest) = octets ++ decode rest := by
  induction octets with
  | nil => rfl
  | cons octet octets ih =>
      rw [List.flatMap_cons, List.append_assoc, decode_escape, ih, List.cons_append]

theorem decode_cons {point : CodePoint} (plain : point ≠ .char '%') (rest : Text) :
    decode (point :: rest) = Utf8.encodePoint point ++ decode rest := by
  rw [decode]
  intro first second others isPercent
  exact absurd isPercent plain

section Encoded

variable {safe : CodePoint → Bool}

theorem decode_encodePoint (escapes : safe (.char '%') = false) (point : CodePoint)
    (rest : Text) :
    decode (encodePoint safe point ++ rest) = Utf8.encodePoint point ++ decode rest := by
  by_cases isSafe : safe point = true
  · have plain : point ≠ .char '%' := by
      rintro rfl
      simp [escapes] at isSafe
    rw [encodePoint, if_pos isSafe]
    exact decode_cons plain rest
  · rw [encodePoint, if_neg isSafe, decode_escapes]

/-- What was encoded is read as the octets of the text, whatever follows. -/
theorem decode_encode_append (escapes : safe (.char '%') = false) (text rest : Text) :
    decode (encode safe text ++ rest) = Utf8.encode text ++ decode rest := by
  induction text with
  | nil => rfl
  | cons point others ih =>
      calc decode (encode safe (point :: others) ++ rest)
          = decode (encodePoint safe point ++ (encode safe others ++ rest)) := by
            rw [encode, List.flatMap_cons, List.append_assoc, encode]
        _ = Utf8.encodePoint point ++ decode (encode safe others ++ rest) :=
            decode_encodePoint escapes point _
        _ = Utf8.encode (point :: others) ++ decode rest := by
            rw [ih, Utf8.encode, Utf8.encode, List.flatMap_cons, List.append_assoc]

theorem decode_encode (escapes : safe (.char '%') = false) (text : Text) :
    decode (encode safe text) = Utf8.encode text := by
  simpa [decode] using decode_encode_append escapes text []

theorem encode_append (left right : Text) :
    encode safe (left ++ right) = encode safe left ++ encode safe right := by
  rw [encode, encode, encode, List.flatMap_append]

theorem encode_of_safe {text : Text} (allSafe : ∀ point ∈ text, safe point = true) :
    encode safe text = text := by
  induction text with
  | nil => rfl
  | cons point rest ih =>
      have isSafe := allSafe point List.mem_cons_self
      have restSafe := ih fun other member => allSafe other (List.mem_cons_of_mem point member)
      rw [encode] at restSafe ⊢
      rw [List.flatMap_cons, restSafe, encodePoint, if_pos isSafe, List.singleton_append]

end Encoded

theorem decode_append_of_plain {text : Text} (plain : ∀ point ∈ text, point ≠ .char '%')
    (rest : Text) : decode (text ++ rest) = Utf8.encode text ++ decode rest := by
  induction text with
  | nil => rfl
  | cons point others ih =>
      have restPlain := ih fun other member => plain other (List.mem_cons_of_mem point member)
      rw [List.cons_append, decode_cons (plain point List.mem_cons_self), restPlain, Utf8.encode,
        Utf8.encode, List.flatMap_cons, List.append_assoc]

/-- The text that a part of an address writes, if its octets are UTF-8. -/
def readText (part : Text) : Except Flaw Text := Piece.strict (Utf8.pieces false (decode part))

theorem readText_encodeComponent {text : Text} (scalars : ∀ point ∈ text, point.isScalar = true) :
    readText (encodeComponent text) = .ok text := by
  have escapes : isUnreserved (.char '%') = false := by decide
  rw [readText, encodeComponent, decode_encode escapes,
    Utf8.pieces_encode false text (Or.inr scalars), Piece.strict_map_point]

/-- What stands before a component is read together with it. -/
theorem readText_append_encodeComponent {left text : Text}
    (plain : ∀ point ∈ left, point ≠ .char '%')
    (leftScalars : ∀ point ∈ left, point.isScalar = true)
    (scalars : ∀ point ∈ text, point.isScalar = true) :
    readText (left ++ encodeComponent text) = .ok (left ++ text) := by
  have escapes : isUnreserved (.char '%') = false := by decide
  have allScalars : ∀ point ∈ left ++ text, point.isScalar = true := by
    intro point member
    rcases List.mem_append.mp member with inLeft | inText
    · exact leftScalars point inLeft
    · exact scalars point inText
  have octets : decode (left ++ encodeComponent text) = Utf8.encode (left ++ text) := by
    rw [decode_append_of_plain plain, encodeComponent, decode_encode escapes, Utf8.encode,
      Utf8.encode, Utf8.encode, List.flatMap_append]
  rw [readText, octets, Utf8.pieces_encode false _ (Or.inr allScalars), Piece.strict_map_point]

/-- The texts that consist of unreserved signs and of escapes. -/
inductive Escaped : Text → Prop where
  | nil : Escaped []
  | unreserved {point : CodePoint} {rest : Text} :
      isUnreserved point = true → Escaped rest → Escaped (point :: rest)
  | escape {first second : CodePoint} {rest : Text} :
      first.isHexDigit = true → second.isHexDigit = true → Escaped rest →
      Escaped (.char '%' :: first :: second :: rest)

namespace Escaped

theorem append {left right : Text} (leftEscaped : Escaped left) (rightEscaped : Escaped right) :
    Escaped (left ++ right) := by
  induction leftEscaped with
  | nil => exact rightEscaped
  | unreserved isUnreserved _ ih => exact .unreserved isUnreserved ih
  | escape first second _ ih => exact .escape first second ih

theorem of_octets (octets : List UInt8) : Escaped (octets.flatMap Percent.escape) := by
  induction octets with
  | nil => exact .nil
  | cons octet rest ih =>
      have bound := octet.toNat_lt
      have high := hexValue?_hexDigit (show octet.toNat / 16 < 16 by omega)
      have low := hexValue?_hexDigit (show octet.toNat % 16 < 16 by omega)
      exact .escape (by rw [CodePoint.isHexDigit, high]; rfl)
        (by rw [CodePoint.isHexDigit, low]; rfl) ih

/-- A component is spelled with unreserved signs and escapes alone. -/
theorem of_component (text : Text) : Escaped (encodeComponent text) := by
  induction text with
  | nil => exact .nil
  | cons point rest ih =>
      rw [encodeComponent, encode, List.flatMap_cons]
      refine append ?_ ih
      by_cases unreserved : isUnreserved point = true
      · rw [encodePoint, if_pos unreserved]
        exact .unreserved unreserved .nil
      · rw [encodePoint, if_neg unreserved]
        exact of_octets _

theorem sign {text : Text} (escaped : Escaped text) {point : CodePoint}
    (member : point ∈ text) : isUnreserved point = true ∨ point = .char '%' := by
  induction escaped with
  | nil => cases member
  | unreserved unreserved _ ih =>
      rcases List.mem_cons.mp member with rfl | inRest
      · exact Or.inl unreserved
      · exact ih inRest
  | escape first second _ ih =>
      simp only [List.mem_cons] at member
      rcases member with rfl | rfl | rfl | inRest
      · exact Or.inr rfl
      · exact Or.inl (isUnreserved_of_isHexDigit first)
      · exact Or.inl (isUnreserved_of_isHexDigit second)
      · exact ih inRest

end Escaped

end SamlAdmin.Percent
