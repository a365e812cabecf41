import SamlAdmin.Proofs.Text.Length
import SamlAdmin.Proofs.Text.Utf8Strict
import SamlAdmin.Proofs.Url.Percent

/-!
# Escapes in a part of an address

A percent sign with two hexadecimal digits after it is an escape, whoever wrote it.
Decoding takes an escape for one octet and everything else for what it is, so a part is
read as itself exactly if it holds no escape.  An encoder that leaves percent signs alone
changes neither the escapes of a part nor what the part is read as.
-/

namespace SamlAdmin.Percent

/-- Whether a text begins with two hexadecimal digits, so that a percent sign before it
opens an escape. -/
def opensEscape : Text → Bool
  | first :: second :: _ => first.isHexDigit && second.isHexDigit
  | _ => false

def hasEscape : Text → Bool
  | [] => false
  | point :: rest => (decide (point = .char '%') && opensEscape rest) || hasEscape rest

/-- Whether a code point stands for itself before a text. -/
def IsLiteral (point : CodePoint) (rest : Text) : Prop :=
  point = .char '%' → opensEscape rest = false

theorem hasEscape_of_isLiteral {point : CodePoint} {rest : Text} (literal : IsLiteral point rest) :
    hasEscape (point :: rest) = hasEscape rest := by
  rw [hasEscape]
  by_cases percent : point = .char '%'
  · rw [literal percent, Bool.and_false, Bool.false_or]
  · rw [decide_eq_false percent, Bool.false_and, Bool.false_or]

theorem decode_of_opensEscape {first second : CodePoint} (high : first.isHexDigit = true)
    (low : second.isHexDigit = true) (rest : Text) :
    ∃ octet, decode (.char '%' :: first :: second :: rest) = octet :: decode rest := by
  obtain ⟨upper, isUpper⟩ := Option.isSome_iff_exists.mp high
  obtain ⟨lower, isLower⟩ := Option.isSome_iff_exists.mp low
  refine ⟨UInt8.ofNat (16 * upper + lower), ?_⟩
  rw [decode, isUpper, isLower]

theorem decode_of_isLiteral {point : CodePoint} {rest : Text} (literal : IsLiteral point rest) :
    decode (point :: rest) = Utf8.encodePoint point ++ decode rest := by
  by_cases percent : point = .char '%'
  · subst percent
    have closed : opensEscape rest = false := literal rfl
    cases rest with
    | nil => rfl
    | cons first others =>
        cases others with
        | nil => rfl
        | cons second others =>
            have noOctet : ∀ high low, first.hexValue? = some high →
                second.hexValue? = some low → False := by
              intro high low isHigh isLow
              rw [opensEscape, CodePoint.isHexDigit, CodePoint.isHexDigit, isHigh, isLow] at closed
              cases closed
            rw [decode]
            split
            · next high low isHigh isLow => exact (noOctet high low isHigh isLow).elim
            · rfl
  · exact decode_cons percent rest

/-- A text is taken apart into escapes and literal code points. -/
theorem escape_induction {motive : Text → Prop} (nil : motive [])
    (escape : ∀ first second rest, first.isHexDigit = true → second.isHexDigit = true →
      motive rest → motive (.char '%' :: first :: second :: rest))
    (literal : ∀ point rest, IsLiteral point rest → motive rest → motive (point :: rest))
    (text : Text) : motive text := by
  induction text using decode.induct with
  | case1 => exact nil
  | case2 first second rest high low isLow isHigh ih =>
      exact escape first second rest (Option.isSome_iff_exists.mpr ⟨high, isHigh⟩)
        (Option.isSome_iff_exists.mpr ⟨low, isLow⟩) ih
  | case3 first second rest noOctet ih =>
      apply literal _ _ _ ih
      intro _
      cases opened : opensEscape (first :: second :: rest) with
      | false => rfl
      | true =>
          rw [opensEscape, Bool.and_eq_true] at opened
          obtain ⟨high, isHigh⟩ := Option.isSome_iff_exists.mp opened.1
          obtain ⟨low, isLow⟩ := Option.isSome_iff_exists.mp opened.2
          exact (noOctet high low isHigh isLow).elim
  | case4 point rest short ih =>
      apply literal _ _ _ ih
      intro percent
      cases rest with
      | nil => rfl
      | cons first others =>
          cases others with
          | nil => rfl
          | cons second others => exact (short first second others percent rfl).elim

/-! ## What is read -/

theorem decode_of_noEscape {text : Text} (clean : hasEscape text = false) :
    decode text = Utf8.encode text := by
  induction text using escape_induction with
  | nil => rfl
  | escape first second rest high low ih => simp [hasEscape, opensEscape, high, low] at clean
  | literal point rest literal ih =>
      rw [hasEscape_of_isLiteral literal] at clean
      rw [decode_of_isLiteral literal, Utf8.encode_cons, ih clean]

theorem length_decode_le (text : Text) : (decode text).length ≤ (Utf8.encode text).length := by
  induction text using escape_induction with
  | nil => exact Nat.le_refl 0
  | escape first second rest high low ih =>
      obtain ⟨octet, decoded⟩ := decode_of_opensEscape high low rest
      have percent := Utf8.length_encodePoint_pos (.char '%')
      simp only [decoded, Utf8.encode_cons, List.length_cons, List.length_append]
      omega
  | literal point rest literal ih =>
      rw [decode_of_isLiteral literal, Utf8.encode_cons, List.length_append, List.length_append]
      exact Nat.add_le_add_left ih _

/-- Decoding an escape makes a text shorter. -/
theorem length_decode_lt {text : Text} (escaped : hasEscape text = true) :
    (decode text).length < (Utf8.encode text).length := by
  induction text using escape_induction with
  | nil => cases escaped
  | escape first second rest high low ih =>
      obtain ⟨octet, decoded⟩ := decode_of_opensEscape high low rest
      have percent := Utf8.length_encodePoint_pos (.char '%')
      have digit := Utf8.length_encodePoint_pos first
      have shorter := length_decode_le rest
      simp only [decoded, Utf8.encode_cons, List.length_cons, List.length_append]
      omega
  | literal point rest literal ih =>
      rw [hasEscape_of_isLiteral literal] at escaped
      rw [decode_of_isLiteral literal, Utf8.encode_cons, List.length_append, List.length_append]
      exact Nat.add_lt_add_left (ih escaped) _

/-- What a part is read as is written with the octets that the part is decoded to. -/
theorem decode_of_readText {part text : Text} (read : readText part = .ok text) :
    decode part = Utf8.encode text :=
  Utf8.encode_of_strict read

/-- Unicode text is read as itself exactly if there is no escape in it. -/
theorem readText_self_iff {text : Text} (unicode : ∀ point ∈ text, point.isScalar = true) :
    readText text = .ok text ↔ hasEscape text = false := by
  constructor
  · intro read
    cases escaped : hasEscape text with
    | false => rfl
    | true =>
        have shorter := length_decode_lt escaped
        rw [decode_of_readText read] at shorter
        exact absurd shorter (Nat.lt_irrefl _)
  · intro clean
    rw [readText, decode_of_noEscape clean, Utf8.pieces_encode false text (Or.inr unicode),
      Piece.strict_map_point]

/-! ## Encoders that leave percent signs alone -/

section Encoded

variable {safe : CodePoint → Bool}

theorem encodePoint_of_notSafe {point : CodePoint} (isUnsafe : safe point = false) :
    ∃ others, encodePoint safe point = .char '%' :: others := by
  rw [encodePoint, isUnsafe]
  cases octets : Utf8.encodePoint point with
  | nil =>
      have nonempty := Utf8.length_encodePoint_pos point
      rw [octets] at nonempty
      cases nonempty
  | cons octet rest => exact ⟨_, rfl⟩

theorem encode_cons_of_safe {point : CodePoint} (isSafe : safe point = true) (rest : Text) :
    encode safe (point :: rest) = point :: encode safe rest := by
  rw [encode, List.flatMap_cons, encodePoint, if_pos isSafe]
  rfl

theorem encode_cons_of_notSafe {point : CodePoint} (isUnsafe : safe point = false) (rest : Text) :
    encode safe (point :: rest) =
      (Utf8.encodePoint point).flatMap escape ++ encode safe rest := by
  rw [encode, List.flatMap_cons, encodePoint, isUnsafe]
  rfl

/-- An encoder neither opens nor closes an escape. -/
theorem opensEscape_encode
    (digits : ∀ point : CodePoint, point.isHexDigit = true → safe point = true) (text : Text) :
    opensEscape (encode safe text) = opensEscape text := by
  have noDigit : ∀ {point : CodePoint}, safe point = false → point.isHexDigit = false := by
    intro point isUnsafe
    cases digit : point.isHexDigit with
    | false => rfl
    | true => exact absurd (isUnsafe.symm.trans (digits point digit)) (by decide)
  have noPercent : (CodePoint.char '%').isHexDigit = false := by decide
  cases text with
  | nil => rfl
  | cons first rest =>
      cases isSafe : safe first with
      | false =>
          obtain ⟨others, spelled⟩ := encodePoint_of_notSafe isSafe
          have left : opensEscape (encode safe (first :: rest)) = false := by
            rw [encode, List.flatMap_cons, spelled]
            cases others with
            | nil => cases List.flatMap (encodePoint safe) rest <;> simp [opensEscape, noPercent]
            | cons second others => simp [opensEscape, noPercent]
          rw [left]
          cases rest with
          | nil => rfl
          | cons second others => simp [opensEscape, noDigit isSafe]
      | true =>
          rw [encode_cons_of_safe isSafe]
          cases rest with
          | nil => rfl
          | cons second others =>
              cases nextSafe : safe second with
              | true => rw [encode_cons_of_safe nextSafe, opensEscape, opensEscape]
              | false =>
                  obtain ⟨tail, spelled⟩ := encodePoint_of_notSafe nextSafe
                  rw [encode, List.flatMap_cons, spelled]
                  simp [opensEscape, noPercent, noDigit nextSafe]

theorem decode_encode_of_percent (percent : safe (.char '%') = true)
    (digits : ∀ point : CodePoint, point.isHexDigit = true → safe point = true) (text : Text) :
    decode (encode safe text) = decode text := by
  induction text using escape_induction with
  | nil => rfl
  | escape first second rest high low ih =>
      rw [encode_cons_of_safe percent, encode_cons_of_safe (digits first high),
        encode_cons_of_safe (digits second low)]
      obtain ⟨upper, isUpper⟩ := Option.isSome_iff_exists.mp high
      obtain ⟨lower, isLower⟩ := Option.isSome_iff_exists.mp low
      rw [decode, decode, isUpper, isLower, ih]
  | literal point rest literal ih =>
      rw [decode_of_isLiteral literal]
      cases isSafe : safe point with
      | false => rw [encode_cons_of_notSafe isSafe, decode_escapes, ih]
      | true =>
          have stillLiteral : IsLiteral point (encode safe rest) := by
            intro isPercent
            rw [opensEscape_encode digits, literal isPercent]
          rw [encode_cons_of_safe isSafe, decode_of_isLiteral stillLiteral, ih]

theorem encode_join {separator : CodePoint} (isSafe : safe separator = true)
    (parts : List Text) :
    encode safe (Text.join [separator] parts) =
      Text.join [separator] (parts.map (encode safe)) := by
  induction parts with
  | nil => rfl
  | cons part others ih =>
      cases others with
      | nil => rfl
      | cons next others =>
          have between : encode safe [separator] = [separator] := encode_cons_of_safe isSafe []
          rw [Text.join, List.map_cons, List.map_cons, Text.join, ← List.map_cons, ← ih]
          rw [encode, List.flatMap_append, List.flatMap_append]
          exact congrArg (fun middle => encode safe part ++ middle ++ _) between

/-- A sign that is in no escape is not brought in by encoding. -/
theorem notMem_encode {sign : CodePoint} (apart : ∀ octet, sign ∉ escape octet) {text : Text}
    (clean : sign ∉ text) : sign ∉ encode safe text := by
  intro member
  obtain ⟨point, isPoint, inSpelling⟩ := List.mem_flatMap.mp member
  rw [encodePoint] at inSpelling
  split at inSpelling
  · rw [List.mem_singleton] at inSpelling
    subst inSpelling
    exact clean isPoint
  · obtain ⟨octet, _, inEscape⟩ := List.mem_flatMap.mp inSpelling
    exact apart octet inEscape

end Encoded

end SamlAdmin.Percent
