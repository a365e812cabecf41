import SamlAdmin.Proofs.Except
import SamlAdmin.Proofs.Text.Utf8

/-!
# Octets that are read without a flaw

Different octets never stand for the same text: what a strict reader accepts are the
octets that the text it finds is written with.  While the machine is inside a character,
the octets it has read are the beginning of one, whatever it may become.
`Pending.Begins` states this, the first octet establishes it and every further octet
keeps it.
-/

namespace SamlAdmin

theorem CodePoint.toNat_char_ofNat {number : Nat} (valid : number.isValidChar) :
    (CodePoint.char (Char.ofNat number)).toNat = number := by
  rw [Char.ofNat, dif_pos valid]
  rfl

theorem CodePoint.toNat_ofNat? {number : Nat} (bound : number < 0x110000) :
    ((CodePoint.ofNat? number).getD .replacement).toNat = number := by
  rw [ofNat?]
  split
  · next low => exact toNat_char_ofNat (Or.inl low)
  · split
    · next notLow below =>
        have offset : number - 0xD800 < 0x800 := by omega
        simp only [Option.getD_some, toNat, Fin.ofNat, Nat.mod_eq_of_lt offset]
        omega
    · next notLow notHalf =>
        exact toNat_char_ofNat (Or.inr ⟨by omega, bound⟩)

namespace Utf8

section Encoding

variable {point : CodePoint} {number : Nat}

theorem encodePoint_two (isNumber : point.toNat = number) (least : 0x80 ≤ number)
    (most : number < 0x800) :
    encodePoint point =
      [UInt8.ofNat (0xC0 + number / 64), UInt8.ofNat (0x80 + number % 64)] := by
  simp only [encodePoint, isNumber]
  rw [if_neg (by omega), if_pos most]
  simp

theorem encodePoint_three (isNumber : point.toNat = number) (least : 0x800 ≤ number)
    (most : number < 0x10000) :
    encodePoint point =
      [UInt8.ofNat (0xE0 + number / 4096), UInt8.ofNat (0x80 + number / 64 % 64),
       UInt8.ofNat (0x80 + number % 64)] := by
  simp only [encodePoint, isNumber]
  rw [if_neg (by omega), if_neg (by omega), if_pos most]
  simp

theorem encodePoint_four (isNumber : point.toNat = number) (least : 0x10000 ≤ number) :
    encodePoint point =
      [UInt8.ofNat (0xF0 + number / 262144), UInt8.ofNat (0x80 + number / 4096 % 64),
       UInt8.ofNat (0x80 + number / 64 % 64), UInt8.ofNat (0x80 + number % 64)] := by
  simp only [encodePoint, isNumber]
  rw [if_neg (by omega), if_neg (by omega), if_neg (by omega)]
  simp

end Encoding

/-- Octets that complete a character: as many as are missing, the first of them within
bounds and the others any octets that may go on with a character. -/
inductive Completes : (missing low high : Nat) → List UInt8 → Prop where
  | nil {low high : Nat} : Completes 0 low high []
  | cons {missing low high : Nat} {octet : UInt8} {rest : List UInt8} :
      low ≤ octet.toNat → octet.toNat ≤ high → Completes missing 0x80 0xBF rest →
      Completes (missing + 1) low high (octet :: rest)

/-- The bits of a character, collected from its further octets. -/
def collect (bits : Nat) (octets : List UInt8) : Nat :=
  octets.foldl (fun bits octet => 64 * bits + octet.toNat % 64) bits

/-- Whether octets that were read begin every character that the machine may find next. -/
structure Pending.Begins (pending : Pending) (octets : List UInt8) : Prop where
  more : 0 < pending.missing
  whole : ∀ tail, Completes pending.missing pending.low pending.high tail →
    octets ++ tail =
      encodePoint ((CodePoint.ofNat? (collect pending.bits tail)).getD .replacement)

section FirstOctet

variable {pending : Pending} {octet : UInt8}

theorem eq_ofNat (given : UInt8) {number : Nat} (same : given.toNat = number) :
    given = UInt8.ofNat number := by
  rw [← same, UInt8.ofNat_toNat]

theorem begins_two (missing : pending.missing = 1) (first : octet.toNat = 0xC0 + pending.bits)
    (least : 2 ≤ pending.bits) (most : pending.bits < 32) (isLow : 0x80 ≤ pending.low)
    (isHigh : pending.high ≤ 0xBF) : pending.Begins [octet] := by
  refine ⟨by omega, ?_⟩
  intro tail completes
  rw [missing] at completes
  obtain _ | ⟨atLeast, atMost, _ | _⟩ := completes
  next second =>
    have number : collect pending.bits [second] = 64 * pending.bits + second.toNat % 64 := rfl
    rw [number, encodePoint_two (CodePoint.toNat_ofNat? (by omega)) (by omega) (by omega)]
    rw [← eq_ofNat octet (by omega), ← eq_ofNat second (by omega)]
    rfl

theorem begins_three (missing : pending.missing = 2) (first : octet.toNat = 0xE0 + pending.bits)
    (most : pending.bits < 16) (shortest : pending.bits = 0 → 0xA0 ≤ pending.low)
    (isLow : 0x80 ≤ pending.low) (isHigh : pending.high ≤ 0xBF) : pending.Begins [octet] := by
  refine ⟨by omega, ?_⟩
  intro tail completes
  rw [missing] at completes
  obtain _ | ⟨atLeast, atMost, _ | ⟨restLeast, restMost, _ | _⟩⟩ := completes
  next second third =>
    have number : collect pending.bits [second, third] =
        64 * (64 * pending.bits + second.toNat % 64) + third.toNat % 64 := rfl
    rw [number, encodePoint_three (CodePoint.toNat_ofNat? (by omega)) (by omega) (by omega)]
    rw [← eq_ofNat octet (by omega), ← eq_ofNat second (by omega),
      ← eq_ofNat third (by omega)]
    rfl

theorem begins_four (missing : pending.missing = 3) (first : octet.toNat = 0xF0 + pending.bits)
    (most : pending.bits < 5) (shortest : pending.bits = 0 → 0x90 ≤ pending.low)
    (last : pending.bits = 4 → pending.high ≤ 0x8F) (isLow : 0x80 ≤ pending.low)
    (isHigh : pending.high ≤ 0xBF) : pending.Begins [octet] := by
  refine ⟨by omega, ?_⟩
  intro tail completes
  rw [missing] at completes
  obtain _ | ⟨atLeast, atMost, _ | ⟨restLeast, restMost, _ | ⟨endLeast, endMost, _ | _⟩⟩⟩ :=
    completes
  next second third fourth =>
    have number : collect pending.bits [second, third, fourth] =
        64 * (64 * (64 * pending.bits + second.toNat % 64) + third.toNat % 64) +
          fourth.toNat % 64 := rfl
    rw [number, encodePoint_four (CodePoint.toNat_ofNat? (by omega)) (by omega)]
    rw [← eq_ofNat octet (by omega), ← eq_ofNat second (by omega),
      ← eq_ofNat third (by omega), ← eq_ofNat fourth (by omega)]
    rfl

variable {halves : Bool} {offset : Nat}

theorem begins_of_begin (begun : begin halves offset octet = .inr pending) :
    pending.Begins [octet] := by
  unfold begin at begun
  simp only at begun
  split at begun
  · cases begun
  split at begun
  · cases begun
  split at begun
  · cases begun
    apply begins_two rfl <;> simp only <;> omega
  split at begun
  · cases begun
    apply begins_three rfl <;> simp only <;> omega
  split at begun
  · cases begun
    apply begins_three rfl <;> simp only <;> (try split) <;> omega
  split at begun
  · cases begun
    apply begins_three rfl <;> simp only <;> omega
  split at begun
  · cases begun
    apply begins_four rfl <;> simp only <;> omega
  split at begun
  · cases begun
    apply begins_four rfl <;> simp only <;> omega
  split at begun
  · cases begun
    apply begins_four rfl <;> simp only <;> omega
  · cases begun

theorem encodePoint_of_begin {point : CodePoint}
    (begun : begin halves offset octet = .inl (.point point)) : encodePoint point = [octet] := by
  unfold begin at begun
  simp only at begun
  split at begun
  · next ascii =>
      cases begun
      have number : (CodePoint.char (Char.ofNat octet.toNat)).toNat = octet.toNat :=
        CodePoint.toNat_char_ofNat (Or.inl (by omega))
      simp only [encodePoint, number, if_pos ascii, UInt8.ofNat_toNat]
  all_goals
    repeat' split at begun
    all_goals cases begun

end FirstOctet

/-- An octet within bounds takes a character one octet further. -/
theorem Pending.Begins.step {pending : Pending} {octets : List UInt8} {octet : UInt8}
    (begins : pending.Begins octets) (low : pending.low ≤ octet.toNat)
    (high : octet.toNat ≤ pending.high) (more : 1 < pending.missing) :
    Pending.Begins
      { pending with
        taken := pending.taken + 1, missing := pending.missing - 1, low := 0x80, high := 0xBF,
        bits := 64 * pending.bits + octet.toNat % 64 }
      (octets ++ [octet]) where
  more := Nat.sub_pos_of_lt more
  whole := by
    intro tail completes
    have missing : pending.missing = pending.missing - 1 + 1 := by omega
    have longer : Completes pending.missing pending.low pending.high (octet :: tail) := by
      rw [missing]
      exact .cons low high completes
    rw [List.append_assoc]
    exact begins.whole _ longer

/-- An octet within bounds finishes a character when no other is missing. -/
theorem Pending.Begins.finish {pending : Pending} {octets : List UInt8} {octet : UInt8}
    (begins : pending.Begins octets) (low : pending.low ≤ octet.toNat)
    (high : octet.toNat ≤ pending.high) (last : pending.missing ≤ 1) :
    octets ++ [octet] = encodePoint
      ((CodePoint.ofNat? (64 * pending.bits + octet.toNat % 64)).getD .replacement) := by
  have missing : pending.missing = 0 + 1 := by
    have more := begins.more
    omega
  have completes : Completes pending.missing pending.low pending.high [octet] := by
    rw [missing]
    exact .cons low high .nil
  exact begins.whole _ completes

/-- The octets in which a run finds no flaw are those that write the text it finds,
together with the octets of the character that the run began with. -/
theorem encode_of_run {halves : Bool} {offset : Nat} {octets : List UInt8} {text : Text} :
    (Piece.strict (run halves offset none octets) = .ok text → octets = encode text) ∧
    ∀ (pending : Pending) (taken : List UInt8), pending.Begins taken →
      Piece.strict (run halves offset (some pending) octets) = .ok text →
      taken ++ octets = encode text := by
  induction octets generalizing offset text with
  | nil =>
      constructor
      · intro read
        cases read
        rfl
      · intro pending taken _ read
        rw [run, Pending.flaw] at read
        split at read <;> cases read
  | cons octet rest ih =>
      constructor
      · intro read
        rw [run] at read
        cases begun : begin halves offset octet with
        | inl piece =>
            rw [begun] at read
            cases piece with
            | flaw value => cases read
            | point value =>
                obtain ⟨others, readOthers, rfl⟩ := map_eq_ok_iff.mp read
                rw [encode, List.flatMap_cons, encodePoint_of_begin begun]
                exact congrArg (octet :: ·) (ih.1 readOthers)
        | inr pending =>
            rw [begun] at read
            exact ih.2 pending [octet] (begins_of_begin begun) read
      · intro pending taken begins read
        rw [run] at read
        split at read
        · next inRange =>
            obtain ⟨low, high⟩ := inRange
            split at read
            · next last =>
                obtain ⟨others, readOthers, rfl⟩ := map_eq_ok_iff.mp read
                rw [encode, List.flatMap_cons, ← begins.finish low high last, List.append_assoc]
                exact congrArg (fun tail => taken ++ octet :: tail) (ih.1 readOthers)
            · next more =>
                have whole := ih.2 _ _ (begins.step low high (by omega)) read
                rwa [List.append_assoc] at whole
        · rw [Pending.flaw] at read
          split at read <;> cases read

/-- What a strict reader accepts is written with the octets that it read. -/
theorem encode_of_strict {halves : Bool} {octets : List UInt8} {text : Text}
    (read : Piece.strict (pieces halves octets) = .ok text) : octets = encode text :=
  encode_of_run.1 read

end Utf8

end SamlAdmin
