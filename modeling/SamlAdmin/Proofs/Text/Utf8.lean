import SamlAdmin.Text.Utf8

/-!
# Reading back what UTF-8 wrote

The machine that reads octets finds in the octets of a text exactly its code points,
without a flaw.  Characters are found by every reader; a surrogate is found by the
readers that accept halves.
-/

namespace SamlAdmin

namespace CodePoint

theorem toNat_lt (point : CodePoint) : point.toNat < 0x110000 := by
  cases point with
  | char value =>
      have valid := value.valid
      simp only [toNat, Char.toNat]
      rcases valid with low | ⟨_, high⟩
      · exact Nat.lt_trans low (by decide)
      · exact high
  | surrogate offset =>
      have bound := offset.isLt
      simp only [toNat]
      omega

theorem toNat_of_isScalar {point : CodePoint} (scalar : point.isScalar = true) :
    point.toNat < 0xD800 ∨ 0xE000 ≤ point.toNat := by
  cases point with
  | char value =>
      rcases value.valid with low | ⟨high, _⟩
      · exact Or.inl low
      · exact Or.inr high
  | surrogate offset => simp [isScalar] at scalar

@[simp] theorem ofNat?_toNat (point : CodePoint) : ofNat? point.toNat = some point := by
  have bound := toNat_lt point
  cases point with
  | char value =>
      have range := @toNat_of_isScalar (.char value) rfl
      simp only [toNat] at bound range ⊢
      rcases range with low | high
      · simp [ofNat?, low]
      · have notLow : ¬value.toNat < 0xD800 := by omega
        have notHalf : ¬value.toNat < 0xE000 := by omega
        simp [ofNat?, notLow, notHalf, bound]
  | surrogate offset =>
      have inRange : 0xD800 + offset.val < 0xE000 := by omega
      have notLow : ¬0xD800 + offset.val < 0xD800 := by omega
      simp only [toNat, ofNat?, if_neg notLow, if_pos inRange, Nat.add_sub_cancel_left]
      simp

end CodePoint

namespace Utf8

variable {number : Nat}

private theorem toNat_octet {value : Nat} (small : value < 256) :
    (UInt8.ofNat value).toNat = value :=
  UInt8.toNat_ofNat_of_lt' small

/-- The first octet of two announces one more, and carries the upper bits. -/
theorem begin_two (halves : Bool) (offset : Nat) (least : 0x80 ≤ number)
    (most : number < 0x800) :
    begin halves offset (UInt8.ofNat (0xC0 + number / 64)) =
      .inr ⟨offset, UInt8.ofNat (0xC0 + number / 64), 1, 1, 0x80, 0xBF, number / 64⟩ := by
  have octet : (UInt8.ofNat (0xC0 + number / 64)).toNat = 0xC0 + number / 64 :=
    toNat_octet (by omega)
  simp only [begin, octet]
  rw [if_neg (by omega), if_neg (by omega), if_pos (by omega)]
  simp

/-- The first octet of three announces two more.  The range of the next octet keeps
out longer spellings of small numbers, and surrogates where halves are not accepted. -/
theorem begin_three (halves : Bool) (offset : Nat) (least : 0x800 ≤ number)
    (most : number < 0x10000)
    (accepted : halves = true ∨ number < 0xD800 ∨ 0xE000 ≤ number) :
    ∃ low high, begin halves offset (UInt8.ofNat (0xE0 + number / 4096)) =
        .inr ⟨offset, UInt8.ofNat (0xE0 + number / 4096), 1, 2, low, high, number / 4096⟩ ∧
      low ≤ 0x80 + number / 64 % 64 ∧ 0x80 + number / 64 % 64 ≤ high := by
  have octet : (UInt8.ofNat (0xE0 + number / 4096)).toNat = 0xE0 + number / 4096 :=
    toNat_octet (by omega)
  simp only [begin, octet]
  rw [if_neg (by omega), if_neg (by omega), if_neg (by omega)]
  by_cases shortest : number / 4096 = 0
  · rw [if_pos (by omega)]
    exact ⟨_, _, by rw [shortest], by omega, by omega⟩
  rw [if_neg (by omega)]
  by_cases surrogates : number / 4096 = 0xD
  · rw [if_pos (by omega)]
    refine ⟨_, _, by rw [surrogates], by omega, ?_⟩
    rcases accepted with accepted | accepted
    · simp only [accepted, if_true]
      omega
    · split <;> omega
  · rw [if_neg (by omega), if_pos (by omega)]
    exact ⟨0x80, 0xBF, by simp, by omega, by omega⟩

/-- The first octet of four announces three more.  The range of the next octet keeps
out longer spellings and numbers beyond the last code point. -/
theorem begin_four (halves : Bool) (offset : Nat) (least : 0x10000 ≤ number)
    (most : number < 0x110000) :
    ∃ low high, begin halves offset (UInt8.ofNat (0xF0 + number / 262144)) =
        .inr ⟨offset, UInt8.ofNat (0xF0 + number / 262144), 1, 3, low, high,
          number / 262144⟩ ∧
      low ≤ 0x80 + number / 4096 % 64 ∧ 0x80 + number / 4096 % 64 ≤ high := by
  have octet : (UInt8.ofNat (0xF0 + number / 262144)).toNat = 0xF0 + number / 262144 :=
    toNat_octet (by omega)
  simp only [begin, octet]
  rw [if_neg (by omega), if_neg (by omega), if_neg (by omega), if_neg (by omega),
    if_neg (by omega), if_neg (by omega)]
  by_cases shortest : number / 262144 = 0
  · rw [if_pos (by omega)]
    exact ⟨_, _, by rw [shortest], by omega, by omega⟩
  rw [if_neg (by omega)]
  by_cases inner : number / 262144 < 4
  · rw [if_pos (by omega)]
    exact ⟨0x80, 0xBF, by simp, by omega, by omega⟩
  · have last : number / 262144 = 4 := by omega
    rw [if_neg (by omega), if_pos (by omega)]
    exact ⟨_, _, by rw [last], by omega, by omega⟩

/-- An octet in the expected range goes on with a character that has more octets. -/
theorem run_continue (halves : Bool) (offset : Nat) (pending : Pending) (rest : List UInt8)
    {value : Nat} (small : value < 256) (low : pending.low ≤ value) (high : value ≤ pending.high)
    (more : 1 < pending.missing) :
    run halves offset (some pending) (UInt8.ofNat value :: rest) =
      run halves (offset + 1)
        (some { pending with
          taken := pending.taken + 1, missing := pending.missing - 1,
          low := 0x80, high := 0xBF, bits := 64 * pending.bits + value % 64 }) rest := by
  rw [run]
  simp only [toNat_octet small]
  rw [if_pos ⟨low, high⟩, if_neg (by omega)]

/-- An octet in the expected range ends a character that misses one octet. -/
theorem run_finish (halves : Bool) (offset : Nat) (pending : Pending) (rest : List UInt8)
    {value : Nat} (small : value < 256) (low : pending.low ≤ value) (high : value ≤ pending.high)
    (last : pending.missing = 1) :
    run halves offset (some pending) (UInt8.ofNat value :: rest) =
      .point ((CodePoint.ofNat? (64 * pending.bits + value % 64)).getD .replacement) ::
        run halves (offset + 1) none rest := by
  rw [run]
  simp only [toNat_octet small]
  rw [if_pos ⟨low, high⟩, if_pos (by omega)]

private theorem run_begin {halves : Bool} {offset : Nat} {octet : UInt8} {pending : Pending}
    (begun : begin halves offset octet = .inr pending) (rest : List UInt8) :
    run halves offset none (octet :: rest) = run halves (offset + 1) (some pending) rest := by
  rw [run, begun]

/-- The machine reads the octets of a code point as that code point. -/
theorem run_encodePoint (halves : Bool) (offset : Nat) (point : CodePoint)
    (rest : List UInt8) (accepted : halves = true ∨ point.isScalar = true) :
    ∃ next, run halves offset none (encodePoint point ++ rest) =
      .point point :: run halves next none rest := by
  have bound := point.toNat_lt
  have readBack := point.ofNat?_toNat
  have range : halves = true ∨ point.toNat < 0xD800 ∨ 0xE000 ≤ point.toNat :=
    accepted.imp_right CodePoint.toNat_of_isScalar
  have noBits : Nat.pow 2 0 = 1 := rfl
  have sixBits : Nat.pow 2 6 = 64 := rfl
  have twelveBits : Nat.pow 2 12 = 4096 := rfl
  simp only [encodePoint, noBits, sixBits, twelveBits, Nat.div_one]
  generalize point.toNat = number at *
  by_cases one : number < 0x80
  · have octet : (UInt8.ofNat number).toNat = number := toNat_octet (by omega)
    have low : number < 0xD800 := by omega
    have same : CodePoint.char (Char.ofNat number) = point := by
      simpa [CodePoint.ofNat?, low] using readBack
    refine ⟨offset + 1, ?_⟩
    rw [if_pos one, List.cons_append, List.nil_append, run]
    simp [begin, octet, one, same]
  by_cases two : number < 0x800
  · have begun := begin_two halves offset (Nat.le_of_not_lt one) two
    have bits : 64 * (number / 64) + (0x80 + number % 64) % 64 = number := by omega
    refine ⟨offset + 2, ?_⟩
    rw [if_neg one, if_pos two, List.cons_append, run_begin begun, List.cons_append,
      run_finish _ _ _ _ (by omega) (by simp) (by simp only; omega) rfl, List.nil_append]
    simp only [bits, readBack, Option.getD_some]
  by_cases three : number < 0x10000
  · obtain ⟨low, high, begun, above, below⟩ :=
      begin_three halves offset (Nat.le_of_not_lt two) three range
    have bits : 64 * (64 * (number / 4096) + (0x80 + number / 64 % 64) % 64) +
        (0x80 + number % 64) % 64 = number := by omega
    refine ⟨offset + 3, ?_⟩
    rw [if_neg one, if_neg two, if_pos three, List.cons_append, run_begin begun,
      List.cons_append, run_continue _ _ _ _ (by omega) above below (by simp), List.cons_append,
      run_finish _ _ _ _ (by omega) (by simp) (by simp only; omega) rfl, List.nil_append]
    simp only [bits, readBack, Option.getD_some]
  · obtain ⟨low, high, begun, above, below⟩ :=
      begin_four halves offset (Nat.le_of_not_lt three) bound
    have bits : 64 * (64 * (64 * (number / 262144) + (0x80 + number / 4096 % 64) % 64) +
        (0x80 + number / 64 % 64) % 64) + (0x80 + number % 64) % 64 = number := by omega
    refine ⟨offset + 4, ?_⟩
    rw [if_neg one, if_neg two, if_neg three, List.cons_append, run_begin begun,
      List.cons_append, run_continue _ _ _ _ (by omega) above below (by simp), List.cons_append,
      run_continue _ _ _ _ (by omega) (by simp) (by simp only; omega) (by simp),
      List.cons_append,
      run_finish _ _ _ _ (by omega) (by simp) (by simp only; omega) rfl, List.nil_append]
    simp only [bits, readBack, Option.getD_some]

/-- The octets of a text are read as its code points, from any offset. -/
theorem run_encode (halves : Bool) (offset : Nat) (text : Text)
    (accepted : halves = true ∨ ∀ point ∈ text, point.isScalar = true) :
    run halves offset none (encode text) = text.map .point := by
  induction text generalizing offset with
  | nil => rfl
  | cons point rest ih =>
      have acceptedPoint := accepted.imp_right fun scalars => scalars point List.mem_cons_self
      have acceptedRest := accepted.imp_right fun scalars other member =>
        scalars other (List.mem_cons_of_mem point member)
      obtain ⟨next, read⟩ :=
        run_encodePoint halves offset point (encode rest) acceptedPoint
      calc run halves offset none (encode (point :: rest))
          = run halves offset none (encodePoint point ++ encode rest) := rfl
        _ = .point point :: run halves next none (encode rest) := read
        _ = (point :: rest).map .point := by rw [ih next acceptedRest, List.map_cons]

/-- Decoding is the inverse of encoding wherever every code point can be read. -/
theorem pieces_encode (halves : Bool) (text : Text)
    (accepted : halves = true ∨ ∀ point ∈ text, point.isScalar = true) :
    pieces halves (encode text) = text.map .point :=
  run_encode halves 0 text accepted

end Utf8

namespace Piece

@[simp] theorem strict_map_point (text : Text) : strict (text.map .point) = .ok text := by
  induction text with
  | nil => rfl
  | cons point rest ih =>
      rw [List.map_cons, strict, ih]
      rfl

@[simp] theorem replaced_map_point (text : Text) : replaced (text.map .point) = text := by
  simp [replaced, Function.comp_def]

end Piece

end SamlAdmin
