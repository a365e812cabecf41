import SamlAdmin.Text

/-!
# Punycode

A label of a host name is sent in ASCII.  Punycode writes the ASCII part of a label
first, and after a hyphen where each other code point has to be put in.  The other
code points go in by increasing number, those of one number from left to right.  A
number and a place make one count of steps from the insertion before, and the count
is written with digits whose weights adapt to the counts written so far.

`Punycode.encode` and `Punycode.decode` share the weights: `threshold` and `adapt`.
-/

namespace SamlAdmin.Punycode

/-- The letter or numeral of a digit below 36. -/
def digitSign (digit : Nat) : CodePoint :=
  if digit < 26 then .char (Char.ofNat (0x61 + digit)) else .char (Char.ofNat (0x16 + digit))

/-- The digit of a letter in either case or of a numeral. -/
def digitOf? (point : CodePoint) : Option Nat :=
  let number := point.toNat
  if 0x61 ≤ number && number ≤ 0x7A then some (number - 0x61)
  else if 0x41 ≤ number && number ≤ 0x5A then some (number - 0x41)
  else if 0x30 ≤ number && number ≤ 0x39 then some (number - 0x30 + 26)
  else none

/-- The least digit that does not end a count, at a place of the count.  Places are
numbered 36, 72, 108 and so on. -/
def threshold (bias place : Nat) : Nat :=
  if place ≤ bias then 1 else min 26 (place - bias)

theorem threshold_pos (bias place : Nat) : 0 < threshold bias place := by
  unfold threshold
  split <;> omega

/-- How many places a scaled count needs, as the bias that fits them. -/
def scale (count bias : Nat) : Nat :=
  if 455 < count then scale (count / 35) (bias + 36)
  else bias + 36 * count / (count + 38)
termination_by count

/-- The bias after a count was written for the insertion that makes a label `length`
long.  The first count is usually much greater than the others. -/
def adapt (isFirst : Bool) (count length : Nat) : Nat :=
  let damped := if isFirst then count / 700 else count / 2
  scale (damped + damped / length) 0

/-- The bias before the first count. -/
def firstBias : Nat := 72

/-- The number that counting begins at: the first one beyond ASCII. -/
def firstNumber : Nat := 0x80

/-- The digits of a count from a place on. -/
def writeCount (bias place count : Nat) : Text :=
  let least := threshold bias place
  if count < least then [digitSign count]
  else
    digitSign (least + (count - least) % (36 - least))
      :: writeCount bias (place + 36) ((count - least) / (36 - least))
termination_by count
decreasing_by
  have positive := threshold_pos bias place
  have quotient := Nat.div_le_self (count - threshold bias place) (36 - threshold bias place)
  omega

/-- Read a count from a place on, where a step of this place weighs `weight`.  The
answer has what is left of the text. -/
def readCount (bias : Nat) : (place weight : Nat) → Text → Option (Nat × Text)
  | _, _, [] => none
  | place, weight, point :: rest =>
    let least := threshold bias place
    match digitOf? point with
    | none => none
    | some digit =>
      if digit < least then some (digit * weight, rest)
      else (readCount bias (place + 36) (weight * (36 - least)) rest).map fun (count, rest) =>
        (digit * weight + count, rest)

/-- What is left after a count is shorter than the text it was read from. -/
theorem length_of_readCount {bias place weight count : Nat} {text rest : Text}
    (read : readCount bias place weight text = some (count, rest)) :
    rest.length < text.length := by
  induction text generalizing place weight count with
  | nil => simp [readCount] at read
  | cons point others ih =>
    rw [readCount] at read
    split at read
    · simp at read
    · split at read
      · simp only [Option.some.injEq, Prod.mk.injEq] at read
        simp [read.2]
      · simp only [Option.map_eq_some_iff, Prod.exists, Prod.mk.injEq] at read
        obtain ⟨later, left, readLater, -, same⟩ := read
        subst same
        have shorter := ih readLater
        simp only [List.length_cons]
        omega

/-- Where writing or reading stands between two insertions: the number and the place
that the next count begins at, the length of the label so far, and the bias. -/
structure Progress where
  number : Nat
  place : Nat
  length : Nat
  bias : Nat
  isFirst : Bool

/-- Where writing or reading begins, after the ASCII part. -/
def Progress.start (length : Nat) : Progress := ⟨firstNumber, 0, length, firstBias, true⟩

/-- The steps from where writing stands to an insertion. -/
def Progress.countTo (progress : Progress) (number place : Nat) : Nat :=
  (number - progress.number) * (progress.length + 1) + place - progress.place

/-- Where writing or reading stands after an insertion at the end of a count. -/
def Progress.after (progress : Progress) (count number place : Nat) : Progress :=
  ⟨number, place + 1, progress.length + 1,
    adapt progress.isFirst count (progress.length + 1), false⟩

/-- The insertions that make a label from its ASCII part: each code point with its
place in the label as it is then. -/
def insertions (label : Text) : List (Nat × Nat) :=
  let numbers := label.map CodePoint.toNat
  let places := numbers.zipIdx.map fun (number, index) =>
    (number, (numbers.take index).countP (· ≤ number))
  (places.filter (firstNumber ≤ ·.1)).mergeSort fun left right => left.1 ≤ right.1

/-- Write the counts of insertions. -/
def writeInsertions (progress : Progress) : List (Nat × Nat) → Text
  | [] => []
  | (number, place) :: rest =>
    let count := progress.countTo number place
    writeCount progress.bias 36 count
      ++ writeInsertions (progress.after count number place) rest

/-- A label in ASCII. -/
def encode (label : Text) : Text :=
  let ascii := label.filter CodePoint.isAscii
  (if ascii.isEmpty then [] else ascii ++ [.char '-'])
    ++ writeInsertions (.start ascii.length) (insertions label)

/-- Read insertions and carry them out on a label. -/
def readInsertions (progress : Progress) (label : Text) (text : Text) : Option Text :=
  if text.isEmpty then some label
  else
    match _read : readCount progress.bias 36 1 text with
    | none => none
    | some (count, rest) =>
      let steps := progress.place + count
      let number := progress.number + steps / (progress.length + 1)
      let place := steps % (progress.length + 1)
      match CodePoint.ofNat? number with
      | some (.char value) =>
        readInsertions (progress.after count number place)
          (label.take place ++ .char value :: label.drop place) rest
      | _ => none
termination_by text.length
decreasing_by exact length_of_readCount _read

/-- Read insertions and carry them out on a label, up to the first count that is
broken off.  A number beyond the last code point stands for a question mark. -/
def salvageInsertions (progress : Progress) (label : Text) (text : Text) : Text :=
  match _read : readCount progress.bias 36 1 text with
  | none => label
  | some (count, rest) =>
    let steps := progress.place + count
    let reached := progress.number + steps / (progress.length + 1)
    let number := if 0x10FFFF < reached then '?'.toNat else reached
    let place := steps % (progress.length + 1)
    let point := (CodePoint.ofNat? number).getD .replacement
    salvageInsertions (progress.after count number place)
      (label.take place ++ point :: label.drop place) rest
termination_by text.length
decreasing_by exact length_of_readCount _read

/-- What can be read of a label that is given by its ASCII part and the counts after
it. -/
def salvage (ascii counts : Text) : Text := salvageInsertions (.start ascii.length) ascii counts

/-- The label that an ASCII text writes, if it writes one.  A last hyphen divides it even where
nothing stands before it. -/
def read (text : Text) : Option Text :=
  let counts := text.afterLast (.char '-')
  let ascii := text.take (text.length - counts.length - 1)
  if ascii.all CodePoint.isAscii then readInsertions (.start ascii.length) ascii counts else none

/-- The label that an ASCII text writes, if it writes one.  A hyphen with nothing before it is no
sign of its own and spoils the text. -/
def decode (text : Text) : Option Text :=
  let counts := text.afterLast (.char '-')
  let ascii := text.take (text.length - counts.length - 1)
  let counts := if ascii.isEmpty then text else counts
  if ascii.all CodePoint.isAscii then readInsertions (.start ascii.length) ascii counts
  else none

end SamlAdmin.Punycode
