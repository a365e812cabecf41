import SamlAdmin.Text

/-!
# Text that an encoding cannot write

An encoding need not have octets for every code point: ASCII has none beyond its
range, and UTF-8 has none for a surrogate that stands alone.  A text is refused for
the first run of such code points, named by its place.
-/

namespace SamlAdmin

/-- A run of code points that an encoding has no octets for. -/
structure Unencodable where
  run : Text
  start : Nat
  deriving DecidableEq

namespace Unencodable

/-- The number of a code point as an escape, as short as it fits. -/
def escaped (number : Nat) : Text :=
  if number < 0x100 then ("\\x" : Text) ++ Text.ofHex 2 number
  else if number < 0x10000 then ("\\u" : Text) ++ Text.ofHex 4 number
  else ("\\U" : Text) ++ Text.ofHex 8 number

def message (encoding demand : Text) (fault : Unencodable) : Text :=
  let place : Text := match fault.run with
    | [point] => ("character '" : Text) ++ escaped point.toNat
        ++ ("' in position " : Text) ++ Text.ofNat fault.start
    | run => ("characters in position " : Text) ++ Text.ofNat fault.start ++ ("-" : Text)
        ++ Text.ofNat (fault.start + run.length - 1)
  ("'" : Text) ++ encoding ++ ("' codec can't encode " : Text) ++ place ++ (": " : Text) ++ demand

def asciiMessage : Unencodable → Text := message "ascii" "ordinal not in range(128)"

def utf8Message : Unencodable → Text := message "utf-8" "surrogates not allowed"

/-- The first run of code points in a text that fail a test. -/
def first? (accepts : CodePoint → Bool) (text : Text) : Option Unencodable :=
  let before := text.takeWhile accepts
  match (text.drop before.length).takeWhile (!accepts ·) with
  | [] => none
  | run => some ⟨run, before.length⟩

/-- A text has no refused run exactly when all its code points pass the test. -/
theorem first?_eq_none_iff {accepts : CodePoint → Bool} {text : Text} :
    first? accepts text = none ↔ ∀ point ∈ text, accepts point = true := by
  have cut : text.drop (text.takeWhile accepts).length = text.dropWhile accepts := by
    induction text with
    | nil => rfl
    | cons point rest ih => by_cases accepted : accepts point = true <;> simp [accepted, ih]
  have whole := List.takeWhile_append_dropWhile (p := accepts) (l := text)
  simp only [first?, cut]
  cases remaining : text.dropWhile accepts with
  | nil =>
      have passed := List.all_takeWhile (p := accepts) (l := text)
      rw [remaining, List.append_nil] at whole
      rw [whole, List.all_eq_true] at passed
      simpa using passed
  | cons point rest =>
      have refused : accepts point = false := by
        simpa [remaining] using List.head?_dropWhile_not accepts text
      have member : point ∈ text := by
        rw [← whole, remaining]
        simp
      simp only [List.takeWhile_cons, refused, Bool.not_false, if_true, reduceCtorEq, false_iff]
      intro accepted
      simp [accepted point member] at refused

end Unencodable

end SamlAdmin
