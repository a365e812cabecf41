import SamlAdmin.Text
import SamlAdmin.Unicode.Ranges

/-!
# Mappings of code points

A mapping replaces single code points, each by one or more others.  Most of them
move by a distance that whole runs of code points share, so a mapping holds the
runs; the others are listed, those with one replacement apart from those with
several.
-/

namespace SamlAdmin

namespace Unicode

/-- A run of code points, every one or every other one from the first to the last,
which all move by the same distance. -/
structure MappingRun where
  first : Nat
  last : Nat
  step : Nat
  distance : Int

/-- Whether a number belongs to a run. -/
def MappingRun.holds (run : MappingRun) (number : Nat) : Bool :=
  run.first ≤ number && number ≤ run.last && (number - run.first) % run.step = 0

/-- What code points are replaced by. -/
structure Mapping where
  runs : List MappingRun
  stretches : List (Nat × List Nat)
  expansions : List (Nat × List Nat)

/-- What a code point is replaced by, if it is replaced. -/
def Mapping.replacement? (mapping : Mapping) (number : Nat) : Option (List Nat) :=
  match mapping.expansions.lookup number with
  | some numbers => some numbers
  | none =>
    match mapping.runs.find? (·.holds number) with
    | some run => some [((number : Int) + run.distance).toNat]
    | none => (lookupStretch mapping.stretches number).map ([·])

/-- What a code point becomes. -/
def Mapping.apply (mapping : Mapping) (number : Nat) : List Nat :=
  (mapping.replacement? number).getD [number]

end Unicode

namespace Text

def numbers (text : Text) : List Nat := text.map CodePoint.toNat

/-- The text with the given numbers; those of no code point are left out. -/
def ofNumbers (numbers : List Nat) : Text := numbers.filterMap CodePoint.ofNat?

def mapped (mapping : Unicode.Mapping) (text : Text) : Text :=
  ofNumbers (text.numbers.flatMap mapping.apply)

end Text

end SamlAdmin
