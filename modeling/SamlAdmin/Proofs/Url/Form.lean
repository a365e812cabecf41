import SamlAdmin.Proofs.Text.Split
import SamlAdmin.Proofs.Text.Unicode
import SamlAdmin.Proofs.Url.Percent
import SamlAdmin.Url.Form
import SamlAdmin.Url.Target

/-!
# Reading back query parameters

A written query holds only signs that a query may hold, so no further escaping
touches it.  The separators occur in it only as separators, and each part is a percent
encoding in which a space is kept and spelled as a plus sign.
-/

namespace SamlAdmin.Form

/-! ## The pairs of parameters -/

@[simp] theorem pairs_nil : pairs [] = [] := rfl

@[simp] theorem pairs_text (name text : Text) (others : List (Text × Value)) :
    pairs ((name, .str text) :: others) = (name, text) :: pairs others := rfl

@[simp] theorem pairs_int (name : Text) (number : Int) (others : List (Text × Value)) :
    pairs ((name, .int number) :: others) = (name, Text.ofInt number) :: pairs others := by
  simp [pairs, parameterPairs, scalarText, Value.plain, Value.literal]

/-! ## The signs of a query -/

/-- The signs of a written name or text. -/
def isPartSign (point : CodePoint) : Bool :=
  Percent.isUnreserved point || point = .char '%' || point = .char '+'

theorem isPartSign_of_mem {part : Text} {point : CodePoint} (member : point ∈ encodePart part) :
    isPartSign point = true := by
  obtain ⟨source, _, inSource⟩ := List.mem_flatMap.mp member
  by_cases space : source = .char ' '
  · rw [encodePoint, if_pos space, List.mem_singleton] at inSource
    subst inSource
    decide
  · rw [encodePoint, if_neg space] at inSource
    have inComponent : point ∈ Percent.encodeComponent [source] := by
      simpa [Percent.encodeComponent, Percent.encode] using inSource
    rcases (Percent.Escaped.of_component [source]).sign inComponent with unreserved | rfl
    · simp [isPartSign, unreserved]
    · decide

theorem isAscii_of_isPartSign {point : CodePoint} (sign : isPartSign point = true) :
    point.isAscii = true := by
  simp only [isPartSign, Bool.or_eq_true, decide_eq_true_eq] at sign
  rcases sign with (unreserved | rfl) | rfl
  · exact Percent.isAscii_of_isUnreserved unreserved
  all_goals decide

theorem isQuerySign_of_isPartSign {point : CodePoint} (sign : isPartSign point = true) :
    Target.isQuerySign point = true :=
  CodePoint.forall_ascii
    (motive := fun point => isPartSign point = true → Target.isQuerySign point = true)
    (by decide) (isAscii_of_isPartSign sign) sign

theorem isQuerySign_of_mem_encode {pairs : List (Text × Text)} {point : CodePoint}
    (member : point ∈ encode pairs) : Target.isQuerySign point = true := by
  rcases Text.mem_of_mem_join member with separator | ⟨part, isPart, inPart⟩
  · rw [List.mem_singleton] at separator
    subst separator
    decide
  obtain ⟨pair, _, rfl⟩ := List.mem_map.mp isPart
  rw [encodePair, List.mem_append, List.mem_cons] at inPart
  rcases inPart with inName | rfl | inText
  · exact isQuerySign_of_isPartSign (isPartSign_of_mem inName)
  · decide
  · exact isQuerySign_of_isPartSign (isPartSign_of_mem inText)

/-! ## Reading back -/

/-- The signs that stand for themselves once a plus sign is read as a space. -/
def isKept (point : CodePoint) : Bool := Percent.isUnreserved point || point = .char ' '

/-- A plus sign read as a space. -/
def spaced (point : CodePoint) : CodePoint := if point = .char '+' then .char ' ' else point

theorem spaced_encodePoint (point : CodePoint) :
    (encodePoint point).map spaced = Percent.encodePoint isKept point := by
  by_cases space : point = .char ' '
  · subst space
    rfl
  · have noPlus : ∀ sign ∈ Percent.encodePoint Percent.isUnreserved point, spaced sign = sign := by
      intro sign member
      have inComponent : sign ∈ Percent.encodeComponent [point] := by
        simpa [Percent.encodeComponent, Percent.encode] using member
      have notPlus : sign ≠ .char '+' := by
        rintro rfl
        rcases (Percent.Escaped.of_component [point]).sign inComponent with unreserved | isPercent
        · exact absurd unreserved (by decide)
        · exact absurd isPercent (by decide)
      exact if_neg notPlus
    have kept : isKept point = Percent.isUnreserved point := by simp [isKept, space]
    rw [encodePoint, if_neg space, List.map_congr_left noPlus, List.map_id', Percent.encodePoint,
      Percent.encodePoint, kept]

theorem spaced_encodePart (part : Text) :
    (encodePart part).map spaced = Percent.encode isKept part := by
  rw [encodePart, List.map_flatMap, Percent.encode]
  simp only [spaced_encodePoint]

theorem decodePart_encodePart (part : Text) :
    decodePart (encodePart part) = Utf8.encode part := by
  have escapes : isKept (.char '%') = false := by decide
  calc decodePart (encodePart part)
      = Percent.decode ((encodePart part).map spaced) := rfl
    _ = Percent.decode (Percent.encode isKept part) := by rw [spaced_encodePart]
    _ = Utf8.encode part := Percent.decode_encode escapes part

theorem decodeText_encodePart {part : Text} (unicode : part.IsUnicode) :
    decodeText (encodePart part) = part := by
  rw [decodeText, decodePart_encodePart, Utf8.pieces_encode false part (Or.inr unicode)]
  exact Piece.replaced_map_point part

theorem notMem_encodePart {sign : CodePoint} (other : isPartSign sign = false) (part : Text) :
    sign ∉ encodePart part := by
  intro member
  rw [isPartSign_of_mem member] at other
  cases other

theorem fault?_eq_none_iff {pairs : List (Text × Text)} :
    fault? pairs = none ↔ ∀ pair ∈ pairs, pair.1.IsUnicode ∧ pair.2.IsUnicode := by
  simp only [fault?, List.findSome?_eq_none_iff, Option.or_eq_none_iff, Text.isUnicode_iff_fault?]

theorem fault?_cons_iff {name text : Text} {others : List (Text × Text)} :
    fault? ((name, text) :: others) = none ↔
      (name.IsUnicode ∧ text.IsUnicode) ∧ fault? others = none := by
  rw [fault?_eq_none_iff, fault?_eq_none_iff, List.forall_mem_cons]

theorem fault?_singleton_iff {name text : Text} :
    fault? [(name, text)] = none ↔ name.IsUnicode ∧ text.IsUnicode := by
  rw [fault?_cons_iff]
  exact and_iff_left rfl

/-- A pair as a reader of queries takes it: cut at the first equals sign. -/
theorem cut_encodePair {pair : Text × Text} (nameUnicode : pair.1.IsUnicode)
    (textUnicode : pair.2.IsUnicode) :
    (decodeText (Text.beforeFirst (.char '=') (encodePair pair)),
      decodeText ((encodePair pair).drop
        ((Text.beforeFirst (.char '=') (encodePair pair)).length + 1))) = pair := by
  obtain ⟨name, text⟩ := pair
  have noEquals : (.char '=' : CodePoint) ∉ encodePart name := notMem_encodePart (by decide) name
  have before : Text.beforeFirst (.char '=') (encodePair (name, text)) = encodePart name :=
    Text.beforeFirst_append_cons noEquals _
  have after : (encodePair (name, text)).drop ((encodePart name).length + 1) = encodePart text := by
    simp [encodePair, List.drop_append]
  rw [before, after, decodeText_encodePart nameUnicode, decodeText_encodePart textUnicode]

theorem notMem_encodePair (pair : Text × Text) : (.char '&' : CodePoint) ∉ encodePair pair := by
  rw [encodePair, List.mem_append, List.mem_cons]
  rintro (inName | same | inText)
  · exact notMem_encodePart (by decide) _ inName
  · exact absurd same (by decide)
  · exact notMem_encodePart (by decide) _ inText

/-- The pairs of a query come back from what was written, if UTF-8 can write them. -/
theorem decode_encode {pairs : List (Text × Text)} (encodable : fault? pairs = none) :
    decode (encode pairs) = pairs := by
  rw [fault?_eq_none_iff] at encodable
  cases pairs with
  | nil => rfl
  | cons first others =>
      have cut : (encode (first :: others)).splitOn (.char '&') =
          (first :: others).map encodePair := by
        apply Text.splitOn_join (by simp)
        intro part isPart
        obtain ⟨pair, _, rfl⟩ := List.mem_map.mp isPart
        exact notMem_encodePair pair
      have nonempty : ∀ part ∈ (first :: others).map encodePair, (!part.isEmpty) = true := by
        intro part isPart
        obtain ⟨pair, _, rfl⟩ := List.mem_map.mp isPart
        simp [encodePair]
      rw [decode, cut, List.filter_eq_self.mpr nonempty, List.map_map]
      refine (List.map_congr_left ?_).trans (List.map_id' _)
      intro pair isPair
      obtain ⟨nameUnicode, textUnicode⟩ := encodable pair isPair
      exact cut_encodePair nameUnicode textUnicode

end SamlAdmin.Form
