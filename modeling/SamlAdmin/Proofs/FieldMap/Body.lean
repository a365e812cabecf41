import SamlAdmin.Proofs.FieldMap.Insert
import SamlAdmin.Proofs.Json.RoundTrip
import SamlAdmin.Proofs.Text.Unicode

/-!
# Writing the body of a field map

A leaf is a text, a flag, the mark of a cleared field or a list of certificates, and
each of them has a JSON text.  So a body that stands for a field map can always be
written, and what is written is Unicode text exactly if the map holds nothing else.  A
proper map has no key twice in one group, so its body is also read back.
-/

namespace SamlAdmin

def Leaf.texts : Leaf → List Text
  | .text value => [value]
  | .flag _ => []
  | .cleared => []
  | .certificates value => value.map (·.pem)

namespace FieldMap

/-- The texts that a map holds: its keys and the texts of its leaves. -/
def texts : FieldMap → List Text
  | .empty => []
  | .leaf key value rest => key :: (value.texts ++ texts rest)
  | .group key children rest => key :: (texts children ++ texts rest)

def leafTexts : FieldMap → List Text
  | .empty => []
  | .leaf _ value rest => value.texts ++ leafTexts rest
  | .group _ children rest => leafTexts children ++ leafTexts rest

/-- Whether all texts of a map are Unicode text. -/
def IsUnicode (fields : FieldMap) : Prop := ∀ text ∈ fields.texts, text.IsUnicode

theorem isUnicode_leaf_iff {key : Text} {value : Leaf} {rest : FieldMap} :
    IsUnicode (.leaf key value rest) ↔
      key.IsUnicode ∧ (∀ held ∈ value.texts, held.IsUnicode) ∧ rest.IsUnicode := by
  simp only [IsUnicode, texts, List.forall_mem_cons, List.forall_mem_append]

theorem isUnicode_group_iff {key : Text} {children rest : FieldMap} :
    IsUnicode (.group key children rest) ↔
      key.IsUnicode ∧ children.IsUnicode ∧ rest.IsUnicode := by
  simp only [IsUnicode, texts, List.forall_mem_cons, List.forall_mem_append]

theorem AllKeys.isUnicode_iff {fields : FieldMap} (keys : fields.AllKeys Text.IsUnicode) :
    fields.IsUnicode ↔ ∀ text ∈ fields.leafTexts, text.IsUnicode := by
  induction fields with
  | empty => exact Iff.rfl
  | leaf key value rest ih =>
      rw [isUnicode_leaf_iff, ih keys.2, leafTexts, List.forall_mem_append]
      exact and_iff_right keys.1
  | group key children rest childrenIh restIh =>
      obtain ⟨keyUnicode, childKeys, restKeys⟩ := keys
      rw [isUnicode_group_iff, childrenIh childKeys, restIh restKeys, leafTexts,
        List.forall_mem_append]
      exact and_iff_right keyUnicode

end FieldMap

namespace Json

open Text (IsUnicode isUnicode_append_iff isUnicode_cons_iff)

theorem isUnicode_escapePoint_iff (point : CodePoint) :
    IsUnicode (escapePoint point) ↔ point.isScalar = true := by
  unfold escapePoint
  split
  case h_8 =>
    split
    case isTrue control =>
      cases point with
      | char value =>
          have hex : IsUnicode (Text.ofHex 4 (CodePoint.toNat (.char value))) := .ofChars _
          exact iff_of_true (isUnicode_append_iff.mpr ⟨.ofString "\\u", hex⟩) rfl
      | surrogate offset =>
          have high : 0x20 ≤ CodePoint.toNat (.surrogate offset) :=
            Nat.le_trans (by decide) (Nat.le_add_right 0xD800 _)
          exact absurd control (Nat.not_lt.mpr high)
    case isFalse => exact List.forall_mem_singleton
  all_goals exact iff_of_true (.ofString _) rfl

theorem isUnicode_printString_iff {string : Text} :
    IsUnicode (printString string) ↔ IsUnicode string := by
  rw [printString, isUnicode_cons_iff, isUnicode_append_iff,
    Text.isUnicode_flatMap_iff isUnicode_escapePoint_iff]
  exact and_iff_left (.singleton '"')

theorem isUnicode_member_iff {key text : Text} :
    IsUnicode (printString key ++ (":" : Text) ++ text) ↔ IsUnicode key ∧ IsUnicode text := by
  rw [isUnicode_append_iff, isUnicode_append_iff, isUnicode_printString_iff]
  exact and_congr_left fun _ => and_iff_left (.ofString ":")

theorem isUnicode_bracketed_iff {opening closing : Char} {texts : List Text} :
    IsUnicode (.char opening :: (Text.join "," texts ++ [.char closing])) ↔
      ∀ text ∈ texts, IsUnicode text := by
  rw [isUnicode_cons_iff, isUnicode_append_iff, Text.isUnicode_join_iff (.ofString ",")]
  exact and_iff_left (.singleton closing)

theorem printItems_certificates (certificates : List Certificate) :
    ∃ texts, printItems .compact (certificates.map Leaf.certificateBody) = .ok texts ∧
      ((∀ text ∈ texts, IsUnicode text) ↔
        ∀ certificate ∈ certificates, IsUnicode certificate.pem) := by
  induction certificates with
  | nil => exact ⟨[], rfl, by simp⟩
  | cons certificate rest ih =>
      obtain ⟨texts, printed, same⟩ := ih
      let member : Text := printString "x509Certificate" ++ (":" : Text) ++ printString certificate.pem
      let written : Text := .char '\x7b' :: (Text.join "," [member] ++ [.char '\x7d'])
      have first : print .compact (Leaf.certificateBody certificate) = .ok written := rfl
      have firstSame : IsUnicode written ↔ IsUnicode certificate.pem := by
        refine isUnicode_bracketed_iff.trans ?_
        rw [List.forall_mem_singleton, isUnicode_member_iff, isUnicode_printString_iff]
        exact and_iff_right (.ofString _)
      refine ⟨written :: texts, ?_, ?_⟩
      · rw [List.map_cons, printItems, first, printed]
        rfl
      · rw [List.forall_mem_cons, List.forall_mem_cons, firstSame, same]

theorem print_leaf (leaf : Leaf) :
    ∃ text, print .compact leaf.toBody = .ok text ∧
      (IsUnicode text ↔ ∀ held ∈ leaf.texts, IsUnicode held) := by
  cases leaf with
  | text value =>
      refine ⟨printString value, rfl, ?_⟩
      rw [isUnicode_printString_iff, Leaf.texts, List.forall_mem_singleton]
  | flag value =>
      cases value with
      | false => exact ⟨"false", rfl, iff_of_true (.ofString _) (List.forall_mem_nil _)⟩
      | true => exact ⟨"true", rfl, iff_of_true (.ofString _) (List.forall_mem_nil _)⟩
  | cleared => exact ⟨"null", rfl, iff_of_true (.ofString _) (List.forall_mem_nil _)⟩
  | certificates value =>
      obtain ⟨texts, printed, same⟩ := printItems_certificates value
      refine ⟨.char '[' :: (Text.join "," texts ++ [.char ']']), ?_, ?_⟩
      · rw [Leaf.toBody, print, printed]
        rfl
      · rw [isUnicode_bracketed_iff, same, Leaf.texts, List.forall_mem_map]

theorem printMembers_fields (fields : FieldMap) :
    ∃ texts, printMembers .compact fields.members = .ok texts ∧
      ((∀ text ∈ texts, IsUnicode text) ↔ fields.IsUnicode) := by
  induction fields with
  | empty => exact ⟨[], rfl, by simp [FieldMap.IsUnicode, FieldMap.texts]⟩
  | leaf key value rest ih =>
      obtain ⟨text, printed, textSame⟩ := print_leaf value
      obtain ⟨texts, restPrinted, restSame⟩ := ih
      refine ⟨(printString key ++ (":" : Text) ++ text) :: texts, ?_, ?_⟩
      · rw [FieldMap.members, printMembers, printed, restPrinted]
        rfl
      · rw [List.forall_mem_cons, isUnicode_member_iff, textSame, restSame, FieldMap.isUnicode_leaf_iff,
          and_assoc]
  | group key children rest childrenIh restIh =>
      obtain ⟨childTexts, childrenPrinted, childrenSame⟩ := childrenIh
      obtain ⟨texts, restPrinted, restSame⟩ := restIh
      let written : Text := .char '\x7b' :: (Text.join "," childTexts ++ [.char '\x7d'])
      refine ⟨(printString key ++ (":" : Text) ++ written) :: texts, ?_, ?_⟩
      · rw [FieldMap.members, printMembers, print, childrenPrinted, restPrinted]
        rfl
      · rw [List.forall_mem_cons, isUnicode_member_iff, isUnicode_bracketed_iff, childrenSame,
          restSame, FieldMap.isUnicode_group_iff, and_assoc]

/-- The body of a field map always has a JSON text, and this is Unicode text exactly if
the map holds nothing else. -/
theorem print_toBody (fields : FieldMap) :
    ∃ text, print .compact fields.toBody = .ok text ∧ (IsUnicode text ↔ fields.IsUnicode) := by
  obtain ⟨texts, printed, same⟩ := printMembers_fields fields
  refine ⟨.char '\x7b' :: (Text.join "," texts ++ [.char '\x7d']), ?_, ?_⟩
  · rw [FieldMap.toBody, print, printed]
    rfl
  · rw [isUnicode_bracketed_iff, same]

end Json

namespace FieldMap

theorem plain_leaf (leaf : Leaf) : Json.Plain leaf.toBody := by
  cases leaf with
  | text value => exact .str value
  | flag value => exact .bool value
  | cleared => exact .null
  | certificates value =>
      refine .list fun item member => ?_
      obtain ⟨certificate, _, rfl⟩ := List.mem_map.mp member
      refine .object (fun field isField => ?_) (by simp)
      rw [List.mem_singleton.mp isField]
      exact .str certificate.pem

theorem Proper.plain_members {fields : FieldMap} (proper : fields.Proper) :
    ∀ member ∈ fields.members, Json.Plain member.2 := by
  induction fields with
  | empty => exact List.forall_mem_nil _
  | leaf key value rest ih =>
      rw [members, List.forall_mem_cons]
      exact ⟨plain_leaf value, ih proper.2.2⟩
  | group key children rest childrenIh restIh =>
      obtain ⟨_, _, _, childrenProper, restProper⟩ := proper
      rw [members, List.forall_mem_cons]
      refine ⟨.object (childrenIh childrenProper) ?_, restIh restProper⟩
      rw [map_fst_members]
      exact childrenProper.nodup_names

/-- The body of a proper map comes back from its JSON text. -/
theorem Proper.plain_toBody {fields : FieldMap} (proper : fields.Proper) :
    Json.Plain fields.toBody := by
  refine .object proper.plain_members ?_
  rw [map_fst_members]
  exact proper.nodup_names

end FieldMap

end SamlAdmin
