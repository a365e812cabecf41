import SamlAdmin.Proofs.Except
import SamlAdmin.Resource.Reading

/-!
# The expected shape of a body

A reading goes through a value and collects problems.  What it accepts can be said
without it: which kinds of values count as a text, a flag or a list, and which members of
an object have to be of which kind.  A resource is read exactly if it has this shape.
-/

namespace SamlAdmin

/-! ## Shapes -/

namespace Value

/-- Whether a value is a text, or octets that write one. -/
def IsText : Value → Prop
  | .str _ => True
  | .bytes octets => ∃ text, Piece.strict (Utf8.pieces false octets) = .ok text
  | _ => False

/-- Whether a text is a word for a flag, in any case of its ASCII letters. -/
def IsFlagWord (word : Text) : Prop := word.asciiLower ∈ Reading.yesWords ++ Reading.noWords

/-- Whether a value is a flag, a number that stands for one, or a word for one. -/
def IsFlag : Value → Prop
  | .bool _ => True
  | .int number => number = 0 ∨ number = 1
  | .float number => number.toInt? = some 0 ∨ number.toInt? = some 1
  | .str word => IsFlagWord word
  | .bytes octets => ∃ word, Piece.strict (Utf8.pieces false octets) = .ok word ∧ IsFlagWord word
  | _ => False

/-- Whether a value is a list of items of a kind. -/
def IsListOf (good : Value → Prop) : Value → Prop
  | .list items => ∀ item ∈ items, good item
  | .tuple items => ∀ item ∈ items, good item
  | _ => False

/-- Whether a value is an object in which the members that count for some fields are each
of the kind of their field. -/
def IsSectionWith (fields : List (Reading.FieldName × (Value → Prop))) : Value → Prop
  | .object members => ∀ field ∈ fields, ∀ key value,
      Reading.effective field.1 members = some (key, value) → field.2 value
  | _ => False

def IsCertificate : Value → Prop
  | .certificate _ => True
  | value => IsSectionWith [(⟨"x509Certificate", "x509_certificate"⟩, IsText)] value

def IsIdpSection : Value → Prop :=
  IsSectionWith
    [(⟨"idpEntityId", "idp_entity_id"⟩, IsText), (⟨"ssoUrl", "sso_url"⟩, IsText),
     (⟨"idpCertificates", "idp_certificates"⟩, IsListOf IsCertificate),
     (⟨"signRequest", "sign_request"⟩, IsFlag)]

def IsSpSection : Value → Prop :=
  IsSectionWith
    [(⟨"spEntityId", "sp_entity_id"⟩, IsText), (⟨"callbackUri", "callback_uri"⟩, IsText)]

def IsResource : Value → Prop :=
  IsSectionWith
    [(⟨"name", "name"⟩, IsText), (⟨"idpConfig", "idp_config"⟩, IsIdpSection),
     (⟨"spConfig", "sp_config"⟩, IsSpSection), (⟨"displayName", "display_name"⟩, IsText),
     (⟨"enabled", "enabled"⟩, IsFlag)]

def IsResourceList : Value → Prop :=
  IsSectionWith
    [(⟨"inboundSamlConfigs", "inbound_saml_configs"⟩, IsListOf IsResource),
     (⟨"nextPageToken", "next_page_token"⟩, fun token => token = .null ∨ IsText token)]

theorem IsSectionWith.kind_eq {fields : List (Reading.FieldName × (Value → Prop))}
    {value : Value} (shaped : IsSectionWith fields value) : value.kind = "dict" := by
  cases value with
  | object members => rfl
  | _ => exact absurd shaped id

theorem IsSectionWith.eq_empty {fields : List (Reading.FieldName × (Value → Prop))}
    {value : Value} (shaped : IsSectionWith fields value) (absent : value.isTruthy = false) :
    value = .object [] := by
  cases value with
  | object members =>
      cases members with
      | nil => rfl
      | cons member others => cases absent
  | _ => exact absurd shaped id

end Value

/-! ## Readings that succeed -/

namespace Reading

variable {α β : Type}

/-- Whether a reading found no problem. -/
def Succeeds (reading : Reading α) : Prop := ∃ result, reading = .ok result

@[simp] theorem succeeds_ok (result : α) : Succeeds (.ok result) := ⟨result, rfl⟩

@[simp] theorem not_succeeds_refuse (kind : ProblemKind) : ¬Succeeds (refuse kind : Reading α) := by
  intro succeeds
  obtain ⟨result, read⟩ := succeeds
  cases read

@[simp] theorem succeeds_map_iff {reading : Reading α} {change : α → β} :
    Succeeds (reading.map change) ↔ Succeeds reading := by
  constructor
  · intro succeeds
    obtain ⟨_, changed⟩ := succeeds
    obtain ⟨result, read, _⟩ := map_eq_ok_iff.mp changed
    exact ⟨result, read⟩
  · intro succeeds
    obtain ⟨result, read⟩ := succeeds
    exact ⟨change result, map_eq_ok_iff.mpr ⟨result, read, rfl⟩⟩

@[simp] theorem succeeds_within_iff {step : PlaceStep} {reading : Reading α} :
    Succeeds (reading.within step) ↔ Succeeds reading := by
  simp only [Succeeds, within, mapError_eq_ok_iff]

@[simp] theorem succeeds_both_iff {left : Reading α} {right : Reading β} :
    Succeeds (left.both right) ↔ Succeeds left ∧ Succeeds right := by
  cases left with
  | error problems => cases right <;> simp [Succeeds, both]
  | ok first => cases right <;> simp [Succeeds, both]

/-- Whether a reading accepts exactly the values of a kind. -/
def Accepts (read : Value → Reading α) (good : Value → Prop) : Prop :=
  ∀ value, (read value).Succeeds ↔ good value

section Parts

variable {read : Value → Reading α} {good : Value → Prop}

/-- A field is read where the member that counts for it, if there is one, is accepted. -/
theorem Accepts.field (accepts : Accepts read good) (name : FieldName) (default : α)
    (members : List (Text × Value)) :
    (Reading.field name read default members).Succeeds ↔
      ∀ key value, effective name members = some (key, value) → good value := by
  rw [Reading.field]
  cases found : effective name members with
  | none => simp
  | some member =>
      obtain ⟨key, value⟩ := member
      simp only [succeeds_within_iff, accepts value]
      constructor
      · intro accepted other given same
        cases same
        exact accepted
      · intro accepted
        exact accepted key value rfl

theorem Accepts.items (accepts : Accepts read good) (position : Nat) (values : List Value) :
    (Reading.items read position values).Succeeds ↔ ∀ value ∈ values, good value := by
  induction values generalizing position with
  | nil => simp [Reading.items]
  | cons value values ih =>
      rw [Reading.items, succeeds_map_iff, succeeds_both_iff, succeeds_within_iff,
        accepts value, ih, List.forall_mem_cons]

theorem Accepts.list (accepts : Accepts read good) :
    Accepts (Reading.list read) (Value.IsListOf good) := by
  intro value
  cases value with
  | list items => exact accepts.items 0 items
  | tuple items => exact accepts.items 0 items
  | _ => exact iff_of_false (not_succeeds_refuse _) id

theorem Accepts.optional (accepts : Accepts read good) :
    Accepts (Reading.optional read) (fun value => value = .null ∨ good value) := by
  intro value
  cases value with
  | null => simp [Reading.optional]
  | _ => simp [Reading.optional, accepts _]

end Parts

theorem accepts_text : Accepts text Value.IsText := by
  intro value
  cases value with
  | str word => simp [text, Value.IsText]
  | bytes octets =>
      simp only [text, Value.IsText]
      cases Piece.strict (Utf8.pieces false octets) with
      | ok word => simp
      | error flaw => simp
  | _ => exact iff_of_false (not_succeeds_refuse _) id

theorem succeeds_flagWord_iff {word : Text} : (flagWord word).Succeeds ↔ Value.IsFlagWord word := by
  simp only [flagWord, Value.IsFlagWord, List.mem_append, List.contains_iff_mem]
  by_cases yes : word.asciiLower ∈ yesWords
  · simp [yes]
  · by_cases no : word.asciiLower ∈ noWords
    · simp [yes, no]
    · simp [yes, no]

theorem succeeds_flagNumber_iff {number : Int} :
    (flagNumber number).Succeeds ↔ number = 0 ∨ number = 1 := by
  rw [flagNumber]
  by_cases zero : number = 0
  · simp [zero]
  · by_cases one : number = 1
    · simp [one]
    · simp [zero, one]

theorem isSome_toChars?_of_isFlagWord {word : Text} (isWord : Value.IsFlagWord word) :
    word.toChars?.isSome = true := by
  have plain : ∀ listed ∈ yesWords ++ noWords, ∀ point ∈ listed, point.isScalar = true := by decide
  have scalars : ∀ point ∈ word, point.isScalar = true := by
    intro point member
    have lowered := plain _ isWord point.asciiLower (List.mem_map_of_mem member)
    cases point with
    | char value => rfl
    | surrogate offset => exact lowered
  clear isWord
  induction word with
  | nil => rfl
  | cons point rest ih =>
      rw [List.forall_mem_cons] at scalars
      cases point with
      | char value =>
          rw [Text.toChars?, Option.isSome_map]
          exact ih scalars.2
      | surrogate offset => cases scalars.1

theorem accepts_flag : Accepts flag Value.IsFlag := by
  intro value
  cases value with
  | bool given => simp [flag, Value.IsFlag]
  | int number =>
      simp only [flag, Value.IsFlag]
      by_cases inRange : -wordLimit ≤ number ∧ number < wordLimit
      · rw [if_pos inRange, succeeds_flagNumber_iff]
      · rw [if_neg inRange]
        refine iff_of_false (not_succeeds_refuse _) ?_
        rintro (rfl | rfl)
        · exact inRange (by decide)
        · exact inRange (by decide)
  | float number =>
      simp only [flag, Value.IsFlag]
      cases number.toInt? with
      | none => simp
      | some integer =>
          simp only [Option.some.injEq]
          by_cases inRange : -wordLimit < integer ∧ integer < wordLimit
          · rw [if_pos inRange, succeeds_flagNumber_iff]
          · rw [if_neg inRange]
            refine iff_of_false (not_succeeds_refuse _) ?_
            rintro (rfl | rfl)
            · exact inRange (by decide)
            · exact inRange (by decide)
  | str word =>
      simp only [flag, Value.IsFlag]
      by_cases chars : word.toChars?.isSome = true
      · rw [if_pos chars, succeeds_flagWord_iff]
      · rw [if_neg chars]
        refine iff_of_false (not_succeeds_refuse _) ?_
        intro isWord
        exact chars (isSome_toChars?_of_isFlagWord isWord)
  | bytes octets =>
      simp only [flag, Value.IsFlag]
      cases Piece.strict (Utf8.pieces false octets) with
      | ok word => simp [succeeds_flagWord_iff]
      | error flaw => simp
  | _ => exact iff_of_false (not_succeeds_refuse _) id

/-! ## Sections -/

theorem accepts_sectionOf {name : Text} {read : List (Text × Value) → Reading α}
    {fields : List (FieldName × (Value → Prop))}
    (reads : ∀ members, (read members).Succeeds ↔ ∀ field ∈ fields, ∀ key value,
      effective field.1 members = some (key, value) → field.2 value) :
    Accepts (sectionOf name read) (Value.IsSectionWith fields) := by
  intro value
  cases value with
  | object members => exact reads members
  | _ => exact iff_of_false (not_succeeds_refuse _) id

theorem accepts_certificate : Accepts Certificate.read Value.IsCertificate := by
  have accepts : Accepts
      (sectionOf "IdpCertificate" fun members =>
        (field ⟨"x509Certificate", "x509_certificate"⟩ text [] members).map Certificate.mk)
      (Value.IsSectionWith [(⟨"x509Certificate", "x509_certificate"⟩, Value.IsText)]) := by
    apply accepts_sectionOf
    intro members
    simp only [succeeds_map_iff, accepts_text.field, List.forall_mem_singleton]
  intro value
  have asSection := accepts value
  cases value with
  | certificate certificate => exact iff_of_true (succeeds_ok certificate) trivial
  | _ => exact asSection

theorem accepts_idpSection : Accepts IdpSection.read Value.IsIdpSection := by
  apply accepts_sectionOf
  intro members
  simp only [succeeds_map_iff, succeeds_both_iff, accepts_text.field, accepts_flag.field,
    accepts_certificate.list.field, List.forall_mem_cons, List.not_mem_nil, false_implies,
    implies_true, and_true]

theorem accepts_spSection : Accepts SpSection.read Value.IsSpSection := by
  apply accepts_sectionOf
  intro members
  simp only [succeeds_map_iff, succeeds_both_iff, accepts_text.field, List.forall_mem_cons,
    List.not_mem_nil, false_implies, implies_true, and_true]

theorem accepts_resource : Accepts Resource.read Value.IsResource := by
  apply accepts_sectionOf
  intro members
  simp only [succeeds_map_iff, succeeds_both_iff, accepts_text.field, accepts_flag.field,
    accepts_idpSection.field, accepts_spSection.field, List.forall_mem_cons, List.not_mem_nil,
    false_implies, implies_true, and_true]

theorem accepts_resourceList : Accepts ResourceList.read Value.IsResourceList := by
  apply accepts_sectionOf
  intro members
  simp only [succeeds_map_iff, succeeds_both_iff, accepts_resource.list.field,
    accepts_text.optional.field, List.forall_mem_cons, List.not_mem_nil, false_implies,
    implies_true, and_true]

end Reading

theorem Resource.ofBody_eq_ok_iff {body : Value} {resource : Resource} :
    Resource.ofBody body = .ok resource ↔ Resource.read body = .ok resource := by
  rw [Resource.ofBody, mapError_eq_ok_iff]

theorem ResourceList.ofBody_eq_ok_iff {body : Value} {list : ResourceList} :
    ResourceList.ofBody body = .ok list ↔ ResourceList.read body = .ok list := by
  rw [ResourceList.ofBody, mapError_eq_ok_iff]

end SamlAdmin
