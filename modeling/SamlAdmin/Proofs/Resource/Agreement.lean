import SamlAdmin.Proofs.Members
import SamlAdmin.Proofs.Resource.Listing

/-!
# Bodies that agree

A body is read field by field, and for each field one member counts: the one under its wire
name, or else the one under its plain name.  Two bodies agree if at every level the members
that count are there for the same fields and agree in turn.  Nothing else is compared, so a
body agrees with every other one that is made of it by moving members, by adding members that
no field looks for or that are hidden behind a wire name, and by such changes further inside.
-/

namespace SamlAdmin

namespace Value

/-! ## Agreement -/

/-- Whether two values agree as sections with some fields: they are equal, or they are objects
in which the members that count for each field agree in the way of the field. -/
inductive AgreeOn (fields : List (Reading.FieldName × (Value → Value → Prop))) :
    Value → Value → Prop where
  | same (value : Value) : AgreeOn fields value value
  | objects {left right : List (Text × Value)}
      (each : ∀ field ∈ fields, Option.Rel field.2 ((Value.object left).member? field.1)
        ((Value.object right).member? field.1)) :
      AgreeOn fields (.object left) (.object right)

/-- Whether two values agree as lists: they are equal, or they are lists of as many items that
agree one by one. -/
inductive AgreeItemwise (agree : Value → Value → Prop) : Value → Value → Prop where
  | same (value : Value) : AgreeItemwise agree value value
  | lists {left right : List Value} (each : List.Forall₂ agree left right) :
      AgreeItemwise agree (.list left) (.list right)

def certificateFields : List (Reading.FieldName × (Value → Value → Prop)) :=
  [(⟨"x509Certificate", "x509_certificate"⟩, Eq)]

def idpFields : List (Reading.FieldName × (Value → Value → Prop)) :=
  [(⟨"idpEntityId", "idp_entity_id"⟩, Eq), (⟨"ssoUrl", "sso_url"⟩, Eq),
   (⟨"idpCertificates", "idp_certificates"⟩, AgreeItemwise (AgreeOn certificateFields)),
   (⟨"signRequest", "sign_request"⟩, Eq)]

def spFields : List (Reading.FieldName × (Value → Value → Prop)) :=
  [(⟨"spEntityId", "sp_entity_id"⟩, Eq), (⟨"callbackUri", "callback_uri"⟩, Eq)]

def resourceFields : List (Reading.FieldName × (Value → Value → Prop)) :=
  [(⟨"name", "name"⟩, Eq), (⟨"idpConfig", "idp_config"⟩, AgreeOn idpFields),
   (⟨"spConfig", "sp_config"⟩, AgreeOn spFields), (⟨"displayName", "display_name"⟩, Eq),
   (⟨"enabled", "enabled"⟩, Eq)]

def listFields : List (Reading.FieldName × (Value → Value → Prop)) :=
  [(⟨"inboundSamlConfigs", "inbound_saml_configs"⟩, AgreeItemwise (AgreeOn resourceFields)),
   (⟨"nextPageToken", "next_page_token"⟩, Eq)]

def levels : List (List (Reading.FieldName × (Value → Value → Prop))) :=
  [certificateFields, idpFields, spFields, resourceFields, listFields]

/-! ## Agreement is an equivalence -/

section Equivalences

variable {agree : Value → Value → Prop}
  {fields : List (Reading.FieldName × (Value → Value → Prop))}

theorem optionRel_equivalence (equivalence : Equivalence agree) :
    Equivalence (Option.Rel agree) := by
  constructor
  · intro member
    cases member with
    | none => exact .none
    | some value => exact .some (equivalence.refl value)
  · intro left right agreed
    cases agreed with
    | none => exact .none
    | some agreed => exact .some (equivalence.symm agreed)
  · intro left middle right first second
    cases first with
    | none => exact second
    | some first =>
        cases second with
        | some second => exact .some (equivalence.trans first second)

theorem forall₂_equivalence (equivalence : Equivalence agree) :
    Equivalence (List.Forall₂ agree) := by
  constructor
  · intro items
    exact List.forall₂_same.mpr fun item _ => equivalence.refl item
  · intro left right agreed
    exact (agreed.imp fun _ _ => equivalence.symm).flip
  · intro left middle right first second
    induction first generalizing right with
    | nil => exact second
    | cons item _ ih =>
        cases second with
        | cons other rest => exact .cons (equivalence.trans item other) (ih rest)

theorem AgreeItemwise.equivalence (items : Equivalence agree) :
    Equivalence (AgreeItemwise agree) := by
  have inOrder := forall₂_equivalence items
  constructor
  · exact .same
  · intro left right agreed
    cases agreed with
    | same => exact .same left
    | lists each => exact .lists (inOrder.symm each)
  · intro left middle right first second
    cases first with
    | same => exact second
    | lists each =>
        cases second with
        | same => exact .lists each
        | lists others => exact .lists (inOrder.trans each others)

theorem AgreeOn.equivalence (each : ∀ field ∈ fields, Equivalence field.2) :
    Equivalence (AgreeOn fields) := by
  constructor
  · exact .same
  · intro left right agreed
    cases agreed with
    | same => exact .same left
    | objects members =>
        apply AgreeOn.objects
        intro field isField
        exact (optionRel_equivalence (each field isField)).symm (members field isField)
  · intro left middle right first second
    cases first with
    | same => exact second
    | objects members =>
        cases second with
        | same => exact .objects members
        | objects others =>
            apply AgreeOn.objects
            intro field isField
            exact (optionRel_equivalence (each field isField)).trans (members field isField)
              (others field isField)

/-- At every level the members that count for a field are compared by an equivalence. -/
theorem equivalence_of_mem_levels (level : fields ∈ levels) :
    ∀ field ∈ fields, Equivalence field.2 := by
  have certificate : ∀ field ∈ certificateFields, Equivalence field.2 := by
    simp [certificateFields, eq_equivalence]
  have certificates := AgreeItemwise.equivalence (AgreeOn.equivalence certificate)
  have idp : ∀ field ∈ idpFields, Equivalence field.2 := by
    simp [idpFields, eq_equivalence, certificates]
  have sp : ∀ field ∈ spFields, Equivalence field.2 := by
    simp [spFields, eq_equivalence]
  have resource : ∀ field ∈ resourceFields, Equivalence field.2 := by
    simp [resourceFields, eq_equivalence, AgreeOn.equivalence idp, AgreeOn.equivalence sp]
  have resources := AgreeItemwise.equivalence (AgreeOn.equivalence resource)
  have list : ∀ field ∈ listFields, Equivalence field.2 := by
    simp [listFields, eq_equivalence, resources]
  simp only [levels, List.mem_cons, List.not_mem_nil, or_false] at level
  rcases level with rfl | rfl | rfl | rfl | rfl
  · exact certificate
  · exact idp
  · exact sp
  · exact resource
  · exact list

end Equivalences

/-! ## Changes that no field notices -/

/-- Changes of the members of an object that its fields do not notice. -/
inductive Edited (fields : List (Reading.FieldName × (Value → Value → Prop))) :
    List (Text × Value) → List (Text × Value) → Prop where
  /-- Members may stand in any order. -/
  | moved {left right : List (Text × Value)} (distinct : (left.map Prod.fst).Nodup)
      (perm : left.Perm right) : Edited fields left right
  /-- A member may be added that no field looks for, or that stands under the plain name of a
  field whose wire name is there. -/
  | hidden {before after : List (Text × Value)} {key : Text} (value : Value)
      (passedOver : ∀ field ∈ fields, key ≠ field.1.wire ∧
        (key = field.1.plain → field.1.wire ∈ (before ++ after).map Prod.fst)) :
      Edited fields (before ++ after) (before ++ (key, value) :: after)
  /-- The value of a member may be replaced by one with which it agrees for its field. -/
  | within {before after : List (Text × Value)} {key : Text} {old new : Value}
      (agree : ∀ field ∈ fields, key = field.1.wire ∨ key = field.1.plain → field.2 old new) :
      Edited fields (before ++ (key, old) :: after) (before ++ (key, new) :: after)
  | symm {left right : List (Text × Value)} (edited : Edited fields left right) :
      Edited fields right left
  | trans {left middle right : List (Text × Value)} (first : Edited fields left middle)
      (second : Edited fields middle right) : Edited fields left right

section Members

variable {fields : List (Reading.FieldName × (Value → Value → Prop))}
  {left right : List (Text × Value)} {agree : Value → Value → Prop}

theorem member?_object (name : Reading.FieldName) (members : List (Text × Value)) :
    (Value.object members).member? name =
      (Members.lookup name.wire members).or (Members.lookup name.plain members) := by
  rw [member?, Reading.effective]
  cases Members.lookup name.wire members with
  | some value => rfl
  | none =>
      cases Members.lookup name.plain members with
      | some value => rfl
      | none => rfl

theorem optionRel_or {first second third fourth : Option Value}
    (wire : Option.Rel agree first second) (plain : Option.Rel agree third fourth) :
    Option.Rel agree (first.or third) (second.or fourth) := by
  cases wire with
  | none => exact plain
  | some agreed => exact .some agreed

/-- Where the value of one member is replaced, a lookup finds the same or the replaced value. -/
theorem optionRel_lookup_append_cons (equivalence : Equivalence agree) {key name : Text}
    {old new : Value} (replaced : key = name → agree old new)
    (before after : List (Text × Value)) :
    Option.Rel agree (Members.lookup name (before ++ (key, old) :: after))
      (Members.lookup name (before ++ (key, new) :: after)) := by
  have refl := (optionRel_equivalence equivalence).refl
  rw [Members.lookup_append, Members.lookup_append]
  apply optionRel_or (refl _)
  by_cases same : key = name
  · rw [Members.lookup, Members.lookup, if_pos same, if_pos same]
    exact .some (replaced same)
  · rw [Members.lookup, Members.lookup, if_neg same, if_neg same]
    exact refl _

/-- An object agrees with what is made of it by such changes. -/
theorem AgreeOn.of_edited (each : ∀ field ∈ fields, Equivalence field.2)
    (edited : Edited fields left right) : AgreeOn fields (.object left) (.object right) := by
  apply AgreeOn.objects
  intro field isField
  have equivalence := optionRel_equivalence (each field isField)
  induction edited with
  | moved distinct perm =>
      simp only [member?_object, Members.lookup_eq_of_perm distinct perm]
      exact equivalence.refl _
  | @hidden before after key value passedOver =>
      obtain ⟨notWire, ifPlain⟩ := passedOver field isField
      rw [member?_object, member?_object, Members.lookup_append_cons_of_ne notWire]
      by_cases plain : key = field.1.plain
      · obtain ⟨found, isFound⟩ :=
          Option.isSome_iff_exists.mp (Members.lookup_isSome_iff.mpr (ifPlain plain))
        rw [isFound]
        exact equivalence.refl _
      · rw [Members.lookup_append_cons_of_ne plain]
        exact equivalence.refl _
  | @within before after key old new agree =>
      have agreed := agree field isField
      rw [member?_object, member?_object]
      exact optionRel_or
        (optionRel_lookup_append_cons (each field isField) (fun same => agreed (Or.inl same)) _ _)
        (optionRel_lookup_append_cons (each field isField) (fun same => agreed (Or.inr same)) _ _)
  | symm _ ih => exact equivalence.symm ih
  | trans _ _ first second => exact equivalence.trans first second

end Members

end Value

end SamlAdmin
