import Mathlib.Data.List.Forall2
import SamlAdmin.Proofs.Resource.Shape

/-!
# Reading a list of resources

A body lists resources under one name and gives the token of the next page under another,
and both may be missing.  A body of the expected shape is read as a page that holds one
configuration for each resource, in the same order.  Its token is the one that the body
gives; null and the empty text count as none, so a page has a next one exactly if it has a
token.
-/

namespace SamlAdmin

/-! ## Items one by one -/

namespace Reading

variable {α : Type} {read : Value → Reading α}

theorem within_eq_ok_iff {step : PlaceStep} {reading : Reading α} {result : α} :
    reading.within step = .ok result ↔ reading = .ok result := by
  rw [within, mapError_eq_ok_iff]

theorem both_eq_ok_iff {β : Type} {left : Reading α} {right : Reading β} {first : α} {second : β} :
    left.both right = .ok (first, second) ↔ left = .ok first ∧ right = .ok second := by
  cases left with
  | error problems => cases right <;> simp [both]
  | ok value => cases right <;> simp [both]

theorem items_eq_ok_iff {position : Nat} {values : List Value} {results : List α} :
    items read position values = .ok results ↔
      List.Forall₂ (fun value result => read value = .ok result) values results := by
  induction values generalizing position results with
  | nil => simp [items, eq_comm]
  | cons value values ih =>
      rw [items, map_eq_ok_iff, List.forall₂_cons_left_iff]
      constructor
      · rintro ⟨⟨first, rest⟩, both, rfl⟩
        obtain ⟨firstRead, restRead⟩ := both_eq_ok_iff.mp both
        exact ⟨first, rest, within_eq_ok_iff.mp firstRead, ih.mp restRead, rfl⟩
      · rintro ⟨first, rest, firstRead, restRead, rfl⟩
        exact ⟨(first, rest),
          both_eq_ok_iff.mpr ⟨within_eq_ok_iff.mpr firstRead, ih.mpr restRead⟩, rfl⟩

end Reading

/-! ## What a body lists -/

namespace Value

/-- The member of a body that counts for a field. -/
def member? (name : Reading.FieldName) : Value → Option Value
  | .object members => (Reading.effective name members).map Prod.snd
  | _ => none

/-- The resources that a member stands for. -/
inductive ListedItems : Option Value → List Value → Prop where
  | absent : ListedItems none []
  | given (items : List Value) : ListedItems (some (.list items)) items

/-- The token that a member stands for. -/
inductive ListedToken : Option Value → Option Text → Prop where
  | absent : ListedToken none none
  | null : ListedToken (some .null) none
  | empty : ListedToken (some (.str [])) none
  | given {token : Text} (nonempty : token ≠ []) : ListedToken (some (.str token)) (some token)

/-- A body that lists resources, with the token of the page after them if there is one. -/
structure Lists (body : Value) (items : List Value) (next : Option Text) : Prop where
  shaped : body.IsResourceList
  resources : ListedItems (body.member? ⟨"inboundSamlConfigs", "inbound_saml_configs"⟩) items
  token : ListedToken (body.member? ⟨"nextPageToken", "next_page_token"⟩) next

/-- Whether a configuration is the one that a value holds as a resource. -/
def HoldsConfig (item : Value) (config : ProviderConfig) : Prop :=
  ∃ resource, Resource.read item = .ok resource ∧ config = resource.toConfig

end Value

namespace Reading

variable {members : List (Text × Value)}

/-- A field is read from the member that counts for it. -/
theorem field_eq_ok_iff {α : Type} {name : FieldName} {read : Value → Reading α}
    {default result : α} :
    field name read default members = .ok result ↔
      match (Value.object members).member? name with
      | none => default = result
      | some value => read value = .ok result := by
  rw [field, Value.member?]
  cases effective name members with
  | none => simp
  | some member => exact within_eq_ok_iff

/-- The token of a body is read as it stands, and an empty one counts as none. -/
theorem exists_token {name : FieldName} {next : Option Text}
    (listed : Value.ListedToken ((Value.object members).member? name) next) :
    ∃ token, field name (optional text) none members = .ok token ∧
      token.filter (!·.isEmpty) = next := by
  simp only [field_eq_ok_iff]
  generalize (Value.object members).member? name = member at listed
  cases listed with
  | absent => exact ⟨none, rfl, rfl⟩
  | null => exact ⟨none, rfl, rfl⟩
  | empty => exact ⟨some [], rfl, rfl⟩
  | given nonempty => exact ⟨some _, rfl, by simp [nonempty]⟩

theorem exists_resources {name : FieldName} {items : List Value}
    (listed : Value.ListedItems ((Value.object members).member? name) items)
    (shaped : ∀ key value, effective name members = some (key, value) →
      value.IsListOf Value.IsResource) :
    ∃ resources, field name (list Resource.read) [] members = .ok resources ∧
      List.Forall₂ (fun item resource => Resource.read item = .ok resource) items resources := by
  obtain ⟨resources, isRead⟩ := (accepts_resource.list.field name [] members).mpr shaped
  refine ⟨resources, isRead, ?_⟩
  rw [field_eq_ok_iff] at isRead
  generalize (Value.object members).member? name = member at listed isRead
  cases listed with
  | absent =>
      subst isRead
      exact .nil
  | given items => exact items_eq_ok_iff.mp isRead

end Reading

/-- A body that lists resources is read as a page with their configurations in order and
with the token of the body. -/
theorem Value.Lists.read {body : Value} {items : List Value} {next : Option Text}
    (lists : body.Lists items next) :
    ∃ resources, ResourceList.ofBody body = .ok resources ∧
      resources.toPage.nextPageToken = next ∧
      List.Forall₂ HoldsConfig items resources.toPage.configs := by
  cases body with
  | object members =>
      obtain ⟨resources, resourcesRead, inOrder⟩ :=
        Reading.exists_resources lists.resources (lists.shaped _ List.mem_cons_self)
      obtain ⟨token, tokenRead, isNext⟩ := Reading.exists_token lists.token
      refine ⟨⟨resources, token⟩, ResourceList.ofBody_eq_ok_iff.mpr ?_, isNext, ?_⟩
      · rw [ResourceList.read, Reading.sectionOf, resourcesRead, tokenRead]
        rfl
      · refine List.forall₂_map_right_iff.mpr (inOrder.imp fun item resource isRead => ?_)
        exact ⟨resource, isRead, rfl⟩
  | _ => exact absurd lists.shaped id

theorem ResourceList.hasNextPage_toPage_iff (list : ResourceList) :
    list.toPage.hasNextPage = true ↔ list.toPage.nextPageToken ≠ none := by
  obtain ⟨resources, token⟩ := list
  cases token with
  | none => exact iff_of_false nofun fun other => other rfl
  | some text =>
      cases text with
      | nil => exact iff_of_false nofun fun other => other rfl
      | cons first rest => exact iff_of_true rfl nofun

end SamlAdmin
