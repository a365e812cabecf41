import SamlAdmin.Proofs.Client.Taking
import SamlAdmin.Proofs.Resource.Problems

/-!
# Listing resources item by item

A page is what reading each of its items alone gives.  It is taken exactly if every item is,
and then it holds their configurations in order.  Otherwise the report lists the problems of
all items, each behind the list and the position of its item, and a client that asked for the
page raises an error of the transport with this report and returns nothing of the page.
-/

namespace SamlAdmin

namespace ResourceList

variable {members : List (Text × Value)} {items : List Value} {key : Text}
  {nextPageToken : Option Text} {list : ResourceList}

/-- A list that is read item by item is taken exactly if its items are. -/
theorem ofBody_ok_iff_items
    (byItems : read (.object members) =
      ((Reading.items Resource.read 0 items).within (.key key)).map (⟨·, nextPageToken⟩)) :
    (∃ list, ofBody (.object members) = .ok list) ↔
      ∀ item ∈ items, ∃ resource, Resource.ofBody item = .ok resource := by
  have accepts : Reading.Accepts Resource.read fun item => (Resource.read item).Succeeds :=
    fun _ => Iff.rfl
  have succeeds : (read (.object members)).Succeeds ↔
      ∀ item ∈ items, (Resource.read item).Succeeds := by
    rw [byItems, Reading.succeeds_map_iff, Reading.succeeds_within_iff, accepts.items]
  simpa only [Reading.Succeeds, ← ofBody_eq_ok_iff, ← Resource.ofBody_eq_ok_iff] using succeeds

theorem configs_of_items
    (byItems : read (.object members) =
      ((Reading.items Resource.read 0 items).within (.key key)).map (⟨·, nextPageToken⟩))
    (taken : ofBody (.object members) = .ok list) :
    List.Forall₂ (fun item config => ∃ resource, Resource.ofBody item = .ok resource ∧
      config = resource.toConfig) items list.toPage.configs := by
  rw [ofBody_eq_ok_iff, byItems, map_eq_ok_iff] at taken
  obtain ⟨resources, resourcesRead, rfl⟩ := taken
  rw [Reading.within_eq_ok_iff, Reading.items_eq_ok_iff] at resourcesRead
  rw [toPage, List.forall₂_map_right_iff]
  refine resourcesRead.imp fun item resource itemRead => ?_
  exact ⟨resource, Resource.ofBody_eq_ok_iff.mpr itemRead, rfl⟩

theorem problemsOf_ofBody_of_items
    (byItems : read (.object members) =
      ((Reading.items Resource.read 0 items).within (.key key)).map (⟨·, nextPageToken⟩)) :
    Refused.problemsOf (ofBody (.object members)) = items.zipIdx.flatMap fun (item, index) =>
      (Refused.problemsOf (Resource.ofBody item)).map (.behind [.key key, .index index]) := by
  have alone : ∀ item, Refused.problemsOf (Resource.ofBody item) = (Resource.read item).problems :=
    fun item => Refused.problemsOf_mapError (Resource.read item) Resource.documentName
  rw [ofBody, Refused.problemsOf_mapError, byItems, Reading.problems_map, Reading.problems_within,
    Reading.problems_items, List.map_flatMap]
  simp only [List.map_map, alone]
  rfl

end ResourceList

namespace Client

variable {members : List (Text × Value)} {items : List Value} {key : Text}

/-- A client makes of the answer to a list operation what its body is read as. -/
theorem outcome_of_list {client : Client} {server : Server} {request : Request}
    {response : Response} {asked size : Value}
    (isSent : (client.perform (.list asked size) server).1.sent = some request)
    (replied : server.answer.1 = .response response)
    (success : 200 ≤ response.status ∧ response.status ≤ 299)
    (decoded : Json.readBody response.body = .ok (.object members)) :
    (client.perform (.list asked size) server).1.outcome =
      Operation.readPage (some (.object members)) := by
  have successful : Status.isSuccess response.status = true := by
    simpa [Status.isSuccess] using success
  exact (perform_course (.list asked size) client server).outcome_of_success isSent replied
    successful decoded

theorem presentBody_object (nonempty : members ≠ []) :
    Operation.presentBody (some (.object members)) = .object members := by
  apply Operation.presentBody_of_isTruthy
  simpa [Value.isTruthy] using nonempty

/-- A body with an array of resources is taken as a page exactly if each item is taken alone,
and the page then holds the configurations of the items in order.  A body that is refused has
the problems of its items in order, each behind the array and the position of its item, and
then a client that asked for the page raises an error of the transport with these problems. -/
theorem listing_agrees_with_reading_alone
    (listed : Reading.effective ⟨"inboundSamlConfigs", "inbound_saml_configs"⟩ members =
      some (key, .list items))
    (token : ∀ name value, Reading.effective ⟨"nextPageToken", "next_page_token"⟩ members =
      some (name, value) → value = .null ∨ value.IsText) :
    ((∃ list, ResourceList.ofBody (.object members) = .ok list) ↔
      ∀ item ∈ items, ∃ resource, Resource.ofBody item = .ok resource) ∧
    (∀ list, ResourceList.ofBody (.object members) = .ok list →
      list.toPage.configs.length = items.length ∧
      List.Forall₂ (fun item config => ∃ resource, Resource.ofBody item = .ok resource ∧
        config = resource.toConfig) items list.toPage.configs) ∧
    (∀ refused, ResourceList.ofBody (.object members) = .error refused →
      refused.problems = items.zipIdx.flatMap fun (item, index) =>
        (Refused.problemsOf (Resource.ofBody item)).map (.behind [.key key, .index index])) ∧
    ∀ (client : Client) (server : Server) (request : Request) (response : Response)
      (asked size : Value), (client.perform (.list asked size) server).1.sent = some request →
      server.answer.1 = .response response → 200 ≤ response.status ∧ response.status ≤ 299 →
      Json.readBody response.body = .ok (.object members) →
        (∀ list, ResourceList.ofBody (.object members) = .ok list →
          (client.perform (.list asked size) server).1.outcome = .ok (.page list.toPage)) ∧
        ∀ refused, ResourceList.ofBody (.object members) = .error refused →
          ∃ fault, (client.perform (.list asked size) server).1.outcome = .error fault ∧
            fault = .unexpectedList refused ∧ fault.isOfTransport = true := by
  obtain ⟨nextPageToken, byItems⟩ := ResourceList.read_eq_items listed token
  refine ⟨ResourceList.ofBody_ok_iff_items byItems, ?_, ?_, ?_⟩
  · intro list taken
    have inOrder := ResourceList.configs_of_items byItems taken
    exact ⟨inOrder.length_eq.symm, inOrder⟩
  · intro refused isRefused
    have problems := ResourceList.problemsOf_ofBody_of_items byItems
    rw [isRefused] at problems
    exact problems
  · intro client server request response asked size isSent replied success decoded
    have nonempty : members ≠ [] := by
      rintro rfl
      cases listed
    rw [outcome_of_list isSent replied success decoded]
    constructor
    · intro list taken
      rw [Operation.readPage, presentBody_object nonempty, taken]
    · intro refused isRefused
      refine ⟨.unexpectedList refused, ?_, rfl, rfl⟩
      rw [Operation.readPage, presentBody_object nonempty, isRefused]

/-- The members of a body with an empty resource and a number. -/
def mixedMembers : List (Text × Value) :=
  [("inboundSamlConfigs", .list [.object [], .int 5])]

/-- Whether a value is the body with these members. -/
def isMixedBody : Value → Bool
  | .object [(key, .list [.object [], .int number])] => key = "inboundSamlConfigs" && number = 5
  | _ => false

def mixedAnswer : Response := answerOf "\x7b\"inboundSamlConfigs\":[\x7b\x7d,5]\x7d"

theorem readBody_mixedAnswer : Json.readBody mixedAnswer.body = .ok (.object mixedMembers) := by
  obtain ⟨body, read, tested⟩ :=
    exists_value_of_any mixedAnswer.body isMixedBody (by decide +kernel)
  unfold isMixedBody at tested
  split at tested
  · simp only [Bool.and_eq_true, decide_eq_true_eq] at tested
    obtain ⟨rfl, rfl⟩ := tested
    exact read
  · cases tested

/-- The members of a body with an empty resource alone. -/
def soleMembers : List (Text × Value) := [("inboundSamlConfigs", .list [.object []])]

/-- A page with an empty resource is taken, and the same page with a number behind it is
refused for the number alone. -/
theorem number_among_resources_is_reported :
    (∃ list, ResourceList.ofBody (.object soleMembers) = .ok list ∧
      list.toPage.configs.length = 1) ∧
    ∃ refused, ((usual "my-project").perform (.list .null (.int 5))
        ⟨[.response mixedAnswer]⟩).1.outcome = .error (.unexpectedList refused) ∧
      refused.problems =
        [⟨.notSection Resource.documentName, [.key "inboundSamlConfigs", .index 1]⟩] := by
  constructor
  · have listed : Reading.effective ⟨"inboundSamlConfigs", "inbound_saml_configs"⟩ soleMembers =
        some (("inboundSamlConfigs" : Text), Value.list [.object []]) := rfl
    have noToken : Reading.effective ⟨"nextPageToken", "next_page_token"⟩ soleMembers = none := rfl
    obtain ⟨taken, pages, _⟩ := listing_agrees_with_reading_alone listed (by simp [noToken])
    have emptyTaken : ∃ resource, Resource.ofBody (.object []) = .ok resource := ⟨{}, rfl⟩
    obtain ⟨list, isList⟩ := taken.mpr (List.forall_mem_singleton.mpr emptyTaken)
    exact ⟨list, isList, (pages list isList).1⟩
  · have listed : Reading.effective ⟨"inboundSamlConfigs", "inbound_saml_configs"⟩ mixedMembers =
        some (("inboundSamlConfigs" : Text), Value.list [.object [], .int 5]) := rfl
    have noToken : Reading.effective ⟨"nextPageToken", "next_page_token"⟩ mixedMembers = none := rfl
    obtain ⟨taken, _, problems, answered⟩ :=
      listing_agrees_with_reading_alone listed (by simp [noToken])
    have range : (1 : Int) ≤ 5 ∧ (5 : Int) ≤ maxPageSize := by decide
    obtain ⟨request, _, isSent⟩ := (atAdmin_usual "my-project").sends (by decide) rfl
      (.firstPage range) (by decide) (by decide +kernel)
    cases read : ResourceList.ofBody (.object mixedMembers) with
    | ok list =>
        obtain ⟨resource, isResource⟩ := taken.mp ⟨list, read⟩ (.int 5) (by simp)
        cases isResource
    | error refused =>
        obtain ⟨_, raised⟩ := answered (usual "my-project") ⟨[.response mixedAnswer]⟩ request
          mixedAnswer .null (.int 5) (isSent _) rfl (by decide) readBody_mixedAnswer
        obtain ⟨fault, failed, rfl, _⟩ := raised refused read
        refine ⟨refused, failed, ?_⟩
        rw [problems refused read]
        rfl

end Client

end SamlAdmin
