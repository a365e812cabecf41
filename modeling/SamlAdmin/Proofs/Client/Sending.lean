import SamlAdmin.Proofs.Client.Address
import SamlAdmin.Proofs.Client.Course
import SamlAdmin.Proofs.Draft.Build
import SamlAdmin.Proofs.Url.Form

/-!
# What goes out to the admin endpoint

A call to a path in its final spelling goes out as it was put together, and what can
still stop it is known in full: a header, text that UTF-8 cannot write, a length, or a
body without a JSON text.  For a planned request none but the second and the third can
occur, so an operation on Unicode text within the limit is always sent.
-/

namespace SamlAdmin

namespace Request

/-- The query that the parameters of a call write. -/
def queryText (parameters : Option (List (Text × Value))) : Option Text :=
  parameters.map fun members => Form.encode (Form.pairs members)

theorem isQuerySign_of_queryText (parameters : Option (List (Text × Value))) :
    ∀ text ∈ queryText parameters, ∀ point ∈ text, Target.isQuerySign point = true := by
  intro text written point member
  obtain ⟨members, _, rfl⟩ := Option.map_eq_some_iff.mp written
  exact Form.isQuerySign_of_mem_encode member

/-- Parameters are put in place exactly where they can be written and are not too long. -/
theorem withParameters_admin_eq_ok_iff {path : Text} (final : Target.FinalPath path)
    (short : path.length ≤ Target.longest) {parameters : Option (List (Text × Value))}
    (nonempty : ∀ members ∈ parameters, members ≠ []) {target : Target} :
    withParameters parameters (Target.admin path none) = .ok target ↔
      (∀ members ∈ parameters, Form.fault? (Form.pairs members) = none ∧
        (Form.encode (Form.pairs members)).length ≤ Target.longest) ∧
      target = Target.admin path (queryText parameters) := by
  cases parameters with
  | none => simp [withParameters, queryText, eq_comm]
  | some members =>
      have filled : members.isEmpty = false := by
        simpa using nonempty members rfl
      simp only [withParameters, queryOf, filled, Bool.false_eq_true, if_false]
      cases refused : Form.fault? (Form.pairs members) with
      | some fault => simp [refused]
      | none =>
          have replaced : (Target.admin path none).withQuery
              (some (Form.encode (Form.pairs members))) = .ok target ↔ _ :=
            Target.withQuery_admin_eq_ok_iff final (isQuerySign_of_queryText (some members))
          rw [mapError_eq_ok_iff, replaced]
          simp [refused, short, queryText]

/-- Parameters change an address in its query, if at all. -/
theorem eq_or_withQuery_of_withParameters {parameters : Option (List (Text × Value))}
    {plain target : Target} (placed : withParameters parameters plain = .ok target) :
    target = plain ∨ ∃ query, plain.withQuery query = .ok target := by
  cases parameters with
  | none =>
      cases placed
      exact Or.inl rfl
  | some members =>
      rw [withParameters] at placed
      cases written : queryOf members with
      | error fault =>
          rw [written] at placed
          cases placed
      | ok query =>
          rw [written] at placed
          exact Or.inr ⟨query, mapError_eq_ok_iff.mp placed⟩

theorem query_of_withParameters {members : List (Text × Value)} (nonempty : members ≠ [])
    {plain target : Target} (placed : withParameters (some members) plain = .ok target) :
    Form.fault? (Form.pairs members) = none ∧
      target.query = some (Form.encode (Form.pairs members)) := by
  have filled : members.isEmpty = false := by simpa using nonempty
  simp only [withParameters, queryOf, filled, Bool.false_eq_true, if_false] at placed
  cases refused : Form.fault? (Form.pairs members) with
  | some fault =>
      rw [refused] at placed
      cases placed
  | none =>
      rw [refused] at placed
      exact ⟨rfl, Target.query_of_withQuery (isQuerySign_of_queryText (some members))
        (mapError_eq_ok_iff.mp placed)⟩

/-- What is needed of a call to a path in its final spelling, and what goes out. -/
theorem prepare_admin_eq_ok_iff {path : Text} (final : Target.FinalPath path) {call : Call}
    (nonempty : ∀ members ∈ call.parameters, members ≠ []) {headers : Headers} {sent : Request} :
    prepare (Target.adminOrigin ++ path) call headers = .ok sent ↔
      (Target.adminOrigin ++ path).length ≤ Target.longest ∧ headers.check = .ok () ∧
      (∀ members ∈ call.parameters, Form.fault? (Form.pairs members) = none ∧
        (Form.encode (Form.pairs members)).length ≤ Target.longest) ∧
      ∃ body, bodyText call.body = .ok body ∧
        sent = {
          method := call.method.upper
          target := Target.admin path (queryText call.parameters)
          headers := withHost (Target.admin path (queryText call.parameters))
            (withBodyFields call.method.upper body (headers.withStanding standing))
          body } := by
  rw [prepare_eq_ok_iff]
  constructor
  · rintro ⟨plain, target, body, parsed, checked, placed, written, rfl⟩
    obtain ⟨fits, rfl⟩ := (Target.parse_admin_eq_ok_iff final).mp parsed
    have short : path.length ≤ Target.longest := by
      rw [List.length_append] at fits
      exact Nat.le_trans (Nat.le_add_left _ _) fits
    obtain ⟨queryFits, rfl⟩ := (withParameters_admin_eq_ok_iff final short nonempty).mp placed
    exact ⟨fits, checked, queryFits, body, written, rfl⟩
  · rintro ⟨fits, checked, queryFits, body, written, rfl⟩
    have short : path.length ≤ Target.longest := by
      rw [List.length_append] at fits
      exact Nat.le_trans (Nat.le_add_left _ _) fits
    have parsed := (Target.parse_admin_eq_ok_iff final).mpr ⟨fits, rfl⟩
    have placed := (withParameters_admin_eq_ok_iff final short nonempty).mpr ⟨queryFits, rfl⟩
    exact ⟨_, _, body, parsed, checked, placed, written, rfl⟩

/-- The body of a field map can be written exactly if the map holds Unicode text only. -/
theorem bodyText_toBody_iff {fields : FieldMap} :
    (∃ body, bodyText fields.toBody = .ok body) ↔ fields.IsUnicode := by
  obtain ⟨text, printed, same⟩ := Json.print_toBody fields
  rw [← same, Text.isUnicode_iff_fault?]
  rw [FieldMap.toBody] at printed ⊢
  simp only [bodyText, printed]
  cases refused : Utf8.fault? text with
  | some fault => simp
  | none => simp

end Request

namespace Operation

def texts : Operation → List Text
  | .get id => id.ownText
  | .create draft => draft.elim [] AnyDraft.texts
  | .update id draft => id.ownText ++ draft.elim [] AnyDraft.texts
  | .delete id => id.ownText
  | .list token _ => token.ownText

/-- Whether an operation is given Unicode text only. -/
def IsUnicode (operation : Operation) : Prop := ∀ text ∈ operation.texts, text.IsUnicode

instance (operation : Operation) : Decidable operation.IsUnicode :=
  inferInstanceAs (Decidable (∀ text ∈ operation.texts, text.IsUnicode))

theorem isUnicode_create_iff {draft : CreateDraft} {id : Text} (isText : draft.providerId = .str id) :
    IsUnicode (.create (some (.create draft))) ↔ id.IsUnicode ∧ draft.fields.IsUnicode := by
  have texts : (Operation.create (some (.create draft))).texts = id :: draft.fields.texts := by
    simp only [Operation.texts, Option.elim, AnyDraft.texts, AnyDraft.ownId, isText, Value.ownText,
      List.singleton_append, AnyDraft.fields]
  rw [IsUnicode, texts, List.forall_mem_cons, FieldMap.IsUnicode]

theorem isUnicode_update_iff {draft : UpdateDraft} {id : Text} :
    IsUnicode (.update (.str id) (some (.update draft))) ↔
      id.IsUnicode ∧ draft.fields.IsUnicode := by
  have texts : (Operation.update (.str id) (some (.update draft))).texts =
      id :: draft.fields.texts := rfl
  rw [IsUnicode, texts, List.forall_mem_cons, FieldMap.IsUnicode]

namespace Planned

variable {operation : Operation} {plan : Plan} {project : Text}

theorem parameters_ne_nil (planned : operation.Planned plan) :
    ∀ members ∈ plan.parameters, members ≠ [] := by
  cases planned <;> simp

theorem upper_method (planned : operation.Planned plan) :
    plan.method.upper = operation.method := by
  have get : ("GET" : Text).upper = "GET" := by decide
  have post : ("POST" : Text).upper = "POST" := by decide
  have patch : ("PATCH" : Text).upper = "PATCH" := by decide
  have delete : ("DELETE" : Text).upper = "DELETE" := by decide
  cases planned with
  | get _ _ => exact get
  | create _ => exact post
  | update _ _ _ => exact patch
  | delete _ _ => exact delete
  | firstPage _ => exact get
  | page _ _ => exact get

theorem configsPath_of_collection (project : Text) :
    adminPath ++ (("/projects/" : Text) ++ project ++ collectionPath) = configsPath project := by
  simp [configsPath]

theorem resourcePath_of_suffix (project id : Text) :
    adminPath ++ (("/projects/" : Text) ++ project ++ configSuffix id) = resourcePath project id := by
  have slash : ("/" : Text) = [.char '/'] := by decide
  rw [resourcePath, configsPath, configSuffix, slash]
  simp

theorem finalPath (planned : operation.Planned plan) (named : IsProjectName project) :
    Target.FinalPath (adminPath ++ (("/projects/" : Text) ++ project ++ plan.path)) := by
  have collection := named.finalPath_configsPath
  rw [← configsPath_of_collection] at collection
  have resource : ∀ id, ProviderId.WellFormed id →
      Target.FinalPath (adminPath ++ (("/projects/" : Text) ++ project ++ configSuffix id)) := by
    intro id formed
    rw [resourcePath_of_suffix]
    exact named.finalPath_resourcePath formed
  cases planned with
  | get formed _ => exact resource _ formed
  | create _ => exact collection
  | update formed _ _ => exact resource _ formed
  | delete formed _ => exact resource _ formed
  | firstPage _ => exact collection
  | page _ _ => exact collection

theorem isUnicode_ofInt (number : Int) : (Text.ofInt number).IsUnicode := by
  cases number with
  | ofNat number => exact .ofChars _
  | negSucc number => exact (Text.isUnicode_cons_iff '-').mpr (.ofChars _)

/-- UTF-8 can write what an operation sends exactly if the operation is given Unicode
text only. -/
theorem writable_iff (planned : operation.Planned plan) :
    ((∀ members ∈ plan.parameters, Form.fault? (Form.pairs members) = none) ∧
      ∃ body, Request.bodyText plan.body = .ok body) ↔ operation.IsUnicode := by
  have name : ∀ string : String, Text.IsUnicode string := Text.IsUnicode.ofString
  have noBody : ∃ body, Request.bodyText .null = .ok body := ⟨none, rfl⟩
  cases planned with
  | get _ unicode => exact iff_of_true ⟨nofun, noBody⟩ (List.forall_mem_singleton.mpr unicode)
  | delete _ unicode => exact iff_of_true ⟨nofun, noBody⟩ (List.forall_mem_singleton.mpr unicode)
  | create built =>
      obtain ⟨rfl, isText, _⟩ := CreateDraft.eq_fields_of_build built
      rw [isUnicode_create_iff isText, Request.bodyText_toBody_iff]
      simp only [Option.mem_some_iff, forall_eq', Form.pairs_text, Form.pairs_nil,
        Form.fault?_singleton_iff]
      exact and_congr_left fun _ => and_iff_right (name _)
  | update _ unicode built =>
      obtain ⟨rfl, _⟩ := UpdateDraft.eq_fields_of_build built
      rw [isUnicode_update_iff, Request.bodyText_toBody_iff]
      simp only [Option.mem_some_iff, forall_eq', Form.pairs_text, Form.pairs_nil,
        Form.fault?_singleton_iff]
      constructor
      · rintro ⟨_, fields⟩
        exact ⟨unicode, fields⟩
      · rintro ⟨_, fields⟩
        exact ⟨⟨name _, (Text.isUnicode_join_iff (name ",")).mpr fields.mask⟩, fields⟩
  | firstPage _ =>
      refine iff_of_true ⟨?_, noBody⟩ (List.forall_mem_nil _)
      simp only [Option.mem_some_iff, forall_eq', Form.pairs_int, Form.pairs_nil,
        Form.fault?_singleton_iff]
      exact ⟨name _, isUnicode_ofInt _⟩
  | page _ _ =>
      rw [Operation.IsUnicode, Operation.texts, Value.ownText, List.forall_mem_singleton]
      simp only [Option.mem_some_iff, forall_eq', Form.pairs_int, Form.pairs_text, Form.pairs_nil,
        Form.fault?_cons_iff]
      constructor
      · rintro ⟨⟨_, ⟨_, token⟩, _⟩, _⟩
        exact token
      · intro token
        exact ⟨⟨⟨name _, isUnicode_ofInt _⟩, ⟨name _, token⟩, rfl⟩, noBody⟩

end Planned

end Operation

namespace Client

/-- The address that a planned request goes to at the admin endpoint. -/
def targetOf (project : Text) (plan : Plan) : Target :=
  Target.admin (adminPath ++ (("/projects/" : Text) ++ project ++ plan.path))
    (Request.queryText plan.parameters)

/-- A client of a project that talks to the admin endpoint. -/
structure AtAdmin (project : Text) (client : Client) : Prop where
  endpoint : client.transport.endpoint = Target.adminOrigin ++ adminPath
  project : client.projectId = .str project

theorem atAdmin_new (project version : Text) (channels : Channels) :
    AtAdmin project (new (.str project) Settings.defaultEndpoint version channels) :=
  ⟨endpoint_ofEndpoint_default _ _, rfl⟩

/-- A client of a project with the settings that it has by default. -/
def usual (project : Text) : Client :=
  new (.str project) Settings.defaultEndpoint Settings.defaultVersion (.ofLimits (.all .null))

theorem atAdmin_usual (project : Text) : AtAdmin project (usual project) :=
  atAdmin_new project Settings.defaultVersion (.ofLimits (.all .null))

namespace AtAdmin

variable {project : Text} {client : Client} {operation : Operation} {plan : Plan} {sent : Request}

/-- What is needed of a planned request, and what goes out. -/
theorem calls_eq_ok_iff (admin : AtAdmin project client) (named : IsProjectName project)
    (planned : operation.Planned plan) :
    client.calls plan = .ok sent ↔
      (Target.adminOrigin ++ (targetOf project plan).path).length ≤ Target.longest ∧
      client.transport.headers.check = .ok () ∧
      (∀ members ∈ plan.parameters, Form.fault? (Form.pairs members) = none ∧
        (Form.encode (Form.pairs members)).length ≤ Target.longest) ∧
      ∃ body, Request.bodyText plan.body = .ok body ∧
        sent = {
          method := operation.method
          target := targetOf project plan
          headers := Request.withHost (targetOf project plan)
            (Request.withBodyFields operation.method body
              (client.transport.headers.withStanding Request.standing))
          body } := by
  have address : client.transport.endpoint ++ (callOf client.projectId plan).path =
      Target.adminOrigin ++ (adminPath ++ (("/projects/" : Text) ++ project ++ plan.path)) := by
    rw [admin.endpoint, admin.project]
    simp [callOf, Value.plain]
  have prepared : Request.prepare _ (callOf client.projectId plan) client.transport.headers =
      .ok sent ↔ _ :=
    Request.prepare_admin_eq_ok_iff (planned.finalPath named) planned.parameters_ne_nil
  rw [calls, Transport.prepared, address, ← planned.upper_method]
  exact prepared

/-- A planned request on Unicode text goes out unless its address is too long. -/
theorem exists_sent (admin : AtAdmin project client) (named : IsProjectName project)
    (headers : client.transport.headers.check = .ok ()) (planned : operation.Planned plan)
    (unicode : operation.IsUnicode)
    (fits : (targetOf project plan).toText.length ≤ Target.longest) :
    ∃ sent, client.calls plan = .ok sent ∧ sent.method = operation.method ∧
      sent.target = targetOf project plan := by
  obtain ⟨parameters, body, written⟩ := planned.writable_iff.mpr unicode
  obtain ⟨pathFits, queryFits⟩ := Target.fits_of_toText_admin fits
  refine ⟨_, (calls_eq_ok_iff admin named planned).mpr
    ⟨pathFits, headers, fun members given => ⟨?_, ?_⟩, body, written, rfl⟩, rfl, rfl⟩
  · exact parameters members given
  · apply queryFits
    rw [Request.queryText, given]
    rfl

theorem sends (admin : AtAdmin project client) (named : IsProjectName project)
    (headers : client.transport.headers.check = .ok ()) (planned : operation.Planned plan)
    (unicode : operation.IsUnicode)
    (fits : (targetOf project plan).toText.length ≤ Target.longest) :
    ∃ request, request.target = targetOf project plan ∧
      ∀ server, (client.perform operation server).1.sent = some request := by
  obtain ⟨request, ready, _, target⟩ := exists_sent admin named headers planned unicode fits
  have present : client.projectId.isTruthy = true := by
    rw [admin.project]
    exact named.isTruthy
  refine ⟨request, target, ?_⟩
  intro server
  exact sent_perform_eq_some_iff.mpr ⟨plan, planned, present, ready⟩

/-- What is sent for a planned request is Unicode text. -/
theorem isUnicode_of_calls (admin : AtAdmin project client) (named : IsProjectName project)
    (planned : operation.Planned plan) (ready : client.calls plan = .ok sent) :
    operation.IsUnicode := by
  obtain ⟨_, _, parameters, body, written, _⟩ := (calls_eq_ok_iff admin named planned).mp ready
  exact planned.writable_iff.mp
    ⟨fun members given => (parameters members given).1, body, written⟩

end AtAdmin

/-! ## Other endpoints -/

section AnyEndpoint

variable {client : Client} {operation : Operation} {plan : Plan} {request : Request}

/-- A client that can send to a path of its project, as far as this is not a matter of what is
sent: it has a project, its headers can be sent, and the path has an address. -/
structure Reaches (client : Client) (path : Text) : Prop where
  project : client.projectId.isTruthy = true
  headers : client.transport.headers.check = .ok ()
  address : ∃ plain target,
    Target.parse (client.transport.endpoint ++
      (("/projects/" : Text) ++ client.projectId.plain ++ path)) = .ok plain ∧
    plain.withQuery none = .ok target

/-- A planned request on Unicode text goes out unless its query is too long. -/
theorem Reaches.exists_calls (reaches : client.Reaches plan.path)
    (planned : operation.Planned plan) (unicode : operation.IsUnicode)
    (fits : ∀ members ∈ plan.parameters,
      (Form.encode (Form.pairs members)).length ≤ Target.longest) :
    ∃ request, client.calls plan = .ok request := by
  obtain ⟨plain, target, parsed, checked⟩ := reaches.address
  obtain ⟨writable, body, written⟩ := planned.writable_iff.mpr unicode
  have placed : ∃ target, Request.withParameters plan.parameters plain = .ok target := by
    cases parameters : plan.parameters with
    | none => exact ⟨plain, rfl⟩
    | some members =>
        have filled := planned.parameters_ne_nil members parameters
        have replaced := Target.withQuery_eq_ok checked
          (fun _ member => Form.isQuerySign_of_mem_encode member) (fits members parameters)
        refine ⟨{ target with query := some (Form.encode (Form.pairs members)) }, ?_⟩
        simp only [Request.withParameters, Request.queryOf, List.isEmpty_eq_false_iff.mpr filled,
          Bool.false_eq_true, if_false, writable members parameters, replaced]
        rfl
  obtain ⟨target, placed⟩ := placed
  exact ⟨_, Request.prepare_eq_ok_iff.mpr
    ⟨plain, target, body, parsed, reaches.headers, placed, written, rfl⟩⟩

theorem Reaches.sends (reaches : client.Reaches plan.path) (planned : operation.Planned plan)
    (unicode : operation.IsUnicode)
    (fits : ∀ members ∈ plan.parameters,
      (Form.encode (Form.pairs members)).length ≤ Target.longest) :
    ∃ request, ∀ server, (client.perform operation server).1.sent = some request := by
  obtain ⟨request, ready⟩ := reaches.exists_calls planned unicode fits
  exact ⟨request, fun server =>
    sent_perform_eq_some_iff.mpr ⟨plan, planned, reaches.project, ready⟩⟩

theorem query_of_calls {members : List (Text × Value)} (parameters : plan.parameters = some members)
    (filled : members ≠ []) (ready : client.calls plan = .ok request) :
    request.target.query = some (Form.encode (Form.pairs members)) ∧
      request.target.query.map Form.decode = some (Form.pairs members) := by
  obtain ⟨plain, target, _, _, _, placed, _, rfl⟩ := Request.prepare_eq_ok_iff.mp ready
  rw [callOf, parameters] at placed
  obtain ⟨encodable, isQuery⟩ := Request.query_of_withParameters filled placed
  exact ⟨isQuery, by rw [isQuery, Option.map_some, Form.decode_encode encodable]⟩

end AnyEndpoint

end Client

end SamlAdmin
