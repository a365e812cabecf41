import SamlAdmin.Proofs.Client.Paging
import SamlAdmin.Proofs.Url.LastSegment

/-!
# What is read from a query

The ID of a configuration goes over the wire in two spellings: in the query of the request
that creates it, and in the path of those that read, change or delete it.  Both are read back
as the ID that was given, whatever signs it has, and so are the size and the token of a page.
A query is read so for every client; a path is, where nothing in front of the ID begins a
query or a fragment.
-/

namespace SamlAdmin

/-- What a client puts in front of the path of an operation. -/
def Client.projectAddress (client : Client) : Text :=
  client.transport.endpoint ++ (("/projects/" : Text) ++ client.projectId.plain)

/-- A client whose paths are not cut short: neither its endpoint nor its project begins a query
or a fragment. -/
structure Client.HasPaths (client : Client) : Prop where
  noQuery : (.char '?' : CodePoint) ∉ client.projectAddress
  noFragment : (.char '#' : CodePoint) ∉ client.projectAddress

theorem ProviderId.WellFormed.isPlainSegment {id : Text} (formed : ProviderId.WellFormed id) :
    Target.IsPlainSegment (Percent.encodeComponent id) where
  signs := fun _ member => isPathSign_of_escaped (Percent.Escaped.of_component id) member
  noSlash := noSlash_of_escaped (Percent.Escaped.of_component id)
  noColon := by
    intro member
    rcases (Percent.Escaped.of_component id).sign member with unreserved | same
    · exact absurd unreserved (by decide)
    · exact absurd same (by decide)
  noDots := formed.encodeComponent_ne_dots

namespace Client

variable {client : Client} {operation : Operation} {server : Server} {request : Request}

/-- What is sent for one configuration has the escaped ID for the last segment of its path. -/
theorem HasPaths.afterLast_path (paths : client.HasPaths) {id : Text}
    (about : operation.about? = some (.str id))
    (isSent : (client.perform operation server).1.sent = some request) :
    request.target.path.afterLast (.char '/') = Percent.encodeComponent id ∧ id.IsUnicode := by
  obtain ⟨plan, planned, _, ready⟩ := sent_perform_eq_some_iff.mp isSent
  obtain ⟨isPath, formed, unicode⟩ := planned.path_of_about about
  obtain ⟨plain, target, _, parsed, _, placed, _, rfl⟩ := Request.prepare_eq_ok_iff.mp ready
  have collection : collectionPath = .char '/' :: ("inboundSamlConfigs" : Text) := by decide
  have slash : ("/" : Text) = [.char '/'] := by decide
  have address : client.transport.endpoint ++ (callOf client.projectId plan).path =
      client.projectAddress ++ .char '/' ::
        (("inboundSamlConfigs" : Text) ++ .char '/' :: Percent.encodeComponent id) := by
    simp only [callOf, isPath, configSuffix, collection, slash, projectAddress, List.append_assoc,
      List.cons_append, List.nil_append]
  have parent : Target.IsPlainSegment "inboundSamlConfigs" :=
    ⟨by decide, by decide, by decide, by decide⟩
  rw [address] at parsed
  have ends := Target.afterLast_path_of_parse paths.noFragment paths.noQuery parent (by decide)
    formed.isPlainSegment parsed
  refine ⟨?_, unicode⟩
  rcases Request.eq_or_withQuery_of_withParameters placed with rfl | ⟨query, replaced⟩
  · exact ends
  · exact Target.afterLast_path_of_recheck replaced formed.isPlainSegment ends

theorem query_of_create {draft : CreateDraft} {id : Text} (given : draft.providerId = .str id)
    (isSent : (client.perform (.create (some (.create draft))) server).1.sent = some request) :
    request.target.query = some (Form.encode [("inboundSamlConfigId", id)]) ∧
      request.target.query.map Form.decode = some [(("inboundSamlConfigId" : Text), id)] := by
  obtain ⟨plan, planned, _, ready⟩ := sent_perform_eq_some_iff.mp isSent
  cases planned with
  | create built =>
      obtain ⟨_, isText, _⟩ := CreateDraft.eq_fields_of_build built
      rw [given] at isText
      cases isText
      obtain ⟨isQuery, isRead⟩ := query_of_calls rfl (List.cons_ne_nil _ _) ready
      exact ⟨isQuery, isRead⟩

theorem query_of_list {size : Int} {token : Option Text}
    (isSent : (client.perform (.list (tokenArgument token) (.int size)) server).1.sent =
      some request) :
    request.target.query.map Form.decode = some (pageParameters size token) := by
  obtain ⟨plan, planned, _, ready⟩ := sent_perform_eq_some_iff.mp isSent
  cases token with
  | none =>
      cases planned with
      | firstPage range =>
          rw [(query_of_calls rfl (List.cons_ne_nil _ _) ready).2, Form.pairs_int]
          rfl
  | some text =>
      cases planned with
      | page nonempty range =>
          rw [(query_of_calls rfl (List.cons_ne_nil _ _) ready).2, Form.pairs_int]
          rfl

/-- What is given in a query is read from it again.  The query of a creation is read as the ID
alone, and the query of a listing as its size and, where one was given, its token.  The ID is
also what the last segment of the path of every other operation is read as.  Operations are
sent, unless UTF-8 cannot write what they are given, or their query is too long. -/
theorem query_values_are_read_back (client : Client) :
    (∀ (draft : CreateDraft) (id : Text), draft.providerId = .str id →
      (∀ server request,
        (client.perform (.create (some (.create draft))) server).1.sent = some request →
        request.target.query.map Form.decode = some [(("inboundSamlConfigId" : Text), id)]) ∧
      (client.CanList → draft.build = .ok (draft.fields, id) → id.IsUnicode →
        draft.fields.IsUnicode →
        (Form.encode [("inboundSamlConfigId", id)]).length ≤ Target.longest →
        ∃ request, ∀ server,
          (client.perform (.create (some (.create draft))) server).1.sent = some request)) ∧
    (∀ (id : Text) (operation : Operation), operation.about? = some (.str id) →
      (client.HasPaths → ∀ server request,
        (client.perform operation server).1.sent = some request →
        Percent.readText (request.target.path.afterLast (.char '/')) = .ok id) ∧
      (∀ plan, operation.plan = .ok plan → client.Reaches plan.path → operation.IsUnicode →
        (∀ members ∈ plan.parameters,
          (Form.encode (Form.pairs members)).length ≤ Target.longest) →
        ∃ request, ∀ server, (client.perform operation server).1.sent = some request)) ∧
    ∀ (size : Int) (token : Option Text),
      (∀ server request,
        (client.perform (.list (tokenArgument token) (.int size)) server).1.sent = some request →
        request.target.query.map Form.decode = some (pageParameters size token)) ∧
      (client.CanList → 1 ≤ size ∧ size ≤ 100 → token ≠ some [] → CanAsk size token →
        ∃ request, ∀ server,
          (client.perform (.list (tokenArgument token) (.int size)) server).1.sent =
            some request) := by
  refine ⟨fun draft id given => ⟨?_, ?_⟩, fun id operation about => ⟨?_, ?_⟩,
    fun size token => ⟨?_, ?_⟩⟩
  · exact fun server request isSent => (query_of_create given isSent).2
  · intro can built idUnicode unicode fits
    have operationUnicode := (Operation.isUnicode_create_iff given).mpr ⟨idUnicode, unicode⟩
    refine Reaches.sends can.reaches (.create built) operationUnicode ?_
    rintro _ ⟨⟩
    exact fits
  · intro paths server request isSent
    obtain ⟨last, unicode⟩ := paths.afterLast_path about isSent
    rw [last]
    exact Percent.readText_encodeComponent unicode
  · exact fun plan isPlan reaches unicode fits =>
      reaches.sends (Operation.plan_eq_ok_iff.mp isPlan) unicode fits
  · exact fun server request isSent => query_of_list isSent
  · intro can range nonempty ask
    obtain ⟨plan, request, planned, ready, _⟩ := can.exists_request range nonempty ask
    exact ⟨request, fun server => sent_perform_eq_some_iff.mpr ⟨plan, planned, can.project, ready⟩⟩

/-- An ID with a space, a plus sign and a percent sign. -/
def spacedId : Text := "saml.a b+%"

/-- A draft of a configuration with this ID. -/
def spacedDraft : CreateDraft where
  providerId := .str spacedId
  fields :=
    .group "idpConfig"
      (.leaf "idpEntityId" (.text "idp")
        (.leaf "ssoUrl" (.text "urn:sso")
          (.leaf "idpCertificates" (.certificates [⟨"1"⟩]) .empty)))
      (.group "spConfig"
        (.leaf "spEntityId" (.text "rp") (.leaf "callbackUri" (.text "urn:back") .empty)) .empty)

/-- The space of this ID is a plus sign where the ID is in a query, and an escape where it is in
a path; both are read as the same ID.  A token with the signs that separate parameters is
read as it was given. -/
theorem spaced_id_is_read_back :
    ∃ created read listed,
      (∀ server,
        ((usual "my-project").perform (.create (some (.create spacedDraft))) server).1.sent =
          some created) ∧
      (∀ server, ((usual "my-project").perform (.get (.str spacedId)) server).1.sent = some read) ∧
      (∀ server, ((usual "my-project").perform (.list (.str "&=#+") (.int 7)) server).1.sent =
        some listed) ∧
      created.target.query = some ("inboundSamlConfigId=saml.a+b%2B%25" : Text) ∧
      created.target.query.map Form.decode = some [(("inboundSamlConfigId" : Text), spacedId)] ∧
      read.target.path.afterLast (.char '/') = ("saml.a%20b%2B%25" : Text) ∧
      Percent.readText (read.target.path.afterLast (.char '/')) = .ok spacedId ∧
      listed.target.query.map Form.decode =
        some [(("pageSize" : Text), ("7" : Text)), ("pageToken", "&=#+")] := by
  have paths : (usual "my-project").HasPaths := ⟨by decide, by decide⟩
  have built : spacedDraft.build = .ok (spacedDraft.fields, spacedId) := rfl
  have unicode : ∀ text ∈ spacedDraft.fields.texts, text.IsUnicode := by decide
  have ask : CanAsk 7 (some "&=#+") := by
    refine ⟨?_, by decide +kernel⟩
    rintro text ⟨⟩
    exact .ofString _
  obtain ⟨creation, segment, listing⟩ := query_values_are_read_back (usual "my-project")
  obtain ⟨createdRead, exists_created⟩ := creation spacedDraft spacedId rfl
  obtain ⟨listedRead, exists_listed⟩ := listing 7 (some "&=#+")
  obtain ⟨created, isCreated⟩ :=
    exists_created canList_usual built (.ofString _) unicode (by decide)
  obtain ⟨listed, isListed⟩ := exists_listed canList_usual (by decide) (by decide) ask
  have formed : ProviderId.WellFormed spacedId := ProviderId.isValid_iff.mp (by decide)
  have planned := Operation.Planned.get formed (.ofString _)
  have readUnicode : (Operation.get (.str spacedId)).IsUnicode := by decide
  obtain ⟨read, _, isRead⟩ :=
    (atAdmin_usual "my-project").sends (by decide) rfl planned readUnicode (by decide)
  have query := (query_of_create rfl (isCreated ⟨[]⟩)).1
  have last := (paths.afterLast_path rfl (isRead ⟨[]⟩)).1
  exact ⟨created, read, listed, isCreated, isRead, isListed, query,
    createdRead _ _ (isCreated ⟨[]⟩), last, (segment spacedId _ rfl).1 paths _ _ (isRead ⟨[]⟩),
    listedRead _ _ (isListed ⟨[]⟩)⟩

end Client

end SamlAdmin
