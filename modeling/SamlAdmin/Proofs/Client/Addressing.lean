import SamlAdmin.Proofs.Client.Sending

/-!
# An operation addresses its own configuration

The path of an operation on one configuration ends with the spelled ID as one segment.
Reading that segment gives the ID back, so no ID reaches another configuration, another
collection or another project, and different IDs have different addresses.
-/

namespace SamlAdmin

/-- An address of the configuration with a given ID, which a segment spells. -/
structure Addresses (project id segment : Text) (target : Target) : Prop where
  path : target.path =
    adminPath ++ ("/projects/" : Text) ++ project ++ ("/inboundSamlConfigs/" : Text) ++ segment
  nonempty : segment ≠ []
  escaped : Percent.Escaped segment
  /-- The spelled ID is the last of the segments of the path, and only that. -/
  single : target.path.splitOn (.char '/') = configsSegments project ++ [segment]
  survives : Target.removeDots target.path = target.path
  readBack : Percent.readText segment = .ok id
  extracted : (Percent.readText target.path).map ProviderId.ofResourceName = .ok id
  noFragment : target.fragment = none

namespace IsProjectName

variable {project id : Text}

theorem plain (named : IsProjectName project) :
    ∀ point ∈ configsPath project ++ [.char '/'], point ≠ .char '%' ∧ point.isScalar = true := by
  have final := named.finalPath_configsPath
  intro point member
  rcases List.mem_append.mp member with inPath | isSlash
  · have sign := final.signs point inPath
    refine ⟨?_, Target.isScalar_of_isPrintableExcept sign⟩
    rw [configsPath] at inPath
    simp only [List.mem_append] at inPath
    rcases inPath with ((inAdmin | inProjects) | inProject) | inCollection
    · exact (by decide : ∀ point ∈ adminPath, point ≠ .char '%') point inAdmin
    · exact (by decide : ∀ point ∈ ("/projects/" : Text), point ≠ .char '%') point inProjects
    · exact (isPathSign_of_isUnreserved (named.isUnreserved inProject)).2.2
    · exact (by decide : ∀ point ∈ collectionPath, point ≠ .char '%') point inCollection
  · rw [List.mem_singleton] at isSlash
    subst isSlash
    decide

theorem addresses_resourcePath (named : IsProjectName project)
    (formed : ProviderId.WellFormed id) (unicode : id.IsUnicode) (query : Option Text) :
    Addresses project id (Percent.encodeComponent id)
      (Target.admin (resourcePath project id) query) where
  path := by
    have collection : ("/inboundSamlConfigs/" : Text) = collectionPath ++ [.char '/'] := by decide
    rw [collection]
    simp [Target.admin, resourcePath, configsPath]
  nonempty := by
    obtain ⟨rest, spelled⟩ := formed.encodeComponent_eq
    rw [spelled]
    exact List.append_ne_nil_of_left_ne_nil (by decide) rest
  escaped := Percent.Escaped.of_component id
  single := by
    have noSlash := noSlash_of_escaped (Percent.Escaped.of_component id)
    have parents : ∀ segment ∈ configsSegments project, (.char '/' : CodePoint) ∉ segment := by
      intro segment isSegment
      rcases List.mem_cons.mp isSegment with rfl | isSegment
      · exact List.not_mem_nil
      · exact (named.plainSegments segment isSegment).2.1
    rw [Target.admin, resourcePath_eq_join]
    apply Text.splitOn_join (by simp)
    rw [List.forall_mem_append, List.forall_mem_singleton]
    exact ⟨parents, noSlash⟩
  survives := Target.removeDots_eq_self (named.finalPath_resourcePath formed).noDots
  readBack := Percent.readText_encodeComponent unicode
  extracted := by
    have plain := named.plain
    have whole : resourcePath project id =
        (configsPath project ++ [.char '/']) ++ Percent.encodeComponent id := by
      simp [resourcePath]
    have read : Percent.readText (resourcePath project id) =
        .ok ((configsPath project ++ [.char '/']) ++ id) := by
      rw [whole]
      exact Percent.readText_append_encodeComponent (fun point member => (plain point member).1)
        (fun point member => (plain point member).2) unicode
    have last := formed.ofResourceName_append (configsPath project)
    simp only [Target.admin, read, Except.map, List.append_assoc, List.singleton_append, last]
  noFragment := rfl

end IsProjectName

namespace Client

/-- What an operation on one configuration sends goes to that configuration. -/
theorem AtAdmin.target_of_about {project id : Text} {client : Client} {operation : Operation}
    {server : Server} {request : Request} (admin : AtAdmin project client)
    (named : IsProjectName project) (about : operation.about? = some (.str id))
    (isSent : (client.perform operation server).1.sent = some request) :
    ProviderId.WellFormed id ∧ id.IsUnicode ∧
      ∃ query, request.target = Target.admin (resourcePath project id) query ∧
        (operation = .get (.str id) ∨ operation = .delete (.str id) → query = none) := by
  obtain ⟨plan, planned, _, ready⟩ := sent_perform_eq_some_iff.mp isSent
  obtain ⟨_, _, _, body, _, rfl⟩ := (admin.calls_eq_ok_iff named planned).mp ready
  obtain ⟨path, formed, unicode⟩ := planned.path_of_about about
  refine ⟨formed, unicode, Request.queryText plan.parameters, ?_, ?_⟩
  · rw [← Operation.Planned.resourcePath_of_suffix, ← path]
    rfl
  · rintro (rfl | rfl)
    · cases planned
      rfl
    · cases planned
      rfl

theorem id_eq_of_toText_eq {project id otherId : Text} (named : IsProjectName project)
    (formed : ProviderId.WellFormed id) (unicode : id.IsUnicode)
    (otherFormed : ProviderId.WellFormed otherId) (otherUnicode : otherId.IsUnicode)
    {query otherQuery : Option Text}
    (same : (Target.admin (resourcePath project otherId) otherQuery).toText =
      (Target.admin (resourcePath project id) query).toText) : otherId = id := by
  have final := named.finalPath_resourcePath formed
  have otherFinal := named.finalPath_resourcePath otherFormed
  have samePath : resourcePath project otherId = resourcePath project id := by
    have before := congrArg (Text.beforeFirst (.char '?')) same
    rw [Target.beforeFirst_toText_admin otherFinal, Target.beforeFirst_toText_admin final] at before
    exact List.append_cancel_left before
  have sameSegment : Percent.encodeComponent otherId = Percent.encodeComponent id :=
    (List.cons.inj (List.append_cancel_left samePath)).2
  have read := congrArg Percent.readText sameSegment
  rw [Percent.readText_encodeComponent otherUnicode, Percent.readText_encodeComponent unicode]
    at read
  exact Except.ok.inj read

/-- An operation on one configuration sends a request whose path ends with the ID as one
segment, whatever code points the ID holds.  Requests for different IDs go to different
addresses.  A request is sent wherever the arguments are in order, the texts are Unicode
text and the address is not too long. -/
theorem sent_request_addresses_own_config {project id : Text} (named : IsProjectName project)
    (valid : ProviderId.isValid id = true) {operation : Operation}
    (about : operation.about? = some (.str id)) (version : Text) (channels : Channels)
    (server : Server) :
    let client := Client.new (.str project) Settings.defaultEndpoint version channels
    (∀ request, (client.perform operation server).1.sent = some request →
      (∃ segment, Addresses project id segment request.target) ∧
      (operation = .get (.str id) ∨ operation = .delete (.str id) →
        request.target.query = none) ∧
      ∀ otherId other otherServer otherRequest, ProviderId.isValid otherId = true →
        other.about? = some (.str otherId) →
        (client.perform other otherServer).1.sent = some otherRequest → otherId ≠ id →
        otherRequest.target.toText ≠ request.target.toText) ∧
    (∀ plan, operation.plan = .ok plan → operation.IsUnicode →
      (versionHeaders version).check = .ok () →
      (targetOf project plan).toText.length ≤ Target.longest →
      ∃ request, (client.perform operation server).1.sent = some request) ∧
    (operation = .get (.str id) ∨ operation = .delete (.str id) →
      ((∃ plan, operation.plan = .ok plan) ↔ id.IsUnicode)) := by
  intro client
  have admin : AtAdmin project client := atAdmin_new project version channels
  have formed := ProviderId.isValid_iff.mp valid
  refine ⟨fun request isSent => ?_, fun plan isPlan unicode headers fits => ?_, fun bare => ?_⟩
  · obtain ⟨_, unicode, query, target, noQuery⟩ := admin.target_of_about named about isSent
    refine ⟨⟨Percent.encodeComponent id, ?_⟩, fun bare => ?_, ?_⟩
    · rw [target]
      exact named.addresses_resourcePath formed unicode query
    · rw [target, noQuery bare]
      rfl
    · intro otherId other otherServer otherRequest _ otherAbout otherSent different same
      obtain ⟨otherFormed, otherUnicode, otherQuery, otherTarget, _⟩ :=
        admin.target_of_about named otherAbout otherSent
      rw [target, otherTarget] at same
      exact different (id_eq_of_toText_eq named formed unicode otherFormed otherUnicode same)
  · have planned := Operation.plan_eq_ok_iff.mp isPlan
    obtain ⟨request, ready, _, _⟩ := admin.exists_sent named headers planned unicode fits
    exact ⟨request, sent_perform_eq_some_iff.mpr ⟨plan, planned, named.isTruthy, ready⟩⟩
  · constructor
    · rintro ⟨plan, isPlan⟩
      exact ((Operation.plan_eq_ok_iff.mp isPlan).path_of_about about).2.2
    · intro unicode
      rcases bare with rfl | rfl
      · exact ⟨_, Operation.plan_eq_ok_iff.mpr (.get formed unicode)⟩
      · exact ⟨_, Operation.plan_eq_ok_iff.mpr (.delete formed unicode)⟩

/-- An ID with a percent sign, a space and a letter beyond ASCII is sent as one segment. -/
theorem sent_request_addresses_escaped_id :
    ∃ request, ((new (.str "my-project") Settings.defaultEndpoint Settings.defaultVersion
        (.ofLimits (.all .null))).perform (.get (.str "saml.50% ü")) ⟨[]⟩).1.sent = some request ∧
      (∃ segment, Addresses "my-project" "saml.50% ü" segment request.target) ∧
      request.target.query = none := by
  have named : IsProjectName ("my-project" : Text) := by decide
  have valid : ProviderId.isValid ("saml.50% ü" : Text) = true := by decide
  have unicode : Text.IsUnicode ("saml.50% ü" : Text) := .ofString _
  have about : (Operation.get (.str ("saml.50% ü" : Text))).about? = some (.str "saml.50% ü") := rfl
  obtain ⟨addressed, sends, planned⟩ := sent_request_addresses_own_config named valid about
    Settings.defaultVersion (.ofLimits (.all .null)) ⟨[]⟩
  obtain ⟨plan, isPlan⟩ := (planned (Or.inl rfl)).mpr unicode
  have fits : (targetOf "my-project" plan).toText.length ≤ Target.longest := by
    cases isPlan
    decide
  have operationUnicode : (Operation.get (.str ("saml.50% ü" : Text))).IsUnicode := by
    intro text member
    rw [List.mem_singleton.mp member]
    exact unicode
  obtain ⟨request, isSent⟩ := sends plan isPlan operationUnicode rfl fits
  obtain ⟨segment, noQuery, _⟩ := addressed request isSent
  exact ⟨request, isSent, segment, noQuery (Or.inl rfl)⟩

end Client

end SamlAdmin
