import SamlAdmin.Proofs.Client.Sending
import SamlAdmin.Proofs.Url.Settled

/-!
# Staying within a project

The ID of a configuration is escaped before it becomes a part of a path, and the ID of a
project is not.  So a project ID is one segment of the path that is sent only if it has no
sign that an address reads as something else: a slash, the beginning of a query or a
fragment, a dot segment, or an escape.  With any of these, what is sent goes to another
path.
-/

namespace SamlAdmin

/-- A project ID that is one segment of a path as it stands. -/
structure IsSegmentOfPath (project : Text) : Prop where
  noSlash : (.char '/' : CodePoint) ∉ project
  noQuery : (.char '?' : CodePoint) ∉ project
  noFragment : (.char '#' : CodePoint) ∉ project
  noDots : project ≠ ("." : Text) ∧ project ≠ (".." : Text)
  noEscape : Percent.hasEscape project = false

/-- A path within a project: the ID of the project is read from exactly one segment, and
the ID of the configuration, if there is one, from exactly one other. -/
def StaysIn (project : Text) (about : Option Value) (path : Text) : Prop :=
  ∃ segment, (.char '/' : CodePoint) ∉ segment ∧ Percent.readText segment = .ok project ∧
    match about with
    | none => path = configsPath segment
    | some id => ∃ text last, id = .str text ∧ (.char '/' : CodePoint) ∉ last ∧
        Percent.readText last = .ok text ∧ path = configsPath segment ++ .char '/' :: last

/-! ## The path that is sent -/

def projectsPath : Text := adminPath ++ ("/projects/" : Text)

theorem Request.path_of_withParameters {parameters : Option (List (Text × Value))}
    {plain target : Target} (named : plain.scheme.isEmpty = false)
    (settled : Target.IsSettled plain.path)
    (placed : withParameters parameters plain = .ok target) : target.path = plain.path := by
  rcases eq_or_withQuery_of_withParameters placed with rfl | ⟨query, replaced⟩
  · rfl
  · exact Target.path_of_withQuery named settled replaced

/-- The address of a planned request is below the path of all projects. -/
theorem Client.AtAdmin.address {project : Text} {client : Client} (admin : AtAdmin project client)
    (plan : Plan) : client.transport.endpoint ++ (callOf client.projectId plan).path =
      Target.adminOrigin ++ (projectsPath ++ (project ++ plan.path)) := by
  rw [admin.endpoint, admin.project]
  simp [callOf, Value.plain, projectsPath]

/-- What is sent for a plan goes to the path that the ID of the project and the path of the
plan settle on. -/
theorem Client.AtAdmin.path_of_calls {project : Text} {client : Client} {plan : Plan}
    {request : Request} (admin : AtAdmin project client) (ready : client.calls plan = .ok request) :
    request.target.path =
        Target.settle (projectsPath ++ Target.pathPart (project ++ plan.path)) ∧
      ∀ point ∈ Target.removeDots (projectsPath ++ Target.pathPart (project ++ plan.path)),
        point.isScalar = true := by
  rw [calls, Transport.prepared, admin.address] at ready
  obtain ⟨plain, target, _, parsed, _, placed, _, rfl⟩ := Request.prepare_eq_ok_iff.mp ready
  obtain ⟨scheme, path, scalars⟩ :=
    Target.path_of_parse (by decide) (by decide) (by decide) parsed
  have named : plain.scheme.isEmpty = false := by
    rw [scheme]
    decide
  have settled : Target.IsSettled plain.path := by
    rw [path]
    exact Target.isSettled_settle _
  exact ⟨(Request.path_of_withParameters named settled placed).trans path, scalars⟩

/-- A planned path has the name of the collection for its first segment, and the spelled ID
for its second where it is the path of one configuration. -/
theorem Operation.Planned.exists_segments {operation : Operation} {plan : Plan}
    (planned : operation.Planned plan) :
    ∃ (tail : Text) (more : List Text), plan.path = .char '/' :: tail ∧
      Text.splitOn (.char '/') tail = ("inboundSamlConfigs" : Text) :: more ∧
      ((operation.about? = none ∧ more = [] ∧ plan.path = collectionPath) ∨
        ∃ id, operation.about? = some (.str id) ∧ ProviderId.WellFormed id ∧ id.IsUnicode ∧
          more = [Percent.encodeComponent id] ∧
          plan.path = collectionPath ++ .char '/' :: Percent.encodeComponent id) := by
  have collection : collectionPath = .char '/' :: ("inboundSamlConfigs" : Text) := by decide
  have noSlash : (.char '/' : CodePoint) ∉ ("inboundSamlConfigs" : Text) := by decide
  cases about : operation.about? with
  | none =>
      have path : plan.path = collectionPath := by
        cases planned with
        | create _ => rfl
        | firstPage _ => rfl
        | page _ _ => rfl
        | _ => cases about
      exact ⟨_, [], path.trans collection, Text.splitOn_of_notMem noSlash,
        Or.inl ⟨rfl, rfl, path⟩⟩
  | some given =>
      have isText : ∃ id : Text, given = .str id := by
        cases planned <;> cases about <;> exact ⟨_, rfl⟩
      obtain ⟨id, rfl⟩ := isText
      obtain ⟨suffix, formed, unicode⟩ := planned.path_of_about about
      have slash : ("/" : Text) = [.char '/'] := by decide
      have path : plan.path = collectionPath ++ .char '/' :: Percent.encodeComponent id := by
        rw [suffix, configSuffix, slash, List.append_assoc]
        rfl
      have spelled := noSlash_of_escaped (Percent.Escaped.of_component id)
      refine ⟨("inboundSamlConfigs" : Text) ++ .char '/' :: Percent.encodeComponent id,
        [Percent.encodeComponent id], ?_, ?_, Or.inr ⟨id, rfl, formed, unicode, rfl, path⟩⟩
      · rw [path, collection, List.cons_append]
      · rw [Text.splitOn_append_cons, Text.splitOn_of_notMem noSlash,
          Text.splitOn_of_notMem spelled]
        rfl

def projectsSegments : List Text := [[], "v2beta1", "projects"]

theorem splitOn_projectsPath (rest : Text) :
    (projectsPath ++ rest).splitOn (.char '/') =
      projectsSegments ++ rest.splitOn (.char '/') := by
  have cut : projectsPath = ("/v2beta1/projects" : Text) ++ [.char '/'] := by decide
  have parents : Text.splitOn (.char '/') ("/v2beta1/projects" : Text) = projectsSegments := by
    decide
  rw [cut, List.append_assoc, List.singleton_append, Text.splitOn_append_cons, parents]

/-! ## Paths that leave the project -/

/-- A path within a project that a text settles on has the ID of the project in a segment of
this text, with as many segments after it as belong to the operation. -/
theorem StaysIn.exists_kept {project rest : Text} {about : Option Value}
    (stays : StaysIn project about (Target.settle (projectsPath ++ rest))) :
    ∃ front segment more, Target.keptSegments (projectsPath ++ rest) = front ++ segment :: more ∧
      front.length = 3 ∧ more.length = 1 + about.toList.length ∧
      Percent.decode segment = Utf8.encode project := by
  obtain ⟨spelled, noSlash, read, shape⟩ := stays
  have configs : (configsPath spelled).splitOn (.char '/') = configsSegments spelled := by
    rw [configsPath_eq_join]
    apply Text.splitOn_join (by simp [configsSegments])
    simp only [configsSegments, List.forall_mem_cons]
    exact ⟨by decide, by decide, by decide, noSlash, by decide, List.forall_mem_nil _⟩
  have exists_last : ∃ lasts : List Text, lasts.length = about.toList.length ∧
      (Target.settle (projectsPath ++ rest)).splitOn (.char '/') =
        projectsSegments ++ spelled :: "inboundSamlConfigs" :: lasts := by
    cases about with
    | none =>
        refine ⟨[], rfl, ?_⟩
        rw [shape, configs]
        rfl
    | some id =>
        obtain ⟨text, last, _, lastNoSlash, _, path⟩ := shape
        refine ⟨[last], rfl, ?_⟩
        rw [path, Text.splitOn_append_cons, configs, Text.splitOn_of_notMem lastNoSlash]
        rfl
  obtain ⟨lasts, count, cut⟩ := exists_last
  have rooted : projectsPath ++ rest =
      .char '/' :: (("v2beta1/projects/" : Text) ++ rest) := by
    have begins : projectsPath = .char '/' :: ("v2beta1/projects/" : Text) := by decide
    rw [begins]
    rfl
  rw [rooted, Target.splitOn_settle, ← rooted] at cut
  obtain ⟨front, others, kept, frontCut, othersCut⟩ := List.map_eq_append_iff.mp cut
  obtain ⟨segment, more, rfl, segmentSpelled, moreCut⟩ := List.map_eq_cons_iff.mp othersCut
  refine ⟨front, segment, more, kept, ?_, ?_, ?_⟩
  · have lengths := congrArg List.length frontCut
    simpa [projectsSegments] using lengths
  · have lengths := congrArg List.length moreCut
    rw [List.length_map, List.length_cons, count] at lengths
    omega
  · rw [← Percent.decode_of_readText read, ← segmentSpelled]
    exact (Percent.decode_encode_of_percent Target.isPathSign_percent
      (fun _ => Target.isPathSign_of_isHexDigit) segment).symm

theorem sublist_of_kept {rest segment : Text} {front more : List Text}
    (kept : Target.keptSegments (projectsPath ++ rest) = front ++ segment :: more)
    (three : front.length = 3) : (segment :: more).Sublist (rest.splitOn (.char '/')) := by
  have within := (Target.keptSegments_sublist (projectsPath ++ rest)).drop 3
  rw [kept, splitOn_projectsPath, List.drop_left' three] at within
  exact within

theorem mem_of_sublist_append {segment : Text} {more first last : List Text}
    (within : (segment :: more).Sublist (first ++ last)) (count : last.length ≤ more.length) :
    segment ∈ first := by
  obtain ⟨left, right, same, inFirst, inLast⟩ := List.sublist_append_iff.mp within
  cases left with
  | nil =>
      have short := inLast.length_le
      rw [List.nil_append] at same
      rw [← same, List.length_cons] at short
      omega
  | cons head tail =>
      rw [List.cons_append] at same
      obtain ⟨rfl, _⟩ := List.cons.inj same
      exact inFirst.subset List.mem_cons_self

/-- A text whose octets fit into one segment of its path has no query or fragment, which the
path would lose. -/
theorem noDelimiter_of_length {project right segment : Text}
    (isPart : segment ∈ (Target.pathPart (project ++ right)).splitOn (.char '/'))
    (enough : (Utf8.encode project).length ≤ (Utf8.encode segment).length) :
    (.char '#' : CodePoint) ∉ project ∧ (.char '?' : CodePoint) ∉ project := by
  rw [← not_or]
  intro delimiter
  obtain ⟨rest, nonempty, whole⟩ := Target.pathPart_of_delimiter delimiter right
  have part := (Utf8.length_encode_of_mem_splitOn isPart).1
  have longer := Utf8.length_encode_pos nonempty
  have sum := congrArg (fun text => (Utf8.encode text).length) whole
  simp only [Utf8.length_encode_append] at sum
  omega

theorem isSegmentOfPath_of_staysIn {project tail : Text} {about : Option Value}
    {behind : List Text} (cut : Text.splitOn (.char '/') tail = behind)
    (count : behind.length = 1 + about.toList.length)
    (stays : StaysIn project about
      (Target.settle (projectsPath ++ Target.pathPart (project ++ .char '/' :: tail))))
    (noFragment : (.char '#' : CodePoint) ∉ (.char '/' :: tail : Text))
    (noQuery : (.char '?' : CodePoint) ∉ (.char '/' :: tail : Text)) :
    IsSegmentOfPath project := by
  obtain ⟨front, segment, more, kept, three, moreCount, decoded⟩ := stays.exists_kept
  have within := sublist_of_kept kept three
  -- the octets of the segment are enough for the ID, and those of a part of the ID are not
  have enough : (Utf8.encode project).length ≤ (Utf8.encode segment).length := by
    rw [← decoded]
    exact Percent.length_decode_le segment
  have clean := noDelimiter_of_length (within.subset List.mem_cons_self) enough
  have whole : Target.pathPart (project ++ .char '/' :: tail) = project ++ .char '/' :: tail := by
    apply Target.pathPart_of_clean
    · rw [List.mem_append, not_or]
      exact ⟨clean.1, noFragment⟩
    · rw [List.mem_append, not_or]
      exact ⟨clean.2, noQuery⟩
  rw [whole] at kept within
  rw [Text.splitOn_append_cons, cut] at within
  have isPart := mem_of_sublist_append within (by omega)
  have noSlash : (.char '/' : CodePoint) ∉ project := by
    intro slash
    have shorter := (Utf8.length_encode_of_mem_splitOn isPart).2 slash
    omega
  rw [Text.splitOn_of_notMem noSlash] at isPart
  obtain rfl := List.mem_singleton.mp isPart
  have isKept : segment ∈ Target.keptSegments (projectsPath ++ (segment ++ .char '/' :: tail)) := by
    rw [kept]
    exact List.mem_append_right front List.mem_cons_self
  refine ⟨noSlash, clean.2, clean.1, Target.keptSegments_noDots _ segment isKept, ?_⟩
  cases escaped : Percent.hasEscape segment with
  | false => rfl
  | true =>
      have shorter := Percent.length_decode_lt escaped
      rw [decoded] at shorter
      exact absurd shorter (Nat.lt_irrefl _)

/-! ## Paths that stay -/

theorem Operation.Planned.isPathSign {operation : Operation} {plan : Plan}
    (planned : operation.Planned plan) : ∀ point ∈ plan.path, Target.isPathSign point = true := by
  have collection : ∀ point ∈ collectionPath, Target.isPathSign point = true := by decide
  have resource : ∀ id, ∀ point ∈ configSuffix id, Target.isPathSign point = true := by
    intro id
    rw [configSuffix, List.forall_mem_append, List.forall_mem_append]
    exact ⟨⟨collection, by decide⟩, fun point member =>
      isPathSign_of_escaped (Percent.Escaped.of_component id) member⟩
  cases planned with
  | get _ _ => exact resource _
  | create _ => exact collection
  | update _ _ _ => exact resource _
  | delete _ _ => exact resource _
  | firstPage _ => exact collection
  | page _ _ => exact collection

/-- A project ID that is one segment is escaped as one, and the rest of the path is sent as
it was planned. -/
theorem IsSegmentOfPath.settle_eq {project : Text} (whole : IsSegmentOfPath project)
    {operation : Operation} {plan : Plan} (planned : operation.Planned plan) :
    Target.removeDots (projectsPath ++ Target.pathPart (project ++ plan.path)) =
        projectsPath ++ (project ++ plan.path) ∧
      Target.settle (projectsPath ++ Target.pathPart (project ++ plan.path)) =
        projectsPath ++ (Percent.encode Target.isPathSign project ++ plan.path) := by
  have signs := planned.isPathSign
  have asPlanned : Target.pathPart (project ++ plan.path) = project ++ plan.path := by
    apply Target.pathPart_of_clean
    · rw [List.mem_append, not_or]
      exact ⟨whole.noFragment, fun member => absurd (signs _ member) (by decide)⟩
    · rw [List.mem_append, not_or]
      exact ⟨whole.noQuery, fun member => absurd (signs _ member) (by decide)⟩
  have noDots : Target.removeDots (projectsPath ++ (project ++ plan.path)) =
      projectsPath ++ (project ++ plan.path) := by
    obtain ⟨tail, more, isPath, cut, ofOperation⟩ := planned.exists_segments
    apply Target.removeDots_eq_self
    rw [isPath, splitOn_projectsPath, Text.splitOn_append_cons,
      Text.splitOn_of_notMem whole.noSlash, cut]
    simp only [projectsSegments, List.forall_mem_append, List.forall_mem_cons]
    refine ⟨⟨by decide, by decide, by decide, List.forall_mem_nil _⟩,
      ⟨whole.noDots, List.forall_mem_nil _⟩, by decide, ?_⟩
    rcases ofOperation with ⟨_, rfl, _⟩ | ⟨id, _, formed, _, rfl, _⟩
    · exact List.forall_mem_nil _
    · exact List.forall_mem_singleton.mpr formed.encodeComponent_ne_dots
  rw [Target.settle, asPlanned, noDots]
  refine ⟨rfl, ?_⟩
  have parents : Percent.encode Target.isPathSign projectsPath = projectsPath :=
    Percent.encode_of_safe (by decide)
  have planSpelled : Percent.encode Target.isPathSign plan.path = plan.path :=
    Percent.encode_of_safe signs
  rw [Percent.encode_append, Percent.encode_append, parents, planSpelled]

theorem staysIn_of_isSegmentOfPath {project : Text} (whole : IsSegmentOfPath project)
    (unicode : project.IsUnicode) {operation : Operation} {plan : Plan}
    (planned : operation.Planned plan) :
    StaysIn project operation.about?
      (Target.settle (projectsPath ++ Target.pathPart (project ++ plan.path))) := by
  rw [(whole.settle_eq planned).2]
  refine ⟨Percent.encode Target.isPathSign project,
    Percent.notMem_encode Target.notMem_escape_slash whole.noSlash, ?_, ?_⟩
  · rw [Percent.readText, Percent.decode_encode_of_percent Target.isPathSign_percent
      (fun _ => Target.isPathSign_of_isHexDigit)]
    exact (Percent.readText_self_iff unicode).mpr whole.noEscape
  · obtain ⟨_, _, _, _, ofOperation⟩ := planned.exists_segments
    rcases ofOperation with ⟨about, _, path⟩ | ⟨id, about, _, idUnicode, _, path⟩
    · simp only [about, path, configsPath, projectsPath, List.append_assoc]
    · simp only [about]
      refine ⟨id, Percent.encodeComponent id, rfl,
        noSlash_of_escaped (Percent.Escaped.of_component id),
        Percent.readText_encodeComponent idUnicode, ?_⟩
      simp only [path, configsPath, projectsPath, List.append_assoc]

/-- What a client of the default endpoint sends goes to a path within its project exactly if
the project ID is one segment of a path as it stands.  For every other project ID the path
is another one, as the ID is not escaped. -/
theorem Client.sent_request_stays_in_project_iff {project version : Text} {channels : Channels}
    {operation : Operation} {server : Server} {request : Request}
    (isSent : ((new (.str project) Settings.defaultEndpoint version channels).perform operation
      server).1.sent = some request) :
    StaysIn project operation.about? request.target.path ↔ IsSegmentOfPath project := by
  have admin := atAdmin_new project version channels
  obtain ⟨plan, planned, _, ready⟩ := sent_perform_eq_some_iff.mp isSent
  obtain ⟨path, scalars⟩ := admin.path_of_calls ready
  rw [path]
  constructor
  · intro stays
    obtain ⟨tail, more, isPath, cut, ofOperation⟩ := planned.exists_segments
    have signs := planned.isPathSign
    rw [isPath] at stays signs
    apply isSegmentOfPath_of_staysIn cut _ stays
    · exact fun member => absurd (signs _ member) (by decide)
    · exact fun member => absurd (signs _ member) (by decide)
    · rcases ofOperation with ⟨about, rfl, _⟩ | ⟨id, about, _, _, rfl, _⟩
      · rw [about]
        rfl
      · rw [about]
        rfl
  · intro whole
    rw [(whole.settle_eq planned).1] at scalars
    apply staysIn_of_isSegmentOfPath whole _ planned
    intro point member
    exact scalars point (List.mem_append_right _ (List.mem_append_left _ member))


/-- A request for a usual project ID stays in the project.  A project ID with a slash sends
the deletion of a configuration to a path outside of it. -/
theorem Client.deletion_stays_in_plain_project :
    (∃ request, ((usual "my-project").perform (.delete (.str "saml.okta")) ⟨[]⟩).1.sent =
        some request ∧
      StaysIn "my-project" (some (.str "saml.okta")) request.target.path) ∧
    ∃ request, ((usual "a/b").perform (.delete (.str "saml.okta")) ⟨[]⟩).1.sent = some request ∧
      ¬StaysIn "a/b" (some (.str "saml.okta")) request.target.path := by
  have plainSent : ((usual "my-project").perform (.delete (.str "saml.okta")) ⟨[]⟩).1.sent.isSome =
      true := by decide +kernel
  have otherSent : ((usual "a/b").perform (.delete (.str "saml.okta")) ⟨[]⟩).1.sent.isSome =
      true := by decide +kernel
  obtain ⟨plainRequest, isPlain⟩ := Option.isSome_iff_exists.mp plainSent
  obtain ⟨otherRequest, isOther⟩ := Option.isSome_iff_exists.mp otherSent
  have segment : IsSegmentOfPath "my-project" :=
    ⟨by decide, by decide, by decide, by decide, by decide⟩
  refine ⟨⟨plainRequest, isPlain, ?_⟩, otherRequest, isOther, ?_⟩
  · exact (sent_request_stays_in_project_iff isPlain).mpr segment
  · intro stays
    have whole := (sent_request_stays_in_project_iff isOther).mp stays
    exact whole.noSlash (by decide)

end SamlAdmin
