import SamlAdmin.Client
import SamlAdmin.Proofs.ProviderId
import SamlAdmin.Proofs.Url.Target
import SamlAdmin.Settings

/-!
# The addresses of a project

Below the admin endpoint, a project has one collection of configurations, and each
configuration has a path of its own.  For a project of letters, digits and hyphens
these paths are in their final spelling, so they go out as they were put together.
-/

namespace SamlAdmin

/-- A text counts as present unless it is empty. -/
theorem Value.isTruthy_str_iff {text : Text} : Value.isTruthy (.str text) = true ↔ text ≠ [] := by
  simp [Value.isTruthy]

/-- What makes a text the usual name of a project. -/
structure IsProjectName (project : Text) : Prop where
  nonempty : project ≠ []
  signs : ∀ point ∈ project, (point.isAlpha || point.isDigit || point = .char '-') = true

instance (project : Text) : Decidable (IsProjectName project) :=
  decidable_of_iff
    (project ≠ [] ∧
      ∀ point ∈ project, (point.isAlpha || point.isDigit || point = .char '-') = true)
    ⟨fun both => ⟨both.1, both.2⟩, fun named => ⟨named.nonempty, named.signs⟩⟩

def adminPath : Text := "/v2beta1"

def configsPath (project : Text) : Text :=
  adminPath ++ ("/projects/" : Text) ++ project ++ collectionPath

def resourcePath (project id : Text) : Text :=
  configsPath project ++ .char '/' :: Percent.encodeComponent id

theorem endpoint_ofEndpoint_default (headers : Headers) (channels : Channels) :
    (Transport.ofEndpoint Settings.defaultEndpoint headers channels).endpoint =
      Target.adminOrigin ++ adminPath := by
  have noSlash : Text.dropEndWhile (· = .char '/') Settings.defaultEndpoint =
      Target.adminOrigin ++ adminPath := by decide
  exact noSlash

namespace IsProjectName

variable {project id : Text}

theorem isUnreserved (named : IsProjectName project) {point : CodePoint}
    (member : point ∈ project) : Percent.isUnreserved point = true := by
  have sign := named.signs point member
  simp only [Bool.or_eq_true, decide_eq_true_eq] at sign
  rcases sign with (alpha | digit) | rfl
  · simp [Percent.isUnreserved, alpha]
  · simp [Percent.isUnreserved, digit]
  · decide

theorem isTruthy (named : IsProjectName project) : Value.isTruthy (.str project) = true :=
  Value.isTruthy_str_iff.mpr named.nonempty

theorem ne_dots (named : IsProjectName project) :
    project ≠ ("." : Text) ∧ project ≠ (".." : Text) := by
  constructor
  · rintro rfl
    exact absurd (named.signs (.char '.') (by decide)) (by decide)
  · rintro rfl
    exact absurd (named.signs (.char '.') (by decide)) (by decide)

end IsProjectName

theorem isPathSign_of_isUnreserved {point : CodePoint}
    (unreserved : Percent.isUnreserved point = true) :
    Target.isPathSign point = true ∧ point ≠ .char '/' ∧ point ≠ .char '%' :=
  Percent.forall_unreserved
    (motive := fun point =>
      Target.isPathSign point = true ∧ point ≠ .char '/' ∧ point ≠ .char '%')
    (by decide) unreserved

theorem isPathSign_of_escaped {text : Text} (escaped : Percent.Escaped text) {point : CodePoint}
    (member : point ∈ text) : Target.isPathSign point = true := by
  rcases escaped.sign member with unreserved | rfl
  · exact (isPathSign_of_isUnreserved unreserved).1
  · decide

theorem noSlash_of_escaped {text : Text} (escaped : Percent.Escaped text) :
    (.char '/' : CodePoint) ∉ text := by
  intro member
  rcases escaped.sign member with unreserved | same
  · exact (isPathSign_of_isUnreserved unreserved).2.1 rfl
  · exact absurd same (by decide)

/-- The segments of the path of a collection. -/
def configsSegments (project : Text) : List Text :=
  [[], "v2beta1", "projects", project, "inboundSamlConfigs"]

theorem configsPath_eq_join (project : Text) :
    configsPath project = Text.join [.char '/'] (configsSegments project) := by
  have root : adminPath ++ ("/projects/" : Text) =
      .char '/' :: (("v2beta1" : Text) ++ .char '/' :: (("projects" : Text) ++ [.char '/'])) := by
    decide
  have collection : collectionPath = .char '/' :: ("inboundSamlConfigs" : Text) := by decide
  rw [configsPath, root, collection]
  simp [configsSegments, Text.join]

theorem resourcePath_eq_join (project id : Text) :
    resourcePath project id =
      Text.join [.char '/'] (configsSegments project ++ [Percent.encodeComponent id]) := by
  rw [resourcePath, configsPath_eq_join]
  simp [configsSegments, Text.join]

section Final

variable {project id : Text}

/-- A path that is joined from plain segments is in its final spelling. -/
theorem finalPath_of_join {segments : List Text} (nonempty : segments ≠ [])
    (plain : ∀ segment ∈ segments, (∀ point ∈ segment, Target.isPathSign point = true) ∧
      (.char '/' : CodePoint) ∉ segment ∧ segment ≠ ("." : Text) ∧ segment ≠ (".." : Text)) :
    Target.FinalPath (Text.join [.char '/'] ([] :: segments)) where
  rooted := by
    cases segments with
    | nil => exact absurd rfl nonempty
    | cons first others => rfl
  signs := by
    intro point member
    rcases Text.mem_of_mem_join member with separator | ⟨part, isPart, inPart⟩
    · rw [List.mem_singleton] at separator
      subst separator
      decide
    · rcases List.mem_cons.mp isPart with rfl | isSegment
      · cases inPart
      · exact (plain part isSegment).1 point inPart
  noDots := by
    have cut : Text.splitOn (.char '/') (Text.join [.char '/'] ([] :: segments)) =
        [] :: segments := by
      apply Text.splitOn_join (by simp)
      intro part isPart
      rcases List.mem_cons.mp isPart with rfl | isSegment
      · exact List.not_mem_nil
      · exact (plain part isSegment).2.1
    rw [cut]
    intro segment isPart
    rcases List.mem_cons.mp isPart with rfl | isSegment
    · exact ⟨by decide, by decide⟩
    · exact (plain segment isSegment).2.2

theorem IsProjectName.plainSegments (named : IsProjectName project) :
    ∀ segment ∈ (configsSegments project).tail,
      (∀ point ∈ segment, Target.isPathSign point = true) ∧
        (.char '/' : CodePoint) ∉ segment ∧ segment ≠ ("." : Text) ∧ segment ≠ (".." : Text) := by
  have noSlash : (.char '/' : CodePoint) ∉ project := fun member =>
    (isPathSign_of_isUnreserved (named.isUnreserved member)).2.1 rfl
  intro segment isSegment
  simp only [configsSegments, List.tail_cons, List.mem_cons, List.not_mem_nil, or_false]
    at isSegment
  rcases isSegment with rfl | rfl | rfl | rfl
  · decide
  · decide
  · exact ⟨fun point member => (isPathSign_of_isUnreserved (named.isUnreserved member)).1,
      noSlash, named.ne_dots⟩
  · decide

theorem IsProjectName.finalPath_configsPath (named : IsProjectName project) :
    Target.FinalPath (configsPath project) := by
  rw [configsPath_eq_join]
  exact finalPath_of_join (by simp) named.plainSegments

theorem IsProjectName.finalPath_resourcePath (named : IsProjectName project)
    (formed : ProviderId.WellFormed id) : Target.FinalPath (resourcePath project id) := by
  have escaped := Percent.Escaped.of_component id
  rw [resourcePath_eq_join]
  apply finalPath_of_join (by simp)
  intro segment isSegment
  rcases List.mem_append.mp isSegment with inParent | isLast
  · exact named.plainSegments segment inParent
  · rw [List.mem_singleton] at isLast
    subst isLast
    exact ⟨fun point member => isPathSign_of_escaped escaped member, noSlash_of_escaped escaped,
      formed.encodeComponent_ne_dots⟩

end Final

end SamlAdmin
