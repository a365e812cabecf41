import SamlAdmin.Proofs.Url.Settled

/-!
# The last segment of an address

An address is cut into its parts, loses its dot segments and is spelled, and each of these
steps may change all that stands in front.  A last segment of path signs stays what it is,
as long as no query and no fragment begins before it: what is cut off is cut off in front of
a slash that the segment has before it.
-/

namespace SamlAdmin

namespace Text

variable {separator : CodePoint}

theorem afterLast_of_notMem {part : Text} (clean : separator ∉ part) :
    afterLast separator part = part := by
  rw [afterLast, splitOn_of_notMem clean]
  rfl

theorem afterLast_behind (left right : Text) :
    afterLast separator (left ++ separator :: right) = afterLast separator right := by
  have filled := List.getLast?_eq_some_getLast (splitOn_ne_nil separator right)
  rw [afterLast, splitOn_append_cons, List.getLast?_append, filled, Option.some_or, ← filled,
    ← afterLast]

theorem afterLast_dropWhile (text : Text) :
    afterLast separator (text.dropWhile (· = separator)) = afterLast separator text := by
  induction text with
  | nil => rfl
  | cons point rest ih =>
      by_cases same : point = separator
      · have dropped : List.dropWhile (· = separator) (point :: rest) =
            List.dropWhile (· = separator) rest := by simp [same]
        rw [dropped, ih, same]
        exact (afterLast_behind [] rest).symm
      · have kept : List.dropWhile (· = separator) (point :: rest) = point :: rest := by
          simp [same]
        rw [kept]

end Text

namespace Target

/-- A segment that is left alone at the end of a path. -/
structure IsPlainSegment (segment : Text) : Prop where
  signs : ∀ point ∈ segment, isPathSign point = true
  noSlash : (.char '/' : CodePoint) ∉ segment
  noColon : (.char ':' : CodePoint) ∉ segment
  noDots : segment ≠ ("." : Text) ∧ segment ≠ (".." : Text)

/-! ## Spelling -/

theorem afterLast_encode (path : Text) :
    Text.afterLast (.char '/') (Percent.encode isPathSign path) =
      Percent.encode isPathSign (path.afterLast (.char '/')) := by
  rw [Text.afterLast, splitOn_encode, List.getLast?_map, Text.afterLast]
  cases (path.splitOn (.char '/')).getLast? with
  | none => rfl
  | some last => rfl

/-- Removing dot segments leaves the last segment, unless it is one of them. -/
theorem afterLast_removeDots {path segment : Text} (ends : path.afterLast (.char '/') = segment)
    (noDots : segment ≠ ("." : Text) ∧ segment ≠ (".." : Text)) :
    (removeDots path).afterLast (.char '/') = segment := by
  have nonempty := Text.splitOn_ne_nil (.char '/') path
  have cut := List.dropLast_concat_getLast nonempty
  rw [Text.afterLast, List.getLast?_eq_some_getLast nonempty, Option.getD_some] at ends
  rw [ends] at cut
  obtain ⟨before, kept⟩ : ∃ before, keptSegments path = before ++ [segment] := by
    rw [keptSegments, ← cut, List.foldl_append, List.foldl_cons, List.foldl_nil, keepSegment,
      if_neg noDots.1, if_neg noDots.2, List.reverse_cons]
    exact ⟨_, rfl⟩
  rw [Text.afterLast, splitOn_removeDots (by simp [kept]), kept, List.getLast?_concat,
    Option.getD_some]

/-- The spelling of a path has the last segment of the path. -/
theorem Spelled.afterLast_path {parts : Parts} {target : Target} {segment : Text}
    (spelled : Spelled parts target) (plain : IsPlainSegment segment)
    (ends : parts.path.afterLast (.char '/') = segment) :
    target.path.afterLast (.char '/') = segment := by
  have kept : ∀ path : Text, spell isPathSign path = .ok target.path →
      path.afterLast (.char '/') = segment → target.path.afterLast (.char '/') = segment := by
    intro path isSpelled isLast
    obtain ⟨_, same⟩ := spell_eq_ok_iff.mp isSpelled
    rw [same, afterLast_encode, isLast, Percent.encode_of_safe plain.signs]
  have path := spelled.path
  split at path
  · exact kept _ path (afterLast_removeDots ends plain.noDots)
  · exact kept _ path ends

/-! ## Cutting -/

/-- The path of a text behind its scheme: all of it, or what stands behind the authority that
it begins with. -/
def behindAuthority : Text → Text
  | .char '/' :: .char '/' :: rest => rest.drop (Text.beforeFirst (.char '/') rest).length
  | path => path

theorem path_ofText {text : Text} (noFragment : (.char '#' : CodePoint) ∉ (cutScheme text).2)
    (noQuery : (.char '?' : CodePoint) ∉ (cutScheme text).2) :
    (Parts.ofText text).path = behindAuthority (cutScheme text).2 := by
  simp only [Parts.ofText, cutAt_of_notMem noFragment, cutAt_of_notMem noQuery]
  generalize (cutScheme text).2 = rest
  split
  · rfl
  · next other =>
      rw [behindAuthority]
      exact other

theorem exists_cutScheme (front : Text) {back : Text} (noColon : (.char ':' : CodePoint) ∉ back) :
    ∃ rest, rest <:+ front ∧ (cutScheme (front ++ back)).2 = rest ++ back := by
  by_cases colon : (.char ':' : CodePoint) ∈ front
  · obtain ⟨scheme, rest, rfl, clean⟩ := List.eq_append_cons_of_mem colon
    have cut : cutAt (.char ':') (scheme ++ .char ':' :: rest ++ back) =
        (scheme, some (rest ++ back)) := by
      rw [List.append_assoc, List.cons_append]
      exact cutAt_append_cons clean (rest ++ back)
    rw [cutScheme, cut]
    dsimp only
    split
    · exact ⟨rest, (List.suffix_cons _ rest).trans (List.suffix_append scheme _), rfl⟩
    · exact ⟨_, List.suffix_refl _, rfl⟩
  · have clean : (.char ':' : CodePoint) ∉ front ++ back := by
      rw [List.mem_append, not_or]
      exact ⟨colon, noColon⟩
    rw [cutScheme, cutAt_of_notMem clean]
    exact ⟨front, List.suffix_refl front, rfl⟩

/-- An authority ends before the first slash behind it, so a last segment is left where the
text in front of it is longer than the opening of an authority. -/
theorem afterLast_behindAuthority {front segment : Text} (long : 2 ≤ front.length)
    (plain : IsPlainSegment segment) :
    (behindAuthority (front ++ .char '/' :: segment)).afterLast (.char '/') = segment := by
  have ends : ∀ before : Text,
      Text.afterLast (.char '/') (before ++ .char '/' :: segment) = segment := by
    intro before
    rw [Text.afterLast_behind, Text.afterLast_of_notMem plain.noSlash]
  have whole := ends front
  generalize text : front ++ .char '/' :: segment = behind at whole
  unfold behindAuthority
  split
  · next rest =>
      obtain ⟨others, rfl⟩ : ∃ others, rest = others ++ .char '/' :: segment := by
        match front, long with
        | first :: second :: others, _ =>
            simp only [List.cons_append, List.cons.injEq] at text
            exact ⟨others, text.2.2.symm⟩
      have slash : (.char '/' : CodePoint) ∈ others ++ .char '/' :: segment := by simp
      obtain ⟨host, path, cut, noSlash⟩ := List.eq_append_cons_of_mem slash
      have inRest := ends others
      rw [cut, Text.afterLast_behind] at inRest
      rw [cut, Text.beforeFirst_append_cons noSlash, List.drop_left]
      exact (Text.afterLast_behind [] path).trans inRest
  · exact whole

section Read

variable {front parent segment : Text}

/-- Before an address is spelled, its path has the last segment of its text. -/
theorem afterLast_path_ofText (noFragment : (.char '#' : CodePoint) ∉ front)
    (noQuery : (.char '?' : CodePoint) ∉ front) (parentPlain : IsPlainSegment parent)
    (named : parent ≠ []) (plain : IsPlainSegment segment) :
    (Parts.ofText (front ++ .char '/' :: (parent ++ .char '/' :: segment))).path.afterLast
      (.char '/') = segment := by
  have backSigns : ∀ point ∈ .char '/' :: (parent ++ .char '/' :: segment),
      isPathSign point = true := by
    rw [List.forall_mem_cons, List.forall_mem_append, List.forall_mem_cons]
    exact ⟨by decide, parentPlain.signs, by decide, plain.signs⟩
  have backColon : (.char ':' : CodePoint) ∉ .char '/' :: (parent ++ .char '/' :: segment) := by
    rw [List.mem_cons, List.mem_append, List.mem_cons, not_or, not_or, not_or]
    exact ⟨by decide, parentPlain.noColon, by decide, plain.noColon⟩
  obtain ⟨rest, isSuffix, cut⟩ := exists_cutScheme front backColon
  have clean : ∀ sign : CodePoint, isPathSign sign = false → sign ∉ front →
      sign ∉ (cutScheme (front ++ .char '/' :: (parent ++ .char '/' :: segment))).2 := by
    intro sign noSign notInFront
    rw [cut, List.mem_append, not_or]
    refine ⟨fun inRest => notInFront (isSuffix.subset inRest), fun inBack => ?_⟩
    rw [backSigns sign inBack] at noSign
    cases noSign
  have whole : rest ++ .char '/' :: (parent ++ .char '/' :: segment) =
      (rest ++ .char '/' :: parent) ++ .char '/' :: segment := by simp
  rw [path_ofText (clean _ (by decide) noFragment) (clean _ (by decide) noQuery), cut, whole]
  apply afterLast_behindAuthority _ plain
  have filled := List.length_pos_iff.mpr named
  rw [List.length_append, List.length_cons]
  omega

/-! ## Reading and checking -/

/-- Checking an address again leaves the last segment of its path. -/
theorem afterLast_path_of_recheck {parts : Parts} {target : Target}
    (checked : recheck parts = .ok target) (plain : IsPlainSegment segment)
    (ends : parts.path.afterLast (.char '/') = segment) :
    target.path.afterLast (.char '/') = segment :=
  (ofParts_eq_ok_iff.mp (recheck_eq_ok_iff.mp checked).2).afterLast_path plain ends

/-- An address that was read has the last segment of its text. -/
theorem afterLast_path_of_parse (noFragment : (.char '#' : CodePoint) ∉ front)
    (noQuery : (.char '?' : CodePoint) ∉ front) (parentPlain : IsPlainSegment parent)
    (named : parent ≠ []) (plain : IsPlainSegment segment) {target : Target}
    (parsed : parse (front ++ .char '/' :: (parent ++ .char '/' :: segment)) = .ok target) :
    target.path.afterLast (.char '/') = segment := by
  obtain ⟨read, spelled, same⟩ := exists_read_of_parse parsed
  have ends : read.path.afterLast (.char '/') = segment :=
    (ofParts_eq_ok_iff.mp spelled).afterLast_path plain
      (afterLast_path_ofText noFragment noQuery parentPlain named plain)
  rcases same with rfl | ⟨_, checked⟩
  · exact ends
  · apply afterLast_path_of_recheck checked plain
    refine (Text.afterLast_behind [] _).trans ?_
    rw [Text.afterLast_dropWhile, ends]

end Read

end Target

end SamlAdmin
