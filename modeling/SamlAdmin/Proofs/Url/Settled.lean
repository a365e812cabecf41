import SamlAdmin.Proofs.Url.Escapes
import SamlAdmin.Proofs.Url.Target

/-!
# The path that an address settles on

Whatever text is put behind the admin endpoint, the address that is sent has the path of
that text up to its query or its fragment, without dot segments and with every sign
escaped that a path may not hold.  The segments that are left are some of the segments of
the text, in their order, and another check of the address leaves the path alone.
-/

namespace SamlAdmin.Target

/-! ## The segments that are kept -/

/-- The segments of a path that are left when its dot segments are removed. -/
def keptSegments (path : Text) : List Text :=
  ((path.splitOn (.char '/')).foldl keepSegment []).reverse

/-- What a path may not go back behind: its first segment, which is empty. -/
def IsRooted (kept : List Text) : Prop := kept.getLast? = some []

theorem keepSegment_sublist (kept : List Text) (segment : Text) :
    (keepSegment kept segment).Sublist (segment :: kept) := by
  unfold keepSegment
  split
  · exact List.sublist_cons_self segment kept
  split
  · split
    · exact List.sublist_cons_self segment kept
    · exact (List.tail_sublist kept).trans (List.sublist_cons_self segment kept)
  · exact List.Sublist.refl _

theorem foldl_keepSegment_sublist (kept segments : List Text) :
    (segments.foldl keepSegment kept).Sublist (segments.reverse ++ kept) := by
  induction segments generalizing kept with
  | nil => exact List.Sublist.refl kept
  | cons segment rest ih =>
      rw [List.foldl_cons, List.reverse_cons, List.append_assoc]
      apply (ih (keepSegment kept segment)).trans
      exact List.Sublist.append_left (keepSegment_sublist kept segment) rest.reverse

/-- The segments that are kept are some of those of the path, in their order. -/
theorem keptSegments_sublist (path : Text) :
    (keptSegments path).Sublist (path.splitOn (.char '/')) := by
  have kept := (foldl_keepSegment_sublist [] (path.splitOn (.char '/'))).reverse
  rwa [List.append_nil, List.reverse_reverse] at kept

theorem keepSegment_noDots {kept : List Text} {segment : Text}
    (noDots : ∀ other ∈ kept, other ≠ ("." : Text) ∧ other ≠ (".." : Text)) :
    ∀ other ∈ keepSegment kept segment, other ≠ ("." : Text) ∧ other ≠ (".." : Text) := by
  unfold keepSegment
  split
  · exact noDots
  · next noDot =>
      split
      · split
        · exact noDots
        · exact fun other member => noDots other (List.mem_of_mem_tail member)
      · next noTwo => exact List.forall_mem_cons.mpr ⟨⟨noDot, noTwo⟩, noDots⟩

theorem keptSegments_noDots (path : Text) :
    ∀ segment ∈ keptSegments path, segment ≠ ("." : Text) ∧ segment ≠ (".." : Text) := by
  have kept : ∀ (segments kept : List Text),
      (∀ other ∈ kept, other ≠ ("." : Text) ∧ other ≠ (".." : Text)) →
      ∀ other ∈ segments.foldl keepSegment kept, other ≠ ("." : Text) ∧ other ≠ (".." : Text) := by
    intro segments
    induction segments with
    | nil => exact fun kept noDots => noDots
    | cons segment rest ih => exact fun kept noDots => ih _ (keepSegment_noDots noDots)
  intro segment member
  exact kept _ [] (List.forall_mem_nil _) segment (List.mem_reverse.mp member)

theorem keepSegment_isRooted {kept : List Text} {segment : Text} (rooted : IsRooted kept) :
    IsRooted (keepSegment kept segment) := by
  unfold keepSegment
  split
  · exact rooted
  split
  · split
    · exact rooted
    · next more =>
        -- two dots leave more than one segment behind, so the last of them stays
        rw [not_or] at more
        cases kept with
        | nil => exact absurd rfl more.1
        | cons first others =>
            cases others with
            | nil =>
                have isEmpty : first = [] := by simpa [IsRooted] using rooted
                subst isEmpty
                exact absurd rfl more.2
            | cons next others => simpa [IsRooted] using rooted
  · cases kept with
    | nil => cases rooted
    | cons first others => simpa [IsRooted] using rooted

/-- A path from the root keeps the root. -/
theorem keptSegments_ne_nil (rest : Text) : keptSegments (.char '/' :: rest) ≠ [] := by
  have kept : ∀ (segments kept : List Text), IsRooted kept →
      IsRooted (segments.foldl keepSegment kept) := by
    intro segments
    induction segments with
    | nil => exact fun kept rooted => rooted
    | cons segment others ih => exact fun kept rooted => ih _ (keepSegment_isRooted rooted)
  have root : keepSegment [] [] = [[]] := by decide
  rw [keptSegments, Text.splitOn, if_pos rfl, List.foldl_cons, root]
  intro nothing
  have rooted := kept (Text.splitOn (.char '/') rest) [[]] rfl
  rw [List.reverse_eq_nil_iff.mp nothing] at rooted
  cases rooted

/-! ## Spelling them -/

theorem isPathSign_percent : isPathSign (.char '%') = true := by decide

theorem isPathSign_of_isHexDigit {point : CodePoint} (digit : point.isHexDigit = true) :
    isPathSign point = true :=
  CodePoint.forall_ascii
    (motive := fun point => point.isHexDigit = true → isPathSign point = true)
    (by decide) (CodePoint.isAscii_of_isHexDigit digit) digit

end SamlAdmin.Target

namespace SamlAdmin.Percent

theorem mem_escape {octet : UInt8} {point : CodePoint} (member : point ∈ escape octet) :
    point = .char '%' ∨ point.isHexDigit = true := by
  have bound := octet.toNat_lt
  have high := hexValue?_hexDigit (show octet.toNat / 16 < 16 by omega)
  have low := hexValue?_hexDigit (show octet.toNat % 16 < 16 by omega)
  simp only [escape, List.mem_cons, List.not_mem_nil, or_false] at member
  rcases member with percent | first | second
  · exact Or.inl percent
  · exact Or.inr (by rw [first, CodePoint.isHexDigit, high]; rfl)
  · exact Or.inr (by rw [second, CodePoint.isHexDigit, low]; rfl)

variable {safe : CodePoint → Bool}

theorem isSafe_of_mem_encode (percent : safe (.char '%') = true)
    (digits : ∀ point : CodePoint, point.isHexDigit = true → safe point = true) {text : Text}
    {point : CodePoint} (member : point ∈ encode safe text) : safe point = true := by
  obtain ⟨source, _, inSpelling⟩ := List.mem_flatMap.mp member
  rw [encodePoint] at inSpelling
  split at inSpelling
  · next isSafe =>
      rw [List.mem_singleton] at inSpelling
      rw [inSpelling, isSafe]
  · obtain ⟨octet, _, inEscape⟩ := List.mem_flatMap.mp inSpelling
    rcases mem_escape inEscape with rfl | digit
    · exact percent
    · exact digits point digit

/-- What is spelled without a percent sign is spelled as it stands. -/
theorem encode_eq_self_of_noPercent {text : Text}
    (clean : (.char '%' : CodePoint) ∉ encode safe text) : encode safe text = text := by
  apply encode_of_safe
  intro point member
  cases isSafe : safe point with
  | true => rfl
  | false =>
      obtain ⟨others, spelled⟩ := encodePoint_of_notSafe isSafe
      refine absurd (List.mem_flatMap.mpr ⟨point, member, ?_⟩) clean
      rw [spelled]
      exact List.mem_cons_self

end SamlAdmin.Percent

namespace SamlAdmin.Target

/-- The path that a text settles on. -/
def settle (path : Text) : Text := Percent.encode isPathSign (removeDots path)

theorem notMem_escape_slash (octet : UInt8) : (.char '/' : CodePoint) ∉ Percent.escape octet := by
  intro member
  rcases Percent.mem_escape member with percent | digit
  · exact absurd percent (by decide)
  · exact absurd digit (by decide)

theorem splitOn_encode (path : Text) :
    Text.splitOn (.char '/') (Percent.encode isPathSign path) =
      (path.splitOn (.char '/')).map (Percent.encode isPathSign) := by
  have joined : Percent.encode isPathSign (Text.join [.char '/'] (path.splitOn (.char '/'))) =
      Text.join [.char '/'] ((path.splitOn (.char '/')).map (Percent.encode isPathSign)) :=
    Percent.encode_join (by decide) _
  rw [Text.join_splitOn] at joined
  rw [joined]
  apply Text.splitOn_join
  · simpa using Text.splitOn_ne_nil (.char '/') path
  · intro part member
    obtain ⟨segment, isSegment, rfl⟩ := List.mem_map.mp member
    exact Percent.notMem_encode notMem_escape_slash (Text.notMem_of_mem_splitOn isSegment)

theorem splitOn_removeDots {path : Text} (filled : keptSegments path ≠ []) :
    (removeDots path).splitOn (.char '/') = keptSegments path :=
  Text.splitOn_join filled fun _ member =>
    Text.notMem_of_mem_splitOn ((keptSegments_sublist path).subset member)

/-- The segments of the path that a text settles on. -/
theorem splitOn_settle (rest : Text) :
    (settle (.char '/' :: rest)).splitOn (.char '/') =
      (keptSegments (.char '/' :: rest)).map (Percent.encode isPathSign) := by
  rw [settle, splitOn_encode, splitOn_removeDots (keptSegments_ne_nil rest)]

theorem isSettled_settle (rest : Text) : IsSettled (settle (.char '/' :: rest)) where
  signs := fun point member =>
    Percent.isSafe_of_mem_encode isPathSign_percent (fun _ => isPathSign_of_isHexDigit) member
  noDots := by
    have same : ∀ {segment spelling : Text}, Percent.encode isPathSign segment = spelling →
        (.char '%' : CodePoint) ∉ spelling → segment = spelling := by
      intro segment spelling spelled clean
      rw [← spelled] at clean
      rw [← spelled, Percent.encode_eq_self_of_noPercent clean]
    rw [splitOn_settle]
    intro part member
    obtain ⟨segment, isKept, rfl⟩ := List.mem_map.mp member
    obtain ⟨noDot, noTwo⟩ := keptSegments_noDots _ segment isKept
    exact ⟨fun dot => noDot (same dot (by decide)), fun two => noTwo (same two (by decide))⟩

theorem spell_eq_ok_iff {isSign : CodePoint → Bool} {part spelling : Text} :
    spell isSign part = .ok spelling ↔
      (∀ point ∈ part, point.isScalar = true) ∧ spelling = Percent.encode isSign part := by
  rw [spell]
  cases found : part.find? (!·.isScalar) with
  | none =>
      have scalars : ∀ point ∈ part, point.isScalar = true := by
        simpa using List.find?_eq_none.mp found
      constructor
      · intro same
        cases same
        exact ⟨scalars, rfl⟩
      · rintro ⟨_, rfl⟩
        rfl
  | some point =>
      constructor
      · intro failed
        cases failed
      · rintro ⟨scalars, _⟩
        have isHalf := List.find?_some found
        rw [scalars point (List.mem_of_find?_eq_some found)] at isHalf
        cases isHalf

/-! ## Addresses at the admin endpoint -/

/-- The part of a text that belongs to the path: all before a fragment or a query. -/
def pathPart (text : Text) : Text :=
  Text.beforeFirst (.char '?') (Text.beforeFirst (.char '#') text)

theorem isPrefix_beforeFirst (sign : CodePoint) (text : Text) :
    Text.beforeFirst sign text <+: text := List.takeWhile_prefix _

theorem notMem_beforeFirst (sign : CodePoint) (text : Text) :
    sign ∉ Text.beforeFirst sign text := by
  intro member
  have others := List.all_eq_true.mp List.all_takeWhile sign member
  simp at others

/-- A text without a query or a fragment is a path as a whole. -/
theorem pathPart_of_clean {text : Text} (noFragment : (.char '#' : CodePoint) ∉ text)
    (noQuery : (.char '?' : CodePoint) ∉ text) : pathPart text = text := by
  rw [pathPart, Text.beforeFirst_of_notMem noFragment, Text.beforeFirst_of_notMem noQuery]

/-- Where a query or a fragment begins in the first part of a text, the path is shorter
than this part. -/
theorem pathPart_of_delimiter {left : Text}
    (delimiter : (.char '#' : CodePoint) ∈ left ∨ (.char '?' : CodePoint) ∈ left) (right : Text) :
    ∃ rest, rest ≠ [] ∧ left = pathPart (left ++ right) ++ rest := by
  have inWhole : pathPart (left ++ right) <+: left ++ right :=
    (isPrefix_beforeFirst _ _).trans (isPrefix_beforeFirst _ _)
  have noQuery : (.char '?' : CodePoint) ∉ pathPart (left ++ right) := notMem_beforeFirst _ _
  have noFragment : (.char '#' : CodePoint) ∉ pathPart (left ++ right) := fun member =>
    notMem_beforeFirst _ _ ((isPrefix_beforeFirst _ _).subset member)
  have notAll : ¬left <+: pathPart (left ++ right) := by
    intro within
    cases delimiter with
    | inl fragment => exact noFragment (within.subset fragment)
    | inr query => exact noQuery (within.subset query)
  rcases List.prefix_or_prefix_of_prefix inWhole (List.prefix_append left right) with
    ⟨rest, same⟩ | within
  · refine ⟨rest, ?_, same.symm⟩
    rintro rfl
    rw [List.append_nil] at same
    rw [same] at notAll
    exact notAll (List.prefix_refl left)
  · exact absurd within notAll

theorem fst_cutAt (sign : CodePoint) (text : Text) :
    (cutAt sign text).1 = Text.beforeFirst sign text := by
  rw [cutAt]
  split <;> rfl

theorem ofText_origin {left : Text} (rooted : left.head? = some (.char '/'))
    (noFragment : (.char '#' : CodePoint) ∉ left) (noQuery : (.char '?' : CodePoint) ∉ left)
    (rest : Text) :
    ∃ query fragment, Parts.ofText (adminOrigin ++ (left ++ rest)) =
      ⟨"https", adminHost, left ++ pathPart rest, query, fragment⟩ := by
  have clean : ∀ sign : CodePoint, sign ∉ ("//" : Text) ++ adminHost → sign ∉ left →
      ∀ text, ∃ after, cutAt sign (("//" : Text) ++ adminHost ++ (left ++ text)) =
        (("//" : Text) ++ adminHost ++ (left ++ Text.beforeFirst sign text), after) := by
    intro sign notInHost notInLeft text
    refine ⟨_, Prod.ext ?_ rfl⟩
    rw [fst_cutAt, Text.beforeFirst_append notInHost, Text.beforeFirst_append notInLeft]
  obtain ⟨fragment, fragmentCut⟩ := clean (.char '#') (by decide) noFragment rest
  obtain ⟨query, queryCut⟩ :=
    clean (.char '?') (by decide) noQuery (Text.beforeFirst (.char '#') rest)
  refine ⟨query, fragment, ofText_of_cuts fragmentCut queryCut ?_⟩
  rw [List.head?_append, rooted]
  rfl

/-- What is read of an address is made of the parts that the address is cut into. -/
theorem ofParts_of_read {text : Text} {target : Target} (isRead : read text = .ok target) :
    ofParts (Parts.ofText text) = .ok target := by
  rw [read] at isRead
  split at isRead
  · cases isRead
  split at isRead
  · cases isRead
  · exact isRead

/-- What is read is the address, unless it has no scheme or no host. -/
theorem exists_read_of_parse {text : Text} {plain : Target} (parsed : parse text = .ok plain) :
    ∃ target, ofParts (Parts.ofText text) = .ok target ∧
      (plain = target ∨ (!target.scheme.isEmpty && !target.host.isEmpty) = false ∧
        recheck ⟨[], [], .char '/' :: target.path.dropWhile (· = .char '/'), target.query, none⟩ =
          .ok plain) := by
  rw [parse] at parsed
  cases isRead : read text with
  | error fault =>
      rw [isRead] at parsed
      cases parsed
  | ok target =>
      refine ⟨target, ofParts_of_read isRead, ?_⟩
      rw [isRead] at parsed
      simp only [bind, Except.bind] at parsed
      split at parsed
      · cases parsed
        exact Or.inl rfl
      · next unplaced => exact Or.inr ⟨Bool.eq_false_iff.mpr unplaced, parsed⟩

/-- An address at the admin endpoint that was read has the path that its text settles on. -/
theorem path_of_parse {left rest : Text} (rooted : left.head? = some (.char '/'))
    (noFragment : (.char '#' : CodePoint) ∉ left) (noQuery : (.char '?' : CodePoint) ∉ left)
    {plain : Target} (parsed : parse (adminOrigin ++ (left ++ rest)) = .ok plain) :
    plain.scheme = "https" ∧ plain.path = settle (left ++ pathPart rest) ∧
      ∀ point ∈ removeDots (left ++ pathPart rest), point.isScalar = true := by
  obtain ⟨query, fragment, cut⟩ := ofText_origin rooted noFragment noQuery rest
  obtain ⟨target, spelled, same⟩ := exists_read_of_parse parsed
  rw [cut] at spelled
  have spelling := ofParts_eq_ok_iff.mp spelled
  have lower : Text.asciiLower ("https" : Text) = "https" := by decide
  have isHttps : target.scheme = "https" := spelling.scheme.trans lower
  have isAdmin : target.host = adminHost := by
    have known : hostOf (cutAuthority adminHost).2.1 = .ok adminHost := rfl
    exact Except.ok.inj (spelling.host.symm.trans known)
  rcases same with rfl | ⟨unplaced, _⟩
  · have named : List.isEmpty ("https" : Text) = false := by decide
    obtain ⟨scalars, settled⟩ := spell_eq_ok_iff.mp (spelling.path_of_scheme named)
    exact ⟨isHttps, settled, scalars⟩
  · rw [isHttps, isAdmin] at unplaced
    exact absurd unplaced (by decide)

theorem path_of_withQuery {plain target : Target} (named : plain.scheme.isEmpty = false)
    (settled : IsSettled plain.path) {query : Option Text}
    (replaced : plain.withQuery query = .ok target) : target.path = plain.path := by
  obtain ⟨_, spelled⟩ := recheck_eq_ok_iff.mp replaced
  have path := (ofParts_eq_ok_iff.mp spelled).path_of_scheme named
  have same : spell isPathSign plain.path = .ok plain.path := spell_eq_self settled.signs
  have noDots : removeDots plain.path = plain.path := removeDots_eq_self settled.noDots
  have kept : spell isPathSign plain.path = .ok target.path := by
    rw [← path]
    exact congrArg (spell isPathSign) noDots.symm
  exact Except.ok.inj (kept.symm.trans same)

end SamlAdmin.Target
