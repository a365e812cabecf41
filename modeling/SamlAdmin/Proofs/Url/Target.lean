import SamlAdmin.Proofs.Text.Split
import SamlAdmin.Proofs.Url.Percent
import SamlAdmin.Url.Target

/-!
# Addresses that are in their final spelling

A path that begins at the root, holds only signs that a path may hold and has no dot
segment is kept as it is, whenever the address is checked.  So is a query of query
signs.  What the check can still refuse is a length, and a check that succeeded says
that no length was exceeded.
-/

namespace SamlAdmin.Target

/-! ## Cutting -/

theorem cutAt_append_cons {sign : CodePoint} {left : Text} (clean : sign ∉ left)
    (right : Text) : cutAt sign (left ++ sign :: right) = (left, some right) := by
  have before := Text.beforeFirst_append_cons clean right
  have shorter : left.length < (left ++ sign :: right).length := by simp
  rw [cutAt]
  simp only [before, if_pos shorter]
  simp [List.drop_append]

theorem cutAt_of_notMem {sign : CodePoint} {text : Text} (clean : sign ∉ text) :
    cutAt sign text = (text, none) := by
  simp [cutAt, Text.beforeFirst_of_notMem clean]

/-! ## Paths -/

theorem foldl_keepSegment {segments : List Text} (kept : List Text)
    (plain : ∀ segment ∈ segments, segment ≠ ("." : Text) ∧ segment ≠ (".." : Text)) :
    segments.foldl keepSegment kept = segments.reverse ++ kept := by
  induction segments generalizing kept with
  | nil => rfl
  | cons segment rest ih =>
      obtain ⟨noDot, noDots⟩ := plain segment List.mem_cons_self
      have restPlain := fun other member => plain other (List.mem_cons_of_mem segment member)
      rw [List.foldl_cons, keepSegment, if_neg noDot, if_neg noDots, ih _ restPlain]
      simp

/-- A path without dot segments survives their removal. -/
theorem removeDots_eq_self {path : Text}
    (plain : ∀ segment ∈ path.splitOn (.char '/'),
      segment ≠ ("." : Text) ∧ segment ≠ (".." : Text)) :
    removeDots path = path := by
  rw [removeDots, foldl_keepSegment [] plain, List.append_nil, List.reverse_reverse,
    Text.join_splitOn]

/-- A path that a check leaves alone: it has path signs only and no dot segment. -/
structure IsSettled (path : Text) : Prop where
  signs : ∀ point ∈ path, isPathSign point = true
  noDots : ∀ segment ∈ path.splitOn (.char '/'),
    segment ≠ ("." : Text) ∧ segment ≠ (".." : Text)

/-- A path in its final spelling. -/
structure FinalPath (path : Text) : Prop extends IsSettled path where
  rooted : path.head? = some (.char '/')

theorem isPrintableExcept_ne {others : List Char} {point : CodePoint}
    (sign : isPrintableExcept others point = true) {other : Char} (excepted : other ∈ others) :
    point ≠ .char other := by
  rintro rfl
  simp [isPrintableExcept, excepted] at sign

theorem isControl_of_isPrintableExcept {others : List Char} {point : CodePoint}
    (sign : isPrintableExcept others point = true) : isControl point = false := by
  cases point with
  | char value =>
      simp only [isPrintableExcept, Bool.and_eq_true, decide_eq_true_eq] at sign
      simp only [isControl, Bool.or_eq_false_iff, decide_eq_false_iff_not]
      simp only [CodePoint.toNat]
      omega
  | surrogate offset => simp [isPrintableExcept] at sign

theorem isScalar_of_isPrintableExcept {others : List Char} {point : CodePoint}
    (sign : isPrintableExcept others point = true) : point.isScalar = true := by
  cases point with
  | char value => rfl
  | surrogate offset => simp [isPrintableExcept] at sign

/-- A part that holds only signs of its kind is its own final spelling. -/
theorem spell_eq_self {others : List Char} {part : Text}
    (signs : ∀ point ∈ part, isPrintableExcept others point = true) :
    spell (isPrintableExcept others) part = .ok part := by
  have noHalf : part.find? (!·.isScalar) = none := by
    rw [List.find?_eq_none]
    intro point member
    simp [isScalar_of_isPrintableExcept (signs point member)]
  rw [spell, noHalf, Percent.encode_of_safe signs]

theorem spell?_eq_self {others : List Char} {part : Option Text}
    (signs : ∀ text ∈ part, ∀ point ∈ text, isPrintableExcept others point = true) :
    spell? (isPrintableExcept others) part = .ok part := by
  cases part with
  | none => rfl
  | some text =>
      rw [spell?, spell_eq_self (signs text rfl)]
      rfl

/-! ## Taking the spelling apart -/

private theorem exists_ok_of_bind {ε α β : Type} {first : Except ε α} {next : α → Except ε β}
    {result : β} (finished : first >>= next = .ok result) :
    ∃ value, first = .ok value ∧ next value = .ok result := by
  cases first with
  | error fault => cases finished
  | ok value => exact ⟨value, rfl, finished⟩

/-- Whether the path of an address begins at a root: it has a scheme or an authority. -/
def isAbsolute (scheme : Text) (target : Target) : Bool :=
  !scheme.isEmpty || (!target.userinfo.isEmpty || !target.host.isEmpty || target.port.isSome)

/-- The final spelling of the parts of an address, part by part. -/
structure Spelled (parts : Parts) (target : Target) : Prop where
  scheme : target.scheme = parts.scheme.asciiLower
  userinfo : spell isUserinfoSign (cutAuthority parts.authority).1 = .ok target.userinfo
  host : hostOf (cutAuthority parts.authority).2.1 = .ok target.host
  port : portOf parts.scheme (cutAuthority parts.authority).2.2 = .ok target.port
  singleSlash : (!isAbsolute parts.scheme target &&
    (parts.path.afterPrefix? ("//" : Text)).isSome) = false
  noColon : (!isAbsolute parts.scheme target && parts.path.head? = some (.char ':')) = false
  path : spell isPathSign (if isAbsolute parts.scheme target then removeDots parts.path
    else parts.path) = .ok target.path
  query : spell? isQuerySign parts.query = .ok target.query
  fragment : spell? isFragmentSign parts.fragment = .ok target.fragment

theorem ofParts_eq_ok_iff {parts : Parts} {target : Target} :
    ofParts parts = .ok target ↔ Spelled parts target := by
  constructor
  · intro spelled
    rw [ofParts] at spelled
    obtain ⟨userinfo, userinfoSpelled, spelled⟩ := exists_ok_of_bind spelled
    obtain ⟨host, hostSpelled, spelled⟩ := exists_ok_of_bind spelled
    obtain ⟨port, portSpelled, spelled⟩ := exists_ok_of_bind spelled
    simp only at spelled
    split at spelled
    · cases spelled
    next singleSlash =>
    split at spelled
    · cases spelled
    next noColon =>
    obtain ⟨path, pathSpelled, spelled⟩ := exists_ok_of_bind spelled
    obtain ⟨query, querySpelled, spelled⟩ := exists_ok_of_bind spelled
    obtain ⟨fragment, fragmentSpelled, spelled⟩ := exists_ok_of_bind spelled
    cases spelled
    exact ⟨rfl, userinfoSpelled, hostSpelled, portSpelled, Bool.eq_false_iff.mpr singleSlash,
      Bool.eq_false_iff.mpr noColon, pathSpelled, querySpelled, fragmentSpelled⟩
  · rintro ⟨scheme, userinfo, host, port, singleSlash, noColon, path, query, fragment⟩
    rw [isAbsolute] at singleSlash noColon path
    simp only [ofParts, bind, Except.bind, userinfo, host, port, singleSlash, noColon, path, query,
      fragment, Bool.false_eq_true, if_false, ← scheme]

/-- Below a scheme, the path of an address is spelled without its dots. -/
theorem Spelled.path_of_scheme {parts : Parts} {target : Target} (spelled : Spelled parts target)
    (named : parts.scheme.isEmpty = false) :
    spell isPathSign (removeDots parts.path) = .ok target.path := by
  have absolute : isAbsolute parts.scheme target = true := by
    rw [isAbsolute, named]
    rfl
  have path := spelled.path
  rwa [absolute, if_pos rfl] at path

/-- Parts that can be spelled can be spelled with any other query of query signs. -/
theorem Spelled.withQuery {parts : Parts} {target : Target} (spelled : Spelled parts target)
    {query : Option Text} (signs : ∀ text ∈ query, ∀ point ∈ text, isQuerySign point = true) :
    Spelled { parts with query } { target with query } :=
  { spelled with query := spell?_eq_self signs }

/-! ## Addresses below the admin endpoint -/

/-- The host of the admin endpoint. -/
def adminHost : Text := "identitytoolkit.googleapis.com"

/-- The admin endpoint up to its path. -/
def adminOrigin : Text := ("https://" : Text) ++ adminHost

/-- The address of a path and a query at the admin endpoint. -/
def admin (path : Text) (query : Option Text) : Target where
  scheme := "https"
  userinfo := []
  host := adminHost
  port := none
  path := path
  query := query
  fragment := none

theorem spelled_admin {path : Text} (final : FinalPath path) {query : Option Text}
    (signs : ∀ text ∈ query, ∀ point ∈ text, isQuerySign point = true) :
    Spelled ⟨"https", adminHost, path, query, none⟩ (admin path query) where
  scheme := rfl
  userinfo := rfl
  host := rfl
  port := rfl
  singleSlash := rfl
  noColon := rfl
  path := by
    have noDots : removeDots path = path := removeDots_eq_self final.noDots
    exact (congrArg (spell isPathSign) noDots).trans (spell_eq_self final.signs)
  query := spell?_eq_self signs
  fragment := rfl

/-- Neither the host nor a path holds the sign that begins a part after them. -/
theorem notMem_admin {path : Text} (final : FinalPath path) {other : Char}
    (excepted : other ∈ [' ', '"', '#', '<', '>', '?', '\x60', '\x7b', '\x7d'])
    (notInHost : (.char other : CodePoint) ∉ ("//" : Text) ++ adminHost) :
    (.char other : CodePoint) ∉ ("//" : Text) ++ adminHost ++ path := by
  intro member
  rcases List.mem_append.mp member with inHost | inPath
  · exact notInHost inHost
  · exact isPrintableExcept_ne (final.signs _ inPath) excepted rfl

theorem cutScheme_origin (rest : Text) :
    cutScheme (adminOrigin ++ rest) = (("https" : Text), ("//" : Text) ++ adminHost ++ rest) := by
  have opening : ("https://" : Text) = ("https" : Text) ++ .char ':' :: ("//" : Text) := by decide
  have whole : adminOrigin ++ rest =
      ("https" : Text) ++ .char ':' :: (("//" : Text) ++ adminHost ++ rest) := by
    rw [adminOrigin, opening]
    simp only [List.append_assoc, List.cons_append]
  have noColon : (.char ':' : CodePoint) ∉ ("https" : Text) := by decide
  have named : isSchemeName ("https" : Text) = true := by decide
  rw [whole, cutScheme, cutAt_append_cons noColon]
  exact if_pos named

/-- The parts of an address at the admin endpoint, where its fragment and its query are cut
off behind the host. -/
theorem ofText_of_cuts {text front path : Text} {query fragment : Option Text}
    (fragmentCut : cutAt (.char '#') (("//" : Text) ++ adminHost ++ text) =
      (("//" : Text) ++ adminHost ++ front, fragment))
    (queryCut : cutAt (.char '?') (("//" : Text) ++ adminHost ++ front) =
      (("//" : Text) ++ adminHost ++ path, query))
    (rooted : path.head? = some (.char '/')) :
    Parts.ofText (adminOrigin ++ text) = ⟨"https", adminHost, path, query, fragment⟩ := by
  have noSlash : (.char '/' : CodePoint) ∉ adminHost := by decide
  cases path with
  | nil => cases rooted
  | cons first rest =>
      obtain rfl : first = .char '/' := Option.some.inj rooted
      have place : Text.beforeFirst (.char '/') (adminHost ++ .char '/' :: rest) = adminHost :=
        Text.beforeFirst_append_cons noSlash rest
      have slashes : ("//" : Text) ++ adminHost ++ .char '/' :: rest =
          .char '/' :: .char '/' :: (adminHost ++ .char '/' :: rest) := rfl
      simp only [Parts.ofText, cutScheme_origin, fragmentCut, queryCut]
      rw [slashes]
      simp only [place, List.drop_left]

theorem ofText_admin {path : Text} (final : FinalPath path) :
    Parts.ofText (adminOrigin ++ path) = ⟨"https", adminHost, path, none, none⟩ :=
  ofText_of_cuts (cutAt_of_notMem (notMem_admin final (by decide) (by decide)))
    (cutAt_of_notMem (notMem_admin final (by decide) (by decide))) final.rooted

theorem findControl_admin {path : Text} (final : FinalPath path) :
    (adminOrigin ++ path).findIdx? isControl = none := by
  rw [List.findIdx?_eq_none_iff]
  intro point member
  rcases List.mem_append.mp member with inOrigin | inPath
  · have clean : ∀ point ∈ adminOrigin, isControl point = false := by decide
    exact clean point inOrigin
  · exact isControl_of_isPrintableExcept (final.signs point inPath)

/-- An address below the admin endpoint is read as it stands, unless it is too long. -/
theorem parse_admin_eq_ok_iff {path : Text} (final : FinalPath path) {target : Target} :
    parse (adminOrigin ++ path) = .ok target ↔
      (adminOrigin ++ path).length ≤ longest ∧ target = admin path none := by
  have noQuery : ∀ text ∈ (none : Option Text), ∀ point ∈ text, isQuerySign point = true := by
    simp
  by_cases tooLong : longest < (adminOrigin ++ path).length
  · have refused : read (adminOrigin ++ path) = .error .tooLong := by rw [read, if_pos tooLong]
    constructor
    · intro parsed
      rw [parse, refused] at parsed
      cases parsed
    · rintro ⟨fits, _⟩
      exact absurd fits (Nat.not_le_of_lt tooLong)
  · have taken : read (adminOrigin ++ path) = .ok (admin path none) := by
      rw [read, if_neg tooLong, findControl_admin final]
      simp only [ofText_admin final]
      exact ofParts_eq_ok_iff.mpr (spelled_admin final noQuery)
    have placed : (!List.isEmpty ("https" : Text) && !adminHost.isEmpty) = true := by decide
    have parsed : parse (adminOrigin ++ path) = .ok (admin path none) := by
      rw [parse, taken]
      simp only [bind, Except.bind]
      exact if_pos placed
    rw [parsed]
    constructor
    · intro same
      cases same
      exact ⟨Nat.le_of_not_lt tooLong, rfl⟩
    · rintro ⟨_, rfl⟩
      rfl

/-- A part that is too long is reported, and without one nothing stands in the way. -/
theorem unlessLong_cases (named : List (Text × Text)) (made : Except Fault Target) :
    (∃ part ∈ named, longest < part.2.length ∧
        unlessLong named made = .error (.partTooLong part.1)) ∨
      (∀ part ∈ named, part.2.length ≤ longest) ∧ unlessLong named made = made := by
  rw [unlessLong]
  split
  · next name part found =>
      have tooLong := List.find?_some found
      exact Or.inl ⟨_, List.mem_of_find?_eq_some found, of_decide_eq_true tooLong, rfl⟩
  · next notFound => exact Or.inr ⟨by simpa using notFound, rfl⟩

theorem recheck_eq_ok_iff {parts : Parts} {target : Target} :
    recheck parts = .ok target ↔
      (∀ part ∈ [parts.scheme, parts.authority, parts.path, parts.query.getD [],
        parts.fragment.getD []], part.length ≤ longest) ∧ ofParts parts = .ok target := by
  rw [recheck]
  rcases unlessLong_cases parts.named (ofParts parts) with ⟨part, member, tooLong, same⟩ | ⟨short, same⟩
  · rw [same]
    refine iff_of_false ?_ ?_
    · intro checked
      cases checked
    · rintro ⟨short, _⟩
      exact Nat.not_le_of_lt tooLong (short _ (List.mem_map_of_mem (f := Prod.snd) member))
  · rw [same]
    exact (and_iff_right (by simpa [Parts.named] using short)).symm

/-- A query of query signs takes its place in any address as it stands. -/
theorem query_of_withQuery {query : Option Text}
    (signs : ∀ text ∈ query, ∀ point ∈ text, isQuerySign point = true) {plain target : Target}
    (replaced : plain.withQuery query = .ok target) : target.query = query := by
  obtain ⟨_, spelled⟩ := recheck_eq_ok_iff.mp replaced
  have querySpelled := (ofParts_eq_ok_iff.mp spelled).query
  have kept : spell? isQuerySign query = .ok query := spell?_eq_self signs
  exact (Except.ok.inj (kept.symm.trans querySpelled)).symm

/-- Where the parts of an address can be checked again, any query of query signs can take
the place of its own, unless it is too long. -/
theorem withQuery_eq_ok {plain target : Target} (checked : plain.withQuery none = .ok target)
    {query : Text} (signs : ∀ point ∈ query, isQuerySign point = true)
    (fits : query.length ≤ longest) :
    plain.withQuery (some query) = .ok { target with query := some query } := by
  obtain ⟨short, spelled⟩ := recheck_eq_ok_iff.mp checked
  refine recheck_eq_ok_iff.mpr ⟨?_, ?_⟩
  · simp only [List.forall_mem_cons] at short ⊢
    obtain ⟨scheme, authority, path, _, fragment⟩ := short
    exact ⟨scheme, authority, path, fits, fragment⟩
  · refine ofParts_eq_ok_iff.mpr ((ofParts_eq_ok_iff.mp spelled).withQuery ?_)
    rintro text ⟨⟩
    exact signs

theorem withQuery_admin_eq_ok_iff {path : Text} (final : FinalPath path) {query : Option Text}
    (signs : ∀ text ∈ query, ∀ point ∈ text, isQuerySign point = true) {target : Target} :
    (admin path none).withQuery query = .ok target ↔
      path.length ≤ longest ∧ (query.getD []).length ≤ longest ∧ target = admin path query := by
  have scheme : List.length ("https" : Text) ≤ longest := by decide
  have host : adminHost.length ≤ longest := by decide
  have parts : { (admin path none).toParts with query } =
      (⟨"https", adminHost, path, query, none⟩ : Parts) := rfl
  rw [withQuery, parts, recheck_eq_ok_iff, ofParts_eq_ok_iff.mpr (spelled_admin final signs)]
  simp only [List.forall_mem_cons, scheme, host, true_and]
  simp [and_assoc, eq_comm]

theorem toText_admin (path : Text) (query : Option Text) :
    (admin path query).toText =
      adminOrigin ++ (path ++ query.elim [] (.char '?' :: ·)) := by
  have host : (admin path query).authority = adminHost := by
    rw [authority, place]
    rfl
  have origin : adminOrigin = ("https" : Text) ++ (":" : Text) ++ (("//" : Text) ++ adminHost) := by
    decide
  have scheme : List.isEmpty ("https" : Text) = false := by decide
  have named : adminHost.isEmpty = false := by decide
  rw [toText, host, origin]
  cases query with
  | none => simp [admin, scheme, named]
  | some text => simp [admin, scheme, named]

/-- The path and the query of an address fit wherever its whole text fits. -/
theorem fits_of_toText_admin {path : Text} {query : Option Text}
    (fits : (admin path query).toText.length ≤ longest) :
    (adminOrigin ++ path).length ≤ longest ∧ ∀ text ∈ query, text.length ≤ longest := by
  rw [toText_admin] at fits
  simp only [List.length_append] at fits ⊢
  constructor
  · omega
  · rintro text rfl
    simp only [Option.elim, List.length_cons] at fits
    omega

theorem beforeFirst_toText_admin {path : Text} (final : FinalPath path) (query : Option Text) :
    Text.beforeFirst (.char '?') (admin path query).toText = adminOrigin ++ path := by
  have noQuery : (.char '?' : CodePoint) ∉ adminOrigin ++ path := by
    intro member
    rcases List.mem_append.mp member with inOrigin | inPath
    · exact absurd inOrigin (by decide)
    · exact isPrintableExcept_ne (final.signs _ inPath) (by decide) rfl
  rw [toText_admin, ← List.append_assoc]
  cases query with
  | none =>
      rw [Option.elim, List.append_nil]
      exact Text.beforeFirst_of_notMem noQuery
  | some text => exact Text.beforeFirst_append_cons noQuery text

end SamlAdmin.Target
