import SamlAdmin.Proofs.Except
import SamlAdmin.Proofs.Url.Settled

/-!
# Addresses that are refused

The scheme and the host of the admin endpoint are in order, so little can be wrong with an
address that begins with them.  When it is read it is refused for its length or for a control,
and when its query is put in place it is refused for the length of a part in its final spelling.
Text that UTF-8 cannot write is refused as well, but this is the verdict of the encoding and not
one on the address.
-/

namespace SamlAdmin.Target

/-- Whether a fault is a verdict on an address, and not one of the encoding it is written in. -/
def Fault.isOfAddress : Fault → Bool
  | .unencodable _ => false
  | .tooLong => true
  | .partTooLong _ => true
  | .control _ _ => true
  | .ipv4 _ => true
  | .ipv6 _ => true
  | .hostName _ => true
  | .port _ => true
  | .relativeDoubleSlash => true
  | .relativeColon => true
  | .rootlessPath => true
  | .partControl _ _ _ => true

/-! ## Spelling -/

section Spelling

variable {isSign : CodePoint → Bool} {fault : Fault}

theorem isOfAddress_of_spell {part : Text} (refused : spell isSign part = .error fault) :
    fault.isOfAddress = false := by
  rw [spell] at refused
  split at refused
  · cases refused
    rfl
  · cases refused

theorem isOfAddress_of_spell? {part : Option Text} (refused : spell? isSign part = .error fault) :
    fault.isOfAddress = false := by
  cases part with
  | none => cases refused
  | some text => exact isOfAddress_of_spell (map_eq_error_iff.mp refused)

/-- Below the host of the admin endpoint, the parts of an address are spelled one by one. -/
theorem ofParts_admin (path : Text) (query fragment : Option Text) :
    ofParts ⟨"https", adminHost, path, query, fragment⟩ =
      (spell isPathSign (removeDots path)).bind fun path =>
      (spell? isQuerySign query).bind fun query =>
      (spell? isFragmentSign fragment).bind fun fragment =>
      .ok ⟨"https", [], adminHost, none, path, query, fragment⟩ := rfl

theorem isOfAddress_of_ofParts {path : Text} {query fragment : Option Text}
    (refused : ofParts ⟨"https", adminHost, path, query, fragment⟩ = .error fault) :
    fault.isOfAddress = false := by
  rw [ofParts_admin] at refused
  rcases bind_eq_error_iff.mp refused with path | ⟨_, _, refused⟩
  · exact isOfAddress_of_spell path
  rcases bind_eq_error_iff.mp refused with query | ⟨_, _, refused⟩
  · exact isOfAddress_of_spell? query
  rcases bind_eq_error_iff.mp refused with fragment | ⟨_, _, finished⟩
  · exact isOfAddress_of_spell? fragment
  · cases finished

end Spelling

/-! ## Reading -/

theorem ofParts_admin_eq_ok_iff {path : Text} {query fragment : Option Text} {target : Target} :
    ofParts ⟨"https", adminHost, path, query, fragment⟩ = .ok target ↔
      ∃ pathSpelled querySpelled fragmentSpelled,
        spell isPathSign (removeDots path) = .ok pathSpelled ∧
        spell? isQuerySign query = .ok querySpelled ∧
        spell? isFragmentSign fragment = .ok fragmentSpelled ∧
        target = ⟨"https", [], adminHost, none, pathSpelled, querySpelled, fragmentSpelled⟩ := by
  rw [ofParts_admin]
  constructor
  · intro spelled
    obtain ⟨pathSpelled, isPath, spelled⟩ := bind_eq_ok_iff.mp spelled
    obtain ⟨querySpelled, isQuery, spelled⟩ := bind_eq_ok_iff.mp spelled
    obtain ⟨fragmentSpelled, isFragment, spelled⟩ := bind_eq_ok_iff.mp spelled
    cases spelled
    exact ⟨pathSpelled, querySpelled, fragmentSpelled, isPath, isQuery, isFragment, rfl⟩
  · rintro ⟨pathSpelled, querySpelled, fragmentSpelled, isPath, isQuery, isFragment, rfl⟩
    rw [isPath, isQuery, isFragment]
    rfl

section Reading

variable {left : Text} (rooted : left.head? = some (.char '/'))
  (noFragment : (.char '#' : CodePoint) ∉ left) (noQuery : (.char '?' : CodePoint) ∉ left)
include rooted noFragment noQuery

/-- What is read of an address at the admin endpoint, and how it is spelled. -/
theorem spelled_of_read {rest : Text} {target : Target}
    (isRead : read (adminOrigin ++ (left ++ rest)) = .ok target) :
    ∃ path query fragment unspelled,
      target = ⟨"https", [], adminHost, none, path, query, fragment⟩ ∧ IsSettled path ∧
      spell? isFragmentSign unspelled = .ok fragment := by
  obtain ⟨query, fragment, cut⟩ := ofText_origin rooted noFragment noQuery rest
  have spelled := ofParts_of_read isRead
  rw [cut] at spelled
  obtain ⟨pathSpelled, querySpelled, fragmentSpelled, path, _, fragmentIs, rfl⟩ :=
    ofParts_admin_eq_ok_iff.mp spelled
  refine ⟨pathSpelled, querySpelled, fragmentSpelled, fragment, rfl, ?_, fragmentIs⟩
  obtain ⟨_, rfl⟩ := spell_eq_ok_iff.mp path
  cases left with
  | nil => cases rooted
  | cons first others =>
      obtain rfl : first = .char '/' := Option.some.inj rooted
      exact isSettled_settle _

/-- An address at the admin endpoint is placed, so nothing comes after its reading. -/
theorem parse_eq_read (rest : Text) :
    parse (adminOrigin ++ (left ++ rest)) = read (adminOrigin ++ (left ++ rest)) := by
  cases isRead : read (adminOrigin ++ (left ++ rest)) with
  | error fault =>
      rw [parse, isRead]
      rfl
  | ok target =>
      obtain ⟨path, query, fragment, _, rfl, _⟩ := spelled_of_read rooted noFragment noQuery isRead
      have placed : (!List.isEmpty ("https" : Text) && !adminHost.isEmpty) = true := by decide
      rw [parse, isRead]
      simp only [bind, Except.bind, placed, if_true]

/-- An address at the admin endpoint is refused exactly if it is too long or holds a control. -/
theorem parse_refused_iff (rest : Text) :
    (∃ fault, parse (adminOrigin ++ (left ++ rest)) = .error fault ∧ fault.isOfAddress = true) ↔
      longest < (adminOrigin ++ (left ++ rest)).length ∨
        ∃ point ∈ adminOrigin ++ (left ++ rest), isControl point = true := by
  obtain ⟨query, fragment, cut⟩ := ofText_origin rooted noFragment noQuery rest
  rw [parse_eq_read rooted noFragment noQuery]
  generalize adminOrigin ++ (left ++ rest) = text at cut
  by_cases long : longest < text.length
  · have refused : read text = .error .tooLong := by rw [read, if_pos long]
    exact iff_of_true ⟨_, refused, rfl⟩ (Or.inl long)
  cases found : text.findIdx? isControl with
  | some position =>
      obtain ⟨inRange, isControl, _⟩ := List.findIdx?_eq_some_iff_getElem.mp found
      have refused : read text = .error (.control (text.getD position default) position) := by
        rw [read, if_neg long, found]
      exact iff_of_true ⟨_, refused, rfl⟩ (Or.inr ⟨_, List.getElem_mem inRange, isControl⟩)
  | none =>
      refine iff_of_false ?_ ?_
      · rintro ⟨fault, refused, ofAddress⟩
        rw [read, if_neg long, found, cut] at refused
        rw [isOfAddress_of_ofParts refused] at ofAddress
        cases ofAddress
      · rintro (isLong | ⟨point, member, control⟩)
        · exact long isLong
        · rw [List.findIdx?_eq_none_iff.mp found point member] at control
          cases control

end Reading

/-! ## Putting a query in place -/

/-- Parts that can be spelled are refused exactly if one of them is too long. -/
theorem recheck_refused_iff {parts : Parts} {target : Target}
    (spelled : ofParts parts = .ok target) :
    (∃ fault, recheck parts = .error fault ∧ fault.isOfAddress = true) ↔
      ∃ part ∈ [parts.scheme, parts.authority, parts.path, parts.query.getD [],
        parts.fragment.getD []], longest < part.length := by
  rw [recheck]
  rcases unlessLong_cases parts.named (ofParts parts) with ⟨part, member, long, same⟩ | ⟨short, same⟩
  · rw [same]
    exact iff_of_true ⟨_, rfl, rfl⟩ ⟨_, List.mem_map_of_mem (f := Prod.snd) member, long⟩
  · rw [same, spelled]
    refine iff_of_false ?_ ?_
    · rintro ⟨fault, failed, _⟩
      cases failed
    · rintro ⟨part, member, long⟩
      have fits : part.length ≤ longest := by
        obtain ⟨named, isNamed, rfl⟩ := List.mem_map.mp (show part ∈ parts.named.map Prod.snd from member)
        exact short named isNamed
      exact Nat.not_le_of_lt long fits

theorem isFragmentSign_of_isHexDigit {point : CodePoint} (digit : point.isHexDigit = true) :
    isFragmentSign point = true :=
  CodePoint.forall_ascii
    (motive := fun point => point.isHexDigit = true → isFragmentSign point = true)
    (by decide) (CodePoint.isAscii_of_isHexDigit digit) digit

/-- A fragment that was spelled is not spelled again. -/
theorem spell?_fragment {unspelled fragment : Option Text}
    (spelled : spell? isFragmentSign unspelled = .ok fragment) :
    spell? isFragmentSign fragment = .ok fragment := by
  apply spell?_eq_self
  rintro text rfl point member
  cases unspelled with
  | none => cases spelled
  | some part =>
      obtain ⟨spelling, isSpelled, same⟩ := map_eq_ok_iff.mp spelled
      cases same
      obtain ⟨_, rfl⟩ := spell_eq_ok_iff.mp isSpelled
      exact Percent.isSafe_of_mem_encode (by decide) (fun _ => isFragmentSign_of_isHexDigit) member

/-- A query is refused where it, or the path or the fragment that it is put between, is too
long. -/
theorem withQuery_refused_iff {left rest : Text} (rooted : left.head? = some (.char '/'))
    (noFragment : (.char '#' : CodePoint) ∉ left) (noQuery : (.char '?' : CodePoint) ∉ left)
    {plain : Target} (parsed : parse (adminOrigin ++ (left ++ rest)) = .ok plain) {query : Text}
    (signs : ∀ point ∈ query, isQuerySign point = true) :
    (∃ fault, plain.withQuery (some query) = .error fault ∧ fault.isOfAddress = true) ↔
      longest < plain.path.length ∨ longest < query.length ∨
        longest < (plain.fragment.getD []).length := by
  rw [parse_eq_read rooted noFragment noQuery] at parsed
  obtain ⟨path, _, fragment, unspelled, rfl, settled, isFragment⟩ :=
    spelled_of_read rooted noFragment noQuery parsed
  have spelled : ofParts ⟨"https", adminHost, path, some query, fragment⟩ =
      .ok ⟨"https", [], adminHost, none, path, some query, fragment⟩ := by
    refine ofParts_admin_eq_ok_iff.mpr ⟨path, some query, fragment, ?_, ?_, ?_, rfl⟩
    · rw [removeDots_eq_self settled.noDots]
      exact spell_eq_self settled.signs
    · apply spell?_eq_self
      rintro text ⟨⟩
      exact signs
    · exact spell?_fragment isFragment
  have scheme : ¬longest < List.length ("https" : Text) := by decide
  have host : ¬longest < adminHost.length := by decide
  refine (recheck_refused_iff spelled).trans ?_
  simp only [List.mem_cons, List.not_mem_nil, or_false, exists_eq_or_imp, exists_eq_left, scheme,
    host, false_or, Option.getD_some]

end SamlAdmin.Target
