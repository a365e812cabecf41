import SamlAdmin.Proofs.Except
import SamlAdmin.Proofs.Text.Charset
import SamlAdmin.Transport

/-!
# Responses that cannot be read

A body that is there has no text for one of three reasons: the numbers of parameters in its
content type are out of order, a name in it cannot be looked up, or the encoding that it names
refuses the body.  `ContentType.Hinders` lists them, and `Response.text_eq_error_iff` says that
there are no others, whatever encodings are known beside the listed ones.
-/

namespace SamlAdmin

namespace ContentType

variable {codecs : Codecs} {contentType : Text} {octets : List UInt8}

/-- What keeps a body from being read by a content type. -/
inductive Hinders (codecs : Codecs) (octets : List UInt8) : Option Text → Prop where
  | longNumber {contentType : Text} {segment : Segment} (member : segment ∈ segments contentType)
      (long : Text.integerDigitLimit < segment.digits.length) :
      Hinders codecs octets (some contentType)
  | mixedNumbers {contentType : Text} {numbered unnumbered : Segment}
      (member : numbered ∈ segments contentType) (other : unnumbered ∈ segments contentType)
      (sameName : numbered.name = unnumbered.name) (isNumbered : numbered.isNumbered = true)
      (isUnnumbered : unnumbered.isNumbered = false) :
      Hinders codecs octets (some contentType)
  | nulInEncoding {contentType encoding text : Text}
      (given : charsetValue? contentType = some (.encoded encoding text))
      (nul : .char '\x00' ∈ encoding) : Hinders codecs octets (some contentType)
  | nulInName {contentType name : Text} (named : charset codecs contentType = .ok (some name))
      (nul : .char '\x00' ∈ name) : Hinders codecs octets (some contentType)
  | refused {contentType : Option Text} {encoding : Encoding}
      (chosen : ContentType.encoding codecs contentType = .ok encoding)
      (refuses : encoding.Refuses octets) : Hinders codecs octets contentType

/-! ## The numbers of pieces -/

theorem areMixed_iff {group : List Segment} :
    areMixed group = true ↔ ∃ numbered ∈ group, ∃ unnumbered ∈ group,
      numbered.isNumbered = true ∧ unnumbered.isNumbered = false := by
  cases group with
  | nil => simp [areMixed]
  | cons first rest =>
      rw [areMixed, List.any_eq_true]
      constructor
      · rintro ⟨other, member, differ⟩
        have inGroup := List.mem_cons_of_mem first member
        cases isFirst : first.isNumbered with
        | true =>
            refine ⟨first, List.mem_cons_self, other, inGroup, isFirst, ?_⟩
            simpa [isFirst] using differ
        | false =>
            refine ⟨other, inGroup, first, List.mem_cons_self, ?_, isFirst⟩
            simpa [isFirst] using differ
      · rintro ⟨numbered, member, unnumbered, other, isNumbered, isUnnumbered⟩
        -- the first piece has a number or not, and one of the two differs from it
        cases isFirst : first.isNumbered with
        | true =>
            rcases List.mem_cons.mp other with rfl | inRest
            · cases isFirst.symm.trans isUnnumbered
            · exact ⟨unnumbered, inRest, by simp [isUnnumbered]⟩
        | false =>
            rcases List.mem_cons.mp member with rfl | inRest
            · cases isFirst.symm.trans isNumbered
            · exact ⟨numbered, inRest, by simp [isNumbered]⟩

theorem mem_segmentsOf {segment : Segment} {name : Text} :
    segment ∈ segmentsOf name contentType ↔ segment ∈ segments contentType ∧ segment.name = name := by
  simp [segmentsOf]

/-- Some parameter is given in pieces that are mixed if and only if two pieces of one name
differ in having a number. -/
theorem exists_areMixed_iff (contentType : Text) :
    (∃ segment ∈ segments contentType, areMixed (segmentsOf segment.name contentType) = true) ↔
      ∃ numbered ∈ segments contentType, ∃ unnumbered ∈ segments contentType,
        numbered.name = unnumbered.name ∧ numbered.isNumbered = true ∧
          unnumbered.isNumbered = false := by
  simp only [areMixed_iff, mem_segmentsOf]
  constructor
  · rintro ⟨segment, _, numbered, ⟨member, same⟩, unnumbered, ⟨other, alike⟩, isNumbered,
      isUnnumbered⟩
    exact ⟨numbered, member, unnumbered, other, same.trans alike.symm, isNumbered, isUnnumbered⟩
  · rintro ⟨numbered, member, unnumbered, other, sameName, isNumbered, isUnnumbered⟩
    exact ⟨numbered, member, numbered, ⟨member, rfl⟩, unnumbered, ⟨other, sameName.symm⟩,
      isNumbered, isUnnumbered⟩

/-- The numbers of a content type are at fault if and only if one of them is too long or two
pieces of one parameter differ in having one. -/
theorem numberFault?_isSome_iff (contentType : Text) :
    (∃ reason, numberFault? contentType = some reason) ↔
      (∃ segment ∈ segments contentType, Text.integerDigitLimit < segment.digits.length) ∨
        ∃ numbered ∈ segments contentType, ∃ unnumbered ∈ segments contentType,
          numbered.name = unnumbered.name ∧ numbered.isNumbered = true ∧
            unnumbered.isNumbered = false := by
  rw [numberFault?, ← exists_areMixed_iff]
  cases found : (segments contentType).find? (Text.integerDigitLimit < ·.digits.length) with
  | some segment =>
      have long := List.find?_some found
      exact iff_of_true ⟨_, rfl⟩
        (Or.inl ⟨segment, List.mem_of_find?_eq_some found, of_decide_eq_true long⟩)
  | none =>
      have short : ¬∃ segment ∈ segments contentType,
          Text.integerDigitLimit < segment.digits.length := by
        simpa using found
      rw [or_iff_right short]
      constructor
      · rintro ⟨reason, isFault⟩
        obtain ⟨group, isGroup, _⟩ := Option.bind_eq_some_iff.mp isFault
        have mixed := List.find?_some isGroup
        obtain ⟨segment, member, rfl⟩ := List.mem_map.mp (List.mem_of_find?_eq_some isGroup)
        exact ⟨segment, member, mixed⟩
      · rintro ⟨segment, member, mixed⟩
        have isSome : (((segments contentType).map fun segment =>
            segmentsOf segment.name contentType).find? areMixed).isSome = true :=
          List.find?_isSome.mpr ⟨_, List.mem_map_of_mem member, mixed⟩
        obtain ⟨group, isGroup⟩ := Option.isSome_iff_exists.mp isSome
        have isMixed := List.find?_some isGroup
        -- pieces that are mixed are not none, so there is a first one to report
        cases group with
        | nil => cases isMixed
        | cons first rest => exact ⟨_, Option.bind_eq_some_iff.mpr ⟨_, isGroup, rfl⟩⟩

/-! ## Names that are looked up -/

theorem lookup_eq_error_iff (codecs : Codecs) {name : Text} :
    (∃ reason, codecs.lookup name = .error reason) ↔ .char '\x00' ∈ name := by
  rw [Codecs.lookup]
  split
  · next nul => exact iff_of_true ⟨_, rfl⟩ (by simpa using nul)
  · next noNul =>
      refine iff_of_false ?_ (by simpa using noNul)
      rintro ⟨reason, failed⟩
      cases failed

theorem decoded_eq_error_iff {value : Value} :
    (∃ reason, value.decoded codecs = .error reason) ↔
      ∃ encoding text, value = .encoded encoding text ∧ .char '\x00' ∈ encoding := by
  cases value with
  | plain text => simp [Value.decoded]
  | encoded encoding text =>
      have standing : (.char '\x00' : CodePoint) ∉ ("us-ascii" : Text) := by decide
      have searched : (∃ reason, (Value.encoded encoding text).decoded codecs = .error reason) ↔
          .char '\x00' ∈ (if encoding.isEmpty then ("us-ascii" : Text) else encoding) := by
        rw [← lookup_eq_error_iff codecs, Value.decoded]
        split
        · next reason failed => exact iff_of_true ⟨_, rfl⟩ ⟨_, failed⟩
        · next known found =>
            refine iff_of_false ?_ ?_
            · rintro ⟨reason, failed⟩
              split at failed <;> cases failed
            · rintro ⟨reason, failed⟩
              cases found.symm.trans failed
      rw [searched]
      cases encoding with
      | nil => simpa using standing
      | cons first rest => simp

/-- The charset of a content type cannot be told if and only if its numbers are at fault or the
encoding of its own text cannot be looked up. -/
theorem charset_eq_error_iff :
    (∃ reason, charset codecs contentType = .error reason) ↔
      (∃ reason, numberFault? contentType = some reason) ∨
        numberFault? contentType = none ∧ ∃ encoding text,
          charsetValue? contentType = some (.encoded encoding text) ∧ .char '\x00' ∈ encoding := by
  rw [charset]
  cases fault : numberFault? contentType with
  | some reason => simp
  | none =>
      cases given : charsetValue? contentType with
      | none => simp
      | some value =>
          simp only [map_eq_error_iff, decoded_eq_error_iff]
          simp

/-- No encoding can be chosen if and only if the charset cannot be told or cannot be looked up. -/
theorem encoding_eq_error_iff {contentType : Option Text} :
    (∃ reason, encoding codecs contentType = .error reason) ↔
      ∃ given ∈ contentType, (∃ reason, charset codecs given = .error reason) ∨
        ∃ name, charset codecs given = .ok (some name) ∧ .char '\x00' ∈ name := by
  cases contentType with
  | none => simp [encoding]
  | some given =>
      simp only [Option.mem_def, Option.some.injEq, exists_eq_left']
      rw [encoding]
      cases told : charset codecs given with
      | error reason => simp
      | ok name =>
          cases name with
          | none => simp
          | some name => simp [lookup_eq_error_iff]

/-- A body is not read if and only if something hinders it. -/
theorem hinders_iff {contentType : Option Text} :
    Hinders codecs octets contentType ↔
      (∃ reason, encoding codecs contentType = .error reason) ∨
        ∃ chosen, encoding codecs contentType = .ok chosen ∧ chosen.Refuses octets := by
  rw [encoding_eq_error_iff]
  constructor
  · intro hinders
    cases hinders with
    | longNumber member long =>
        refine Or.inl ⟨_, rfl, Or.inl (charset_eq_error_iff.mpr (Or.inl ?_))⟩
        exact (numberFault?_isSome_iff _).mpr (Or.inl ⟨_, member, long⟩)
    | mixedNumbers member other sameName isNumbered isUnnumbered =>
        refine Or.inl ⟨_, rfl, Or.inl (charset_eq_error_iff.mpr (Or.inl ?_))⟩
        exact (numberFault?_isSome_iff _).mpr
          (Or.inr ⟨_, member, _, other, sameName, isNumbered, isUnnumbered⟩)
    | @nulInEncoding contentType encoding text given nul =>
        refine Or.inl ⟨_, rfl, Or.inl (charset_eq_error_iff.mpr ?_)⟩
        cases fault : numberFault? contentType with
        | some reason => exact Or.inl ⟨reason, rfl⟩
        | none => exact Or.inr ⟨rfl, encoding, text, given, nul⟩
    | nulInName named nul => exact Or.inl ⟨_, rfl, Or.inr ⟨_, named, nul⟩⟩
    | refused chosen refuses => exact Or.inr ⟨_, chosen, refuses⟩
  · rintro (⟨given, rfl, untold | ⟨name, named, nul⟩⟩ | ⟨chosen, isChosen, refuses⟩)
    · rcases charset_eq_error_iff.mp untold with fault | ⟨_, encoding, text, value, nul⟩
      · rcases (numberFault?_isSome_iff _).mp fault with ⟨segment, member, long⟩ |
          ⟨numbered, member, unnumbered, other, sameName, isNumbered, isUnnumbered⟩
        · exact .longNumber member long
        · exact .mixedNumbers member other sameName isNumbered isUnnumbered
      · exact .nulInEncoding value nul
    · exact .nulInName named nul
    · exact .refused isChosen refuses

end ContentType

namespace Response

variable {codecs : Codecs} {response : Response}

/-- Whether a response has a body that cannot be read. -/
def IsIllegible (codecs : Codecs) (response : Response) : Prop :=
  response.body ≠ [] ∧
    ContentType.Hinders codecs response.body (response.headers.get? "Content-Type")

theorem text_eq_error_iff :
    (∃ reason, response.text codecs = .error reason) ↔ response.IsIllegible codecs := by
  rw [IsIllegible, ContentType.hinders_iff, text]
  cases isEmpty : response.body with
  | nil => simp
  | cons first rest =>
      cases ContentType.encoding codecs (response.headers.get? "Content-Type") with
      | error reason => simp
      | ok encoding => simp [Encoding.decode_eq_error_iff]

end Response

end SamlAdmin
