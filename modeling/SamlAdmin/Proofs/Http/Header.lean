import SamlAdmin.Proofs.Members
import SamlAdmin.Proofs.Transport.Call

/-!
# Whose fields a request carries

The fields of a call are put over those of the transport by their spelling: a field of the
transport goes where the call has one of the same spelling, and stays where the call spells the
name in another case.  What else a request carries is put beside these fields, under names that
none of them has.  So a request carries the values of the call alone under a name exactly where
the transport has no other spelling of it.

One field is put over all that are given: where the address of a request names a user or a
password, these authorize it.
-/

namespace SamlAdmin

theorem Text.sameIgnoringCase_comm (left right : Text) :
    left.sameIgnoringCase right = right.sameIgnoringCase left := by
  simp only [sameIgnoringCase, eq_comm]

theorem Text.sameIgnoringCase_congr {left right : Text}
    (same : left.sameIgnoringCase right = true) (other : Text) :
    left.sameIgnoringCase other = right.sameIgnoringCase other := by
  simp only [sameIgnoringCase, of_decide_eq_true same]

namespace Headers

variable {name other value : Text} {fields more base extra : Headers}

/-! ## The values under a name -/

theorem get?_eq_none_iff : fields.get? name = none ↔ fields.values name = [] := by
  rw [get?]
  split
  · next empty => simp [empty]
  · next first rest filled => simp [filled]

theorem values_append (name : Text) (left right : Headers) :
    values name (left ++ right) = values name left ++ values name right := by
  rw [values, List.filter_append, List.map_append, values, values]

theorem values_perm (perm : fields.Perm more) (name : Text) :
    (fields.values name).Perm (more.values name) :=
  (perm.filter _).map _

theorem values_eq_nil_iff :
    fields.values name = [] ↔ ∀ field ∈ fields, field.1.sameIgnoringCase name = false := by
  simp [values]

theorem values_congr (same : name.sameIgnoringCase other = true) (fields : Headers) :
    fields.values name = fields.values other := by
  simp only [values, Text.sameIgnoringCase, of_decide_eq_true same]

theorem values_cons_of_ne (different : name.sameIgnoringCase other = false) (value : Text)
    (fields : Headers) : values other ((name, value) :: fields) = fields.values other := by
  rw [values, List.filter_cons_of_neg (by simp [different]), values]

theorem values_cons_congr (same : fields.values name = more.values name) (field : Text × Text) :
    values name (field :: fields) = values name (field :: more) := by
  rw [← List.singleton_append, values_append, same, ← values_append, List.singleton_append]

/-! ## What is put beside the fields -/

/-- Whether there are the same values still, under each name that some fields have. -/
def Keeps (fields more : Headers) : Prop :=
  ∀ name, fields.values name ≠ [] → more.values name = fields.values name

theorem Keeps.refl (fields : Headers) : fields.Keeps fields := fun _ _ => rfl

theorem Keeps.trans {most : Headers} (first : fields.Keeps more) (second : more.Keeps most) :
    fields.Keeps most := by
  intro name present
  have kept := first name present
  rw [second name (by rw [kept]; exact present), kept]

theorem ne_of_free (free : fields.values name = []) (present : fields.values other ≠ []) :
    name.sameIgnoringCase other = false := by
  refine eq_false_of_ne_true fun same => present ?_
  rw [← values_congr same, free]

theorem keeps_orElse (name value : Text) (fields : Headers) :
    fields.Keeps (fields.orElse name value) := by
  intro other present
  rw [orElse]
  split
  · rfl
  · next free =>
      have isFree := get?_eq_none_iff.mp (Option.not_isSome_iff_eq_none.mp free)
      rw [values_append, values_cons_of_ne (ne_of_free isFree present)]
      exact List.append_nil _

theorem keeps_withStanding (fields standing : Headers) :
    fields.Keeps (fields.withStanding standing) := by
  intro name present
  have none : values name (standing.filter fun field => (fields.get? field.1).isNone) = [] := by
    refine values_eq_nil_iff.mpr fun field member => ?_
    have isNone := Option.isNone_iff_eq_none.mp (List.mem_filter.mp member).2
    exact ne_of_free (get?_eq_none_iff.mp isNone) present
  rw [withStanding, values_append, none, List.nil_append]

/-! ## A field over all of its name -/

theorem values_cons_of_same (same : name.sameIgnoringCase other = true) (value : Text)
    (fields : Headers) : values other ((name, value) :: fields) = value :: fields.values other := by
  rw [values, List.filter_cons_of_pos (by exact same), List.map_cons, values]

theorem values_filter_eq_nil (name : Text) (fields : Headers) :
    values name (fields.filter fun field => !field.1.sameIgnoringCase name) = [] := by
  refine values_eq_nil_iff.mpr fun field member => ?_
  simpa using (List.mem_filter.mp member).2

theorem values_filter_of_ne (different : name.sameIgnoringCase other = false) (fields : Headers) :
    values other (fields.filter fun field => !field.1.sameIgnoringCase name) =
      fields.values other := by
  rw [values, values, List.filter_filter]
  congr 1
  refine List.filter_congr fun field _ => ?_
  cases same : field.1.sameIgnoringCase other with
  | false => rfl
  | true =>
      have apart : field.1.sameIgnoringCase name = false := by
        rw [Text.sameIgnoringCase_congr same, Text.sameIgnoringCase_comm, different]
      rw [apart]
      rfl

/-- A field that is put has the only value under its name. -/
theorem values_put (name value : Text) (fields : Headers) :
    (fields.put name value).values name = [value] := by
  have own : name.sameIgnoringCase name = true := decide_eq_true rfl
  induction fields with
  | nil => exact values_cons_of_same own value []
  | cons field rest ih =>
      obtain ⟨key, given⟩ := field
      rw [put]
      split
      · rw [values_cons_of_same own, values_filter_eq_nil]
      · next apart => rw [values_cons_of_ne (eq_false_of_ne_true apart), ih]

theorem values_put_of_ne (different : name.sameIgnoringCase other = false) (value : Text)
    (fields : Headers) : (fields.put name value).values other = fields.values other := by
  induction fields with
  | nil => exact values_cons_of_ne different value []
  | cons field rest ih =>
      obtain ⟨key, given⟩ := field
      rw [put]
      split
      · next same =>
          have apart := (Text.sameIgnoringCase_congr same other).trans different
          rw [values_cons_of_ne different, values_cons_of_ne apart, values_filter_of_ne different]
      · exact values_cons_congr ih (key, given)

/-! ## Fields over fields -/

/-- The fields that others leave: those whose spelling these do not have. -/
def unreplaced (base extra : Headers) : Headers :=
  base.filter fun field => field.1 ∉ extra.map Prod.fst

/-- Fields that are put over others come with those that they leave. -/
theorem merge_perm (distinct : (base.map Prod.fst).Nodup)
    (distinctExtra : (extra.map Prod.fst).Nodup) :
    (base.merge extra).Perm (base.unreplaced extra ++ extra) := by
  induction extra generalizing base with
  | nil =>
      rw [List.append_nil, unreplaced, List.filter_eq_self.mpr fun _ _ => decide_eq_true nofun]
      exact .refl _
  | cons field rest ih =>
      obtain ⟨key, value⟩ := field
      obtain ⟨isNew, distinctRest⟩ := List.nodup_cons.mp distinctExtra
      have left : (unreplaced (Members.insert key value base) rest).Perm
          ((key, value) :: base.unreplaced ((key, value) :: rest)) := by
        refine ((Members.insert_perm distinct).filter _).trans (.of_eq ?_)
        rw [List.filter_cons_of_pos (by exact decide_eq_true isNew), List.filter_filter, unreplaced]
        simp only [List.map_cons, List.mem_cons, not_or, Bool.decide_and, Bool.and_comm]
      calc base.merge ((key, value) :: rest)
        List.Perm _ (unreplaced (Members.insert key value base) rest ++ rest) :=
          ih (Members.nodup_insert distinct key value) distinctRest
        List.Perm _ ((key, value) :: base.unreplaced ((key, value) :: rest) ++ rest) :=
          left.append_right rest
        List.Perm _ (base.unreplaced ((key, value) :: rest) ++ (key, value) :: rest) :=
          List.perm_middle.symm

theorem values_insert_of_ne (different : name.sameIgnoringCase other = false) (value : Text)
    (fields : Headers) :
    values other (Members.insert name value fields) = fields.values other := by
  induction fields with
  | nil => exact values_cons_of_ne different value []
  | cons field rest ih =>
      obtain ⟨key, given⟩ := field
      rw [Members.insert]
      split
      · next same =>
          rw [same, values_cons_of_ne different, values_cons_of_ne different]
      · exact values_cons_congr ih (key, given)

theorem values_merge_of_absent (absent : extra.values name = []) (base : Headers) :
    values name (base.merge extra) = base.values name := by
  induction extra generalizing base with
  | nil => rfl
  | cons field rest ih =>
      have others := values_eq_nil_iff.mp absent
      have isAbsent : values name rest = [] :=
        values_eq_nil_iff.mpr fun field member => others field (List.mem_cons_of_mem _ member)
      exact (ih isAbsent _).trans (values_insert_of_ne (others field List.mem_cons_self) _ base)

theorem values_unreplaced_eq_nil_iff :
    (base.unreplaced extra).values name = [] ↔
      ∀ field ∈ base, field.1.sameIgnoringCase name = true → field.1 ∈ extra.map Prod.fst := by
  rw [values_eq_nil_iff]
  constructor
  · intro none field member same
    refine Decidable.byContradiction fun isLeft => ?_
    have kept := none field (List.mem_filter.mpr ⟨member, decide_eq_true isLeft⟩)
    exact Bool.false_ne_true (kept.symm.trans same)
  · intro spelled field member
    obtain ⟨inBase, isLeft⟩ := List.mem_filter.mp member
    exact eq_false_of_ne_true fun same => of_decide_eq_true isLeft (spelled field inBase same)

/-- Under a name that the fields above have, theirs are the only values if and only if every
field below of that name has the spelling of one above. -/
theorem values_merge (distinct : (base.map Prod.fst).Nodup)
    (distinctExtra : (extra.map Prod.fst).Nodup) (name : Text) :
    ((base.merge extra).values name).Perm
        ((base.unreplaced extra).values name ++ extra.values name) ∧
      (((base.merge extra).values name).Perm (extra.values name) ↔
        ∀ field ∈ base, field.1.sameIgnoringCase name = true → field.1 ∈ extra.map Prod.fst) := by
  have perm := values_perm (merge_perm distinct distinctExtra) name
  rw [values_append] at perm
  refine ⟨perm, ?_⟩
  rw [← values_unreplaced_eq_nil_iff]
  constructor
  · intro alone
    have length := (perm.symm.trans alone).length_eq
    rw [List.length_append] at length
    exact List.eq_nil_of_length_eq_zero (by omega)
  · intro empty
    rw [empty] at perm
    exact perm

end Headers

namespace Request

variable {text : Text} {call : Call} {headers : Headers} {sent : Request}

theorem keeps_withBodyFields (method : Text) (body : Option Text) (headers : Headers) :
    headers.Keeps (withBodyFields method body headers) := by
  cases body with
  | some text => exact (Headers.keeps_orElse _ _ headers).trans (Headers.keeps_orElse _ _ _)
  | none =>
      rw [withBodyFields]
      split
      · exact Headers.keeps_orElse _ _ headers
      · exact .refl headers

theorem keeps_withHost (target : Target) (headers : Headers) :
    headers.Keeps (withHost target headers) := by
  rw [withHost]
  split
  · exact .refl headers
  · exact Headers.keeps_orElse _ _ headers

/-- Whether a request carries its own authorization under a name: its address names a user or a
password, and the name is the one of what authorizes them. -/
def IsAuthorizedUnder (request : Request) (name : Text) : Prop :=
  credentials? request.target ≠ none ∧ name.sameIgnoringCase "Authorization" = true

theorem values_withCredentials {target : Target} {name : Text}
    (free : ¬(credentials? target ≠ none ∧ name.sameIgnoringCase "Authorization" = true))
    (headers : Headers) : (withCredentials target headers).values name = headers.values name := by
  rw [withCredentials]
  split
  · rfl
  · next user password named =>
      refine Headers.values_put_of_ne (eq_false_of_ne_true fun same => free ⟨?_, ?_⟩) _ headers
      · rw [named]
        exact Option.some_ne_none _
      · rwa [Text.sameIgnoringCase_comm]

/-- A request carries the values that it is given, under each name that it is given, unless its
own authorization stands there. -/
theorem values_of_prepare (ready : prepare text call headers = .ok sent) {name : Text}
    (free : ¬sent.IsAuthorizedUnder name) (given : headers.values name ≠ []) :
    sent.headers.values name = headers.values name := by
  obtain ⟨_, target, body, _, _, _, _, rfl⟩ := prepare_eq_ok_iff.mp ready
  have keeps := ((Headers.keeps_withStanding headers standing).trans
    (keeps_withBodyFields call.method.upper body _)).trans (keeps_withHost target _)
  rw [values_withCredentials free, keeps name given]

/-- Where a request carries its own authorization, it carries nothing else. -/
theorem values_of_credentials (ready : prepare text call headers = .ok sent)
    {name user password : Text} (named : credentials? sent.target = some (user, password))
    (same : name.sameIgnoringCase "Authorization" = true) :
    sent.headers.values name = [basic user password] := by
  obtain ⟨_, target, body, _, _, _, _, rfl⟩ := prepare_eq_ok_iff.mp ready
  rw [Headers.values_congr same, withCredentials, named]
  exact Headers.values_put _ _ _

end Request

namespace Transport

variable {call : Call} {transport : Transport} {server : Server} {request : Request}

theorem prepared_of_sent (sent : (transport.request call server).1.sent = some request) :
    transport.prepared call = .ok request := by
  cases ready : transport.prepared call with
  | error fault =>
      rw [request_of_error ready] at sent
      cases sent
  | ok prepared =>
      rw [request_of_ok ready] at sent
      cases sent
      rfl

/-- Under a name that the call has, a request carries the values of the call and those of the
fields of the transport that are spelled in another way; so the values of the call are the only
ones if and only if the transport has no such field.  Under a name that only the transport has,
the values are those of the transport.  All this holds but for the authorization of a request
whose address names a user or a password: these are its only value. -/
theorem call_fields_replace_by_spelling (distinct : (transport.headers.map Prod.fst).Nodup)
    (distinctOwn : (call.headers.map Prod.fst).Nodup)
    (sent : (transport.request call server).1.sent = some request) (name : Text) :
    (¬request.IsAuthorizedUnder name →
      (call.headers.values name ≠ [] →
        (request.headers.values name).Perm
            ((transport.headers.unreplaced call.headers).values name ++ call.headers.values name) ∧
          ((request.headers.values name).Perm (call.headers.values name) ↔
            ∀ field ∈ transport.headers, field.1.sameIgnoringCase name = true →
              field.1 ∈ call.headers.map Prod.fst)) ∧
      (call.headers.values name = [] → transport.headers.values name ≠ [] →
        request.headers.values name = transport.headers.values name)) ∧
    ∀ user password, Request.credentials? request.target = some (user, password) →
      name.sameIgnoringCase "Authorization" = true →
      request.headers.values name = [Request.basic user password] := by
  have ready := prepared_of_sent sent
  refine ⟨fun free => ⟨fun own => ?_, fun absent present => ?_⟩, fun user password named same => ?_⟩
  · obtain ⟨perm, aloneIff⟩ := Headers.values_merge distinct distinctOwn name
    have present : (transport.headers.merge call.headers).values name ≠ [] := by
      intro empty
      rw [empty] at perm
      exact own (List.append_eq_nil_iff.mp perm.nil_eq.symm).2
    rw [Request.values_of_prepare ready free present]
    exact ⟨perm, aloneIff⟩
  · have same := Headers.values_merge_of_absent absent transport.headers
    rw [Request.values_of_prepare ready free (by rw [same]; exact present), same]
  · exact Request.values_of_credentials ready named same

def versioned : Transport where
  endpoint := "https://h.test/v1"
  headers := [("X-Client-Version", "default"), ("X-Trace", "on")]
  channels := .ofLimits (.all (.int 7))

def respelled : Call where
  method := "GET"
  path := "/x"
  headers := [("x-client-version", "own")]

/-- A transport whose address names a user and a password, with a field that would authorize
someone else. -/
def authorized : Transport where
  endpoint := "https://user:pw@h.test/v1"
  headers := [("authorization", "Bearer d")]
  channels := .ofLimits (.all (.int 7))

/-- The version is sent twice, and the trace once.  The user of an address is authorized, and
nobody else. -/
theorem respelled_field_is_sent_beside_default :
    (∃ request : Request, (versioned.request respelled ⟨[]⟩).1.sent = some request ∧
      (request.headers.values "X-Client-Version").Perm ["default", "own"] ∧
      ¬ (request.headers.values "X-Client-Version").Perm ["own"] ∧
      request.headers.values "X-Trace" = [("on" : Text)]) ∧
    ∃ request : Request, (authorized.request respelled ⟨[]⟩).1.sent = some request ∧
      request.headers.values "Authorization" = [("Basic dXNlcjpwdw==" : Text)] := by
  constructor
  · obtain ⟨request, sent⟩ :
        ∃ request, (versioned.request respelled ⟨[]⟩).1.sent = some request := ⟨_, rfl⟩
    have law := call_fields_replace_by_spelling (by decide) (by decide) sent
    obtain ⟨own, _⟩ := (law "X-Client-Version").1 fun held => absurd held.2 (by decide)
    obtain ⟨_, trace⟩ := (law "X-Trace").1 fun held => absurd held.2 (by decide)
    obtain ⟨both, aloneIff⟩ := own (by decide)
    refine ⟨request, sent, both, fun alone => ?_, trace (by decide) (by decide)⟩
    exact absurd (aloneIff.mp alone ("X-Client-Version", "default")) (by decide)
  · have named : ((authorized.request respelled ⟨[]⟩).1.sent.bind fun request =>
        Request.credentials? request.target) = some (("user" : Text), ("pw" : Text)) := by
      decide +kernel
    obtain ⟨request, sent⟩ :
        ∃ request, (authorized.request respelled ⟨[]⟩).1.sent = some request := ⟨_, rfl⟩
    rw [sent] at named
    have basic : Request.basic "user" "pw" = "Basic dXNlcjpwdw==" := by decide
    refine ⟨request, sent, ?_⟩
    rw [← basic]
    exact (call_fields_replace_by_spelling (by decide) (by decide) sent "Authorization").2
      "user" "pw" named (by decide)

end Transport

end SamlAdmin
