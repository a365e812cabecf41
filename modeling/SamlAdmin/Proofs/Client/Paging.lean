import SamlAdmin.Proofs.Client.Taking
import SamlAdmin.Proofs.Json.Octets
import SamlAdmin.Proofs.Resource.Listing

/-!
# Going through all pages

A caller lists all configurations page by page: it asks for the first page, and as long as
a page has a next one it asks for that by its token.  `Client.Listing` is a run of this loop
and `Chain` describes what a server answers to it: well-formed pages of which all but the
last carry a token.  Each request then asks for the page that its predecessor announced, no
page is asked for twice, and the configurations come out in the order of the server.

The tokens have to be Unicode text.  A body may spell half of a surrogate pair as an
escape, which is taken for a token and cannot be written into the next request.
-/

namespace SamlAdmin

/-! ## The loop and the pages that it meets -/

/-- The argument that stands for a token, and null for the first page. -/
def tokenArgument : Option Text → Value
  | none => .null
  | some token => .str token

/-- The argument with which a caller goes on after an answer: the token of a page that has a
next one. -/
def Answer.goesOn? (answer : Answer) : Option Value :=
  match answer.outcome with
  | .ok (.page page) =>
    if page.hasNextPage then some (tokenArgument page.nextPageToken) else none
  | .ok _ => none
  | .error _ => none

/-- A run of the loop of a caller, from the call for a token on: list a page, and go on with
its token as long as it has a next one.  The answers are those to all calls in turn. -/
inductive Client.Listing (size : Value) :
    (token : Value) → Client → Server → List Answer → Client → Server → Prop where
  | last {token : Value} {client after : Client} {server serverAfter : Server} {answer : Answer}
      (performed : client.perform (.list token size) server = (answer, after, serverAfter))
      (ends : answer.goesOn? = none) :
      Listing size token client server [answer] after serverAfter
  | next {token nextToken : Value} {client between after : Client}
      {server serverBetween serverAfter : Server} {answer : Answer} {answers : List Answer}
      (performed : client.perform (.list token size) server = (answer, between, serverBetween))
      (goesOn : answer.goesOn? = some nextToken)
      (rest : Listing size nextToken between serverBetween answers after serverAfter) :
      Listing size token client server (answer :: answers) after serverAfter

/-- The loop has one run at most. -/
theorem Client.Listing.unique {size token : Value} {client after otherAfter : Client}
    {server serverAfter otherServer : Server} {answers others : List Answer}
    (listing : Listing size token client server answers after serverAfter)
    (other : Listing size token client server others otherAfter otherServer) :
    others = answers ∧ otherAfter = after ∧ otherServer = serverAfter := by
  induction listing generalizing others otherAfter otherServer with
  | last performed ends =>
      cases other with
      | last otherPerformed _ =>
          rw [performed] at otherPerformed
          cases otherPerformed
          exact ⟨rfl, rfl, rfl⟩
      | next otherPerformed goesOn _ =>
          rw [performed] at otherPerformed
          cases otherPerformed
          rw [ends] at goesOn
          cases goesOn
  | next performed goesOn _ ih =>
      cases other with
      | last otherPerformed ends =>
          rw [performed] at otherPerformed
          cases otherPerformed
          rw [ends] at goesOn
          cases goesOn
      | next otherPerformed otherGoesOn rest =>
          rw [performed] at otherPerformed
          cases otherPerformed
          rw [goesOn] at otherGoesOn
          cases otherGoesOn
          obtain ⟨rfl, rfl, rfl⟩ := ih rest
          exact ⟨rfl, rfl, rfl⟩

/-- A response of the server with the resources that it lists and the token in it. -/
structure ServedPage where
  response : Response
  items : List Value
  next : Option Text

/-- Whether a response has success and lists what it should. -/
structure ServedPage.WellFormed (page : ServedPage) : Prop where
  success : 200 ≤ page.response.status ∧ page.response.status ≤ 299
  body : ∃ body, Json.readBody page.response.body = .ok body ∧ body.Lists page.items page.next

/-- Pages that follow each other: all of them are well-formed, and all but the last carry a
token. -/
inductive Chain : List ServedPage → Prop where
  | last {page : ServedPage} (formed : page.WellFormed) (noNext : page.next = none) : Chain [page]
  | more {page : ServedPage} {pages : List ServedPage} {token : Text} (formed : page.WellFormed)
      (announces : page.next = some token) (rest : Chain pages) : Chain (page :: pages)

/-- The tokens by which the pages of a chain are asked for, if the first is asked for by a
given one: each page is asked for by the token of the page before it. -/
def askedTokens : Option Text → List ServedPage → List (Option Text)
  | _, [] => []
  | token, page :: pages => token :: askedTokens page.next pages

/-- The query parameters that ask for a page. -/
def pageParameters (size : Int) (token : Option Text) : List (Text × Text) :=
  ("pageSize", Text.ofInt size) :: token.toList.map fun token => ("pageToken", token)

namespace Answer

/-- The parameters that the query of a sent request writes. -/
def parameters? (answer : Answer) : Option (List (Text × Text)) :=
  answer.sent.bind fun request => request.target.query.map Form.decode

def configs (answer : Answer) : List ProviderConfig :=
  match answer.outcome with
  | .ok (.page page) => page.configs
  | _ => []

end Answer

/-! ## Clients that can list -/

/-- The address of the collection of configurations, as a client puts it together. -/
def Client.collectionAddress (client : Client) : Text :=
  client.transport.endpoint ++ (("/projects/" : Text) ++ client.projectId.plain ++ collectionPath)

/-- A client that can list configurations, as far as this is not a matter of the page: it has
a project, its headers can be sent, and its collection has an address. -/
structure Client.CanList (client : Client) : Prop where
  project : client.projectId.isTruthy = true
  headers : client.transport.headers.check = .ok ()
  address : ∃ plain target, Target.parse client.collectionAddress = .ok plain ∧
    plain.withQuery none = .ok target

/-- A client of a project at the admin endpoint can list configurations. -/
theorem Client.AtAdmin.canList {project : Text} {client : Client} (admin : AtAdmin project client)
    (named : IsProjectName project) (headers : client.transport.headers.check = .ok ())
    (fits : (Target.adminOrigin ++ configsPath project).length ≤ Target.longest) :
    client.CanList where
  project := by
    rw [admin.project]
    exact named.isTruthy
  headers := headers
  address := by
    have final := named.finalPath_configsPath
    have whole : client.collectionAddress = Target.adminOrigin ++ configsPath project := by
      rw [collectionAddress, admin.endpoint, admin.project, List.append_assoc, Value.plain,
        Operation.Planned.configsPath_of_collection]
    have short : (configsPath project).length ≤ Target.longest := by
      rw [List.length_append] at fits
      exact Nat.le_trans (Nat.le_add_left _ _) fits
    refine ⟨_, _, ?_, (Target.withQuery_admin_eq_ok_iff final (by simp)).mpr
      ⟨short, Nat.zero_le _, rfl⟩⟩
    rw [whole]
    exact (Target.parse_admin_eq_ok_iff final).mpr ⟨fits, rfl⟩

/-! ## Asking for one page -/

theorem Server.fst_answer_cons (reply : Reply) (script : List Reply) :
    (Server.answer ⟨reply :: script⟩).1 = reply := by
  cases script <;> rfl

theorem Server.snd_answer_cons (reply : Reply) {script : List Reply} (filled : script ≠ []) :
    (Server.answer ⟨reply :: script⟩).2 = ⟨script⟩ := by
  cases script with
  | nil => exact absurd rfl filled
  | cons next others => rfl

section Page

variable {client : Client} {server : Server} {size : Int} {token : Option Text}

/-- The request for a page is planned, and its parameters ask for the page. -/
theorem exists_planned_list (range : 1 ≤ size ∧ size ≤ maxPageSize) (nonempty : token ≠ some []) :
    ∃ plan members, (Operation.list (tokenArgument token) (.int size)).Planned plan ∧
      plan.path = collectionPath ∧ plan.parameters = some members ∧ members ≠ [] ∧
      Form.pairs members = pageParameters size token := by
  cases token with
  | none =>
      refine ⟨_, _, .firstPage range, rfl, rfl, List.cons_ne_nil _ _, ?_⟩
      rw [Form.pairs_int]
      rfl
  | some text =>
      have present : text ≠ [] := by
        rintro rfl
        exact nonempty rfl
      refine ⟨_, _, .page present range, rfl, rfl, List.cons_ne_nil _ _, ?_⟩
      rw [Form.pairs_int]
      rfl

/-- What can be asked of a page: its token is Unicode text, and its query is not too long. -/
structure CanAsk (size : Int) (token : Option Text) : Prop where
  unicode : ∀ text ∈ token, text.IsUnicode
  fits : (Form.encode (pageParameters size token)).length ≤ Target.longest

theorem Client.CanList.reaches (can : client.CanList) : client.Reaches collectionPath :=
  ⟨can.project, can.headers, can.address⟩

/-- A page that can be asked for is asked for in a request that can be prepared. -/
theorem Client.CanList.exists_request (can : client.CanList)
    (range : 1 ≤ size ∧ size ≤ maxPageSize) (nonempty : token ≠ some []) (ask : CanAsk size token) :
    ∃ plan request, (Operation.list (tokenArgument token) (.int size)).Planned plan ∧
      client.calls plan = .ok request ∧
      request.target.query.map Form.decode = some (pageParameters size token) := by
  obtain ⟨plan, members, planned, path, parameters, filled, pairs⟩ :=
    exists_planned_list range nonempty
  have unicode : (Operation.list (tokenArgument token) (.int size)).IsUnicode := by
    cases token with
    | none => exact List.forall_mem_nil _
    | some text => exact List.forall_mem_singleton.mpr (ask.unicode text rfl)
  have fits : ∀ members ∈ plan.parameters,
      (Form.encode (Form.pairs members)).length ≤ Target.longest := by
    rw [parameters]
    rintro _ ⟨⟩
    rw [pairs]
    exact ask.fits
  have reaches := can.reaches
  rw [← path] at reaches
  obtain ⟨request, ready⟩ := reaches.exists_calls planned unicode fits
  rw [← pairs]
  exact ⟨plan, request, planned, ready, (Client.query_of_calls parameters filled ready).2⟩

/-- A token that is no Unicode text is not asked for, and the call for it fails. -/
theorem Client.not_sent_of_not_isUnicode {text : Text} (broken : ¬text.IsUnicode) :
    ∃ answer after serverAfter fault,
      client.perform (.list (.str text) (.int size)) server = (answer, after, serverAfter) ∧
      answer.sent = none ∧ answer.outcome = .error fault := by
  have notSent : (client.perform (.list (.str text) (.int size)) server).1.sent = none := by
    rw [Option.eq_none_iff_forall_ne_some]
    intro request isSent
    obtain ⟨plan, planned, _, ready⟩ := sent_perform_eq_some_iff.mp isSent
    obtain ⟨_, _, _, _, _, placed, _, _⟩ := Request.prepare_eq_ok_iff.mp ready
    cases planned with
    | page nonempty range =>
        obtain ⟨writable, _⟩ := Request.query_of_withParameters (List.cons_ne_nil _ _) placed
        rw [Form.pairs_int, Form.pairs_text, Form.fault?_cons_iff, Form.pairs_nil,
          Form.fault?_singleton_iff] at writable
        exact broken writable.2.2
  obtain ⟨fault, failed⟩ := (perform_course _ client server).failed_of_not_sent notSent
  exact ⟨_, _, _, fault, rfl, notSent, failed⟩

/-- An answer that shows a page as the server sent it, to a request that asked for it. -/
structure Answer.Shows (answer : Answer) (size : Int) (token : Option Text) (page : ServedPage) :
    Prop where
  asked : answer.parameters? = some (pageParameters size token)
  shown : ∃ shown, answer.outcome = .ok (.page shown) ∧ shown.nextPageToken = page.next ∧
    (shown.hasNextPage = true ↔ shown.nextPageToken ≠ none) ∧
    List.Forall₂ Value.HoldsConfig page.items shown.configs

/-- A caller goes on after such an answer exactly if the page carries a token. -/
theorem Answer.Shows.goesOn?_eq {answer : Answer} {page : ServedPage}
    (shows : answer.Shows size token page) :
    answer.goesOn? = page.next.map fun token => tokenArgument (some token) := by
  obtain ⟨shown, outcome, isNext, hasNext, _⟩ := shows.shown
  rw [isNext] at hasNext
  simp only [Answer.goesOn?, outcome, isNext]
  cases next : page.next with
  | none =>
      rw [next] at hasNext
      exact if_neg fun other => hasNext.mp other rfl
  | some text =>
      rw [next] at hasNext
      exact if_pos (hasNext.mpr (Option.some_ne_none text))

theorem ServedPage.WellFormed.conclude {page : ServedPage} (formed : page.WellFormed)
    {token size : Value} :
    ∃ body shown, Json.readBody page.response.body = .ok body ∧
      (Operation.list token size).conclude (some body) = .ok (.page shown) ∧
      shown.nextPageToken = page.next ∧ (shown.hasNextPage = true ↔ shown.nextPageToken ≠ none) ∧
      List.Forall₂ Value.HoldsConfig page.items shown.configs := by
  obtain ⟨body, decoded, lists⟩ := formed.body
  obtain ⟨resources, isRead, isNext, inOrder⟩ := lists.read
  have present : Operation.presentBody (some body) = body := by
    cases truthy : body.isTruthy with
    | true => exact Operation.presentBody_of_isTruthy truthy
    | false =>
        rw [Operation.presentBody_of_not_isTruthy truthy]
        exact (lists.shaped.eq_empty truthy).symm
  refine ⟨body, resources.toPage, decoded, ?_, isNext, resources.hasNextPage_toPage_iff, inOrder⟩
  rw [Operation.conclude, Operation.readPage, present, isRead]

/-- A call for a page that the server sends next is answered with this page, and takes one
answer of the server. -/
theorem Client.CanList.perform_list (can : client.CanList)
    (range : 1 ≤ size ∧ size ≤ maxPageSize) (nonempty : token ≠ some []) (ask : CanAsk size token)
    {page : ServedPage} (formed : page.WellFormed)
    (replied : server.answer.1 = .response page.response) :
    ∃ answer after, client.perform (.list (tokenArgument token) (.int size)) server =
        (answer, after, server.answer.2) ∧
      after.CanList ∧ answer.Shows size token page := by
  obtain ⟨plan, request, planned, ready, query⟩ := can.exists_request range nonempty ask
  obtain ⟨body, shown, decoded, concluded, facts⟩ := formed.conclude
  have success : Status.isSuccess page.response.status = true := by
    simpa [Status.isSuccess] using formed.success
  have course := perform_course (.list (tokenArgument token) (.int size)) client server
  generalize client.perform (.list (tokenArgument token) (.int size)) server = performed at course ⊢
  obtain ⟨answer, after, serverAfter⟩ := performed
  replace course : Course _ client server answer after serverAfter := course
  have isSent := course.sent_eq_some planned can.project ready
  obtain ⟨rfl, rfl⟩ := course.after_of_sent isSent
  have outcome := course.outcome_of_success isSent replied success decoded
  refine ⟨answer, _, rfl, ⟨can.project, can.headers, can.address⟩, ?_, shown, ?_, facts⟩
  · rw [Answer.parameters?, isSent]
    exact query
  · exact outcome.trans concluded

end Page

/-! ## Going through a chain -/

/-- Answers that show the pages of a chain in turn, the first of which was asked for by a
given token. -/
inductive ShowInTurn (size : Int) : Option Text → List ServedPage → List Answer → Prop where
  | done {token : Option Text} : ShowInTurn size token [] []
  | more {token : Option Text} {page : ServedPage} {pages : List ServedPage} {answer : Answer}
      {answers : List Answer} (shows : answer.Shows size token page)
      (rest : ShowInTurn size page.next pages answers) :
      ShowInTurn size token (page :: pages) (answer :: answers)

namespace ShowInTurn

variable {size : Int} {token : Option Text} {pages : List ServedPage} {answers : List Answer}

theorem length_eq (turn : ShowInTurn size token pages answers) :
    answers.length = pages.length := by
  induction turn with
  | done => rfl
  | more _ _ ih => exact congrArg Nat.succ ih

/-- Each page is asked for by the token of the page before it. -/
theorem parameters_eq (turn : ShowInTurn size token pages answers) :
    answers.map Answer.parameters? =
      (askedTokens token pages).map fun asked => some (pageParameters size asked) := by
  induction turn with
  | done => rfl
  | more shows _ ih => exact congrArg₂ List.cons shows.asked ih

/-- The configurations of the answers are those of the pages, one after the other. -/
theorem configs_eq (turn : ShowInTurn size token pages answers) :
    List.Forall₂ Value.HoldsConfig (pages.flatMap ServedPage.items)
      (answers.flatMap Answer.configs) := by
  induction turn with
  | done => exact .nil
  | more shows _ ih =>
      obtain ⟨shown, outcome, _, _, inOrder⟩ := shows.shown
      simp only [List.flatMap_cons, Answer.configs, outcome]
      exact List.rel_append inOrder ih

theorem isPage (turn : ShowInTurn size token pages answers) :
    ∀ answer ∈ answers, ∃ shown, answer.outcome = .ok (.page shown) ∧
      (shown.hasNextPage = true ↔ shown.nextPageToken ≠ none) := by
  induction turn with
  | done => exact List.forall_mem_nil _
  | more shows _ ih =>
      obtain ⟨shown, outcome, _, hasNext, _⟩ := shows.shown
      exact List.forall_mem_cons.mpr ⟨⟨shown, outcome, hasNext⟩, ih⟩

end ShowInTurn

theorem Value.Lists.next_ne_empty {body : Value} {items : List Value} {next : Option Text}
    (lists : body.Lists items next) : next ≠ some [] := by
  rintro rfl
  have token := lists.token
  generalize body.member? ⟨"nextPageToken", "next_page_token"⟩ = member at token
  cases token with
  | given nonempty => exact nonempty rfl

namespace Client

/-- A chain is gone through from any of its pages on, one call for each page. -/
theorem CanList.listing_of_chain {size : Int} (range : 1 ≤ size ∧ size ≤ maxPageSize)
    {pages : List ServedPage} (chain : Chain pages) (more : List Reply) {client : Client}
    (can : client.CanList) {token : Option Text} (nonempty : token ≠ some [])
    (ask : ∀ asked ∈ askedTokens token pages, CanAsk size asked) :
    ∃ answers after serverAfter, Listing (.int size) (tokenArgument token) client
        ⟨pages.map (fun page => .response page.response) ++ more⟩ answers after serverAfter ∧
      (more ≠ [] → serverAfter = ⟨more⟩) ∧ ShowInTurn size token pages answers := by
  induction chain generalizing client token with
  | @last page formed noNext =>
      obtain ⟨answer, after, performed, _, shows⟩ := can.perform_list range nonempty
        (ask token List.mem_cons_self) formed (Server.fst_answer_cons _ more)
      have ends : answer.goesOn? = none := by
        rw [shows.goesOn?_eq, noNext]
        rfl
      exact ⟨[answer], after, _, .last performed ends,
        Server.snd_answer_cons (.response page.response), .more shows .done⟩
  | @more page pages next formed announces rest ih =>
      have filled : pages.map (fun page => Reply.response page.response) ++ more ≠ [] := by
        cases rest <;> exact List.cons_ne_nil _ _
      obtain ⟨answer, between, performed, canGoOn, shows⟩ := can.perform_list range nonempty
        (ask token List.mem_cons_self) formed (Server.fst_answer_cons _ _)
      rw [Server.snd_answer_cons _ filled] at performed
      have goesOn : answer.goesOn? = some (tokenArgument page.next) := by
        rw [shows.goesOn?_eq, announces]
        rfl
      obtain ⟨body, _, lists⟩ := formed.body
      obtain ⟨answers, after, serverAfter, listing, left, turn⟩ := ih canGoOn lists.next_ne_empty
        fun asked member => ask asked (List.mem_cons_of_mem token member)
      exact ⟨answer :: answers, after, serverAfter, .next performed goesOn listing, left,
        .more shows turn⟩

/-- All configurations are listed by following the tokens.  The loop has a run, which by
`Listing.unique` is its only one.  It makes one call for each page of a chain, and leaves the
server with what it has behind the chain.  Every answer is a page, which has a next one
exactly if it has a token.  Every request asks for the size and by the token of the page
before it, and nothing else.  The configurations of all answers are those of the resources
in all pages, in the order of the server. -/
theorem pages_are_listed_in_turn {client : Client} (can : client.CanList) {size : Int}
    (range : 1 ≤ size ∧ size ≤ maxPageSize) {pages : List ServedPage} (chain : Chain pages)
    (ask : ∀ asked ∈ askedTokens none pages, CanAsk size asked) (more : List Reply) :
    ∃ answers after serverAfter, Listing (.int size) .null client
        ⟨pages.map (fun page => .response page.response) ++ more⟩ answers after serverAfter ∧
      answers.length = pages.length ∧ (more ≠ [] → serverAfter = ⟨more⟩) ∧
      (∀ answer ∈ answers, ∃ page, answer.outcome = .ok (.page page) ∧
        (page.hasNextPage = true ↔ page.nextPageToken ≠ none)) ∧
      answers.map Answer.parameters? =
        (askedTokens none pages).map (fun asked => some (pageParameters size asked)) ∧
      List.Forall₂ Value.HoldsConfig (pages.flatMap ServedPage.items)
        (answers.flatMap Answer.configs) := by
  obtain ⟨answers, after, serverAfter, listing, left, turn⟩ :=
    can.listing_of_chain range chain more (Option.some_ne_none []).symm ask
  exact ⟨answers, after, serverAfter, listing, turn.length_eq, left, turn.isPage,
    turn.parameters_eq, turn.configs_eq⟩

/-- A page with a configuration of a given name, and with the token of a page after it
where there is one. -/
def pageOf (name : Text) (next : Option Text) (text : String) : ServedPage where
  response := answerOf text
  items := [.object [("name", .str name)]]
  next := next

/-- The members of the body of such a page. -/
def pageMembers (name : Text) (next : Option Text) : List (Text × Value) :=
  ("inboundSamlConfigs", .list [.object [("name", .str name)]]) ::
    next.toList.map fun token => ("nextPageToken", .str token)

theorem wellFormed_pageOf {name : Text} {next : Option Text} {text : String}
    (printed : Json.print .compact (.object (pageMembers name next)) = .ok (Text.ofString text))
    (nonempty : next ≠ some []) : (pageOf name next text).WellFormed := by
  have plain : Json.Plain (.object (pageMembers name next)) := by
    have item : Json.Plain (.object [("name", .str name)]) :=
      .object (List.forall_mem_singleton.mpr (.str name)) (by simp)
    have items : Json.Plain (.list [.object [("name", .str name)]]) :=
      .list (List.forall_mem_singleton.mpr item)
    cases next with
    | none =>
        have keys : [("inboundSamlConfigs" : Text)].Nodup := by decide
        exact .object (List.forall_mem_singleton.mpr items) keys
    | some token =>
        have both : ∀ member ∈ pageMembers name (some token), Json.Plain member.2 :=
          List.forall_mem_cons.mpr ⟨items, List.forall_mem_singleton.mpr (.str token)⟩
        have keys : [("inboundSamlConfigs" : Text), "nextPageToken"].Nodup := by decide
        exact .object both keys
  have shaped : (Value.object (pageMembers name next)).IsResourceList := by
    rw [← Reading.accepts_resourceList]
    cases next with
    | none => exact ⟨_, rfl⟩
    | some token => exact ⟨_, rfl⟩
  have success : 200 ≤ 200 ∧ 200 ≤ 299 := by decide
  refine ⟨success, _, plain.readBody_encode printed, shaped, .given _, ?_⟩
  cases next with
  | none => exact .absent
  | some token =>
      have present : token ≠ [] := by
        rintro rfl
        exact nonempty rfl
      exact .given present

/-- Two pages, the first of which has a token that a query cannot hold as it stands. -/
def firstPage : ServedPage :=
  pageOf "saml.one" (some "a&b c+%#é")
    "\x7b\"inboundSamlConfigs\":[\x7b\"name\":\"saml.one\"\x7d],\"nextPageToken\":\"a&b c+%#é\"\x7d"

def lastPage : ServedPage :=
  pageOf "saml.two" none "\x7b\"inboundSamlConfigs\":[\x7b\"name\":\"saml.two\"\x7d]\x7d"

theorem lastPage_wellFormed : lastPage.WellFormed :=
  wellFormed_pageOf rfl (Option.some_ne_none []).symm

theorem canList_usual : (usual "my-project").CanList :=
  (atAdmin_usual "my-project").canList (by decide) rfl (by decide)

/-- Two pages are listed in two calls, and the second one asks for the page by the token. -/
theorem two_pages_are_listed_in_turn :
    ∃ answers after serverAfter, Listing (.int 5) .null (usual "my-project")
        ⟨[.response firstPage.response, .response lastPage.response]⟩ answers after serverAfter ∧
      answers.map Answer.parameters? =
        [none, some ("a&b c+%#é" : Text)].map (fun token => some (pageParameters 5 token)) ∧
      (answers.flatMap Answer.configs).map ProviderConfig.providerId =
        [("saml.one" : Text), "saml.two"] := by
  have chain : Chain [firstPage, lastPage] :=
    .more (wellFormed_pageOf rfl (by decide)) rfl (.last lastPage_wellFormed rfl)
  have ask : ∀ asked ∈ askedTokens none [firstPage, lastPage], CanAsk 5 asked := by
    have first : CanAsk 5 none := ⟨nofun, by decide⟩
    have next : CanAsk 5 (some "a&b c+%#é") := by
      refine ⟨?_, by decide⟩
      rintro text ⟨⟩
      exact .ofString _
    exact List.forall_mem_cons.mpr ⟨first, List.forall_mem_singleton.mpr next⟩
  obtain ⟨answers, after, serverAfter, listing, _, _, _, parameters, inOrder⟩ :=
    pages_are_listed_in_turn canList_usual (by decide) chain ask []
  refine ⟨answers, after, serverAfter, listing, parameters, ?_⟩
  generalize answers.flatMap Answer.configs = configs at inOrder
  obtain _ | ⟨⟨first, firstRead, rfl⟩, _ | ⟨⟨second, secondRead, rfl⟩, _ | _⟩⟩ := inOrder
  cases firstRead
  cases secondRead
  rfl

/-- Half of a surrogate pair. -/
def halfToken : Text := (CodePoint.ofNat? 0xD800).toList

/-- A page with this half for its token, which is spelled as an escape. -/
def halfPage : ServedPage where
  response := answerOf "\x7b\"nextPageToken\":\"\\ud800\"\x7d"
  items := []
  next := some halfToken

/-- Whether a value is the body of this page. -/
def isHalfBody : Value → Bool
  | .object [(key, .str token)] => key = "nextPageToken" && token = halfToken
  | _ => false

theorem halfPage_wellFormed : halfPage.WellFormed := by
  obtain ⟨body, read, tested⟩ :=
    exists_value_of_any halfPage.response.body isHalfBody (by decide +kernel)
  unfold isHalfBody at tested
  split at tested
  · next key token =>
      simp only [Bool.and_eq_true, decide_eq_true_eq] at tested
      obtain ⟨rfl, rfl⟩ := tested
      exact ⟨by decide, _, read, (Reading.accepts_resourceList _).mp ⟨_, rfl⟩, .absent,
        .given (List.cons_ne_nil _ _)⟩
  · cases tested

/-- A page with such a token is well-formed and the token is taken, but the request for the
page after it cannot be written.  So a chain with it is not gone through: the only run of the
loop ends with a failure for which nothing was sent. -/
theorem half_token_is_not_asked_for :
    Chain [halfPage, lastPage] ∧
    (∀ asked ∈ askedTokens none [halfPage, lastPage],
      (Form.encode (pageParameters 5 asked)).length ≤ Target.longest) ∧
    ∃ answers after serverAfter, Listing (.int 5) .null (usual "my-project")
        ⟨[.response halfPage.response, .response lastPage.response]⟩ answers after serverAfter ∧
      (∃ answer ∈ answers, answer.sent = none ∧ ∃ fault, answer.outcome = .error fault) ∧
      ∀ others otherAfter otherServer, Listing (.int 5) .null (usual "my-project")
        ⟨[.response halfPage.response, .response lastPage.response]⟩ others otherAfter
        otherServer → others = answers := by
  refine ⟨.more halfPage_wellFormed rfl (.last lastPage_wellFormed rfl), by decide, ?_⟩
  have ask : CanAsk 5 none := ⟨nofun, by decide⟩
  obtain ⟨first, between, performed, _, shows⟩ := canList_usual.perform_list (by decide)
    (Option.some_ne_none []).symm ask halfPage_wellFormed
    (Server.fst_answer_cons _ [.response lastPage.response])
  have broken : ¬Text.IsUnicode halfToken := by decide
  obtain ⟨second, after, serverAfter, fault, nextPerformed, notSent, failed⟩ :=
    between.not_sent_of_not_isUnicode broken
  have ends : second.goesOn? = none := by rw [Answer.goesOn?, failed]
  have listing := Listing.next performed shows.goesOn?_eq (.last nextPerformed ends)
  have refused : ∃ answer ∈ [first, second], answer.sent = none ∧
      ∃ fault, answer.outcome = .error fault :=
    ⟨second, by simp, notSent, fault, failed⟩
  exact ⟨[first, second], after, serverAfter, listing, refused,
    fun _ _ _ other => (listing.unique other).1⟩

end Client

end SamlAdmin
