import SamlAdmin.Proofs.Client.Course
import SamlAdmin.Proofs.Transport.Traffic

/-!
# Who closes a channel

A client and the transport below it are used in any order: a channel is asked for, calls are
sent, operations are performed, and either of the two is closed.  A history lists what became
of the channels on the way.

A channel that was supplied stays the only one, and it is never closed.  A transport that opens
its own channels opens them in turn: a channel is opened when the one before it is closed, and
the one that is open is the one that is held.  So no channel is closed twice, no request goes
through a closed one, and a request after a closing goes through a new one.
-/

namespace SamlAdmin

/-! ## Histories -/

/-- What becomes of a channel: it is opened, a request goes through it, it is closed. -/
inductive ChannelEvent where
  | opened (number : Nat) (limits : TimeLimits)
  | used (number : Nat)
  | closed (number : Nat)

/-- The number of the channel that an event is about. -/
def ChannelEvent.number : ChannelEvent → Nat
  | .opened number _ => number
  | .used number => number
  | .closed number => number

/-- Whether a channel was opened in a history and not closed. -/
def LeftOpen (number : Nat) (history : List ChannelEvent) : Prop :=
  (∃ limits, .opened number limits ∈ history) ∧ .closed number ∉ history

/-- The next event where channels are opened in turn, all with the same limits: how many were
opened so far and which of them is open, before it and after it. -/
inductive Turn (limits : TimeLimits) : Nat → Option Nat → ChannelEvent → Nat → Option Nat → Prop
    where
  | opened {count : Nat} : Turn limits count none (.opened count limits) (count + 1) (some count)
  | used {count number : Nat} : Turn limits count (some number) (.used number) count (some number)
  | closed {count number : Nat} : Turn limits count (some number) (.closed number) count none

/-- A history of channels that were opened in turn. -/
inductive InTurn (limits : TimeLimits) : Nat → Option Nat → List ChannelEvent → Prop where
  | nothing : InTurn limits 0 none []
  | next {count countAfter : Nat} {held heldAfter : Option Nat} {history : List ChannelEvent}
      {event : ChannelEvent} (turns : InTurn limits count held history)
      (turn : Turn limits count held event countAfter heldAfter) :
      InTurn limits countAfter heldAfter (history ++ [event])

namespace InTurn

variable {limits given : TimeLimits} {count number : Nat} {held : Option Nat}
  {history front back : List ChannelEvent} {event : ChannelEvent}

theorem lt_of_held (turns : InTurn limits count held history) (isHeld : held = some number) :
    number < count := by
  induction turns with
  | nothing => cases isHeld
  | next turns turn ih =>
      cases turn with
      | opened =>
          cases isHeld
          exact Nat.lt_add_one _
      | used => exact ih isHeld
      | closed => cases isHeld

theorem number_lt (turns : InTurn limits count held history) (member : event ∈ history) :
    event.number < count := by
  induction turns with
  | nothing => cases member
  | next turns turn ih =>
      rcases List.mem_append.mp member with earlier | last
      · have before := ih earlier
        cases turn with
        | opened => exact Nat.lt_add_right 1 before
        | used => exact before
        | closed => exact before
      · rw [List.mem_singleton.mp last]
        cases turn with
        | opened => exact Nat.lt_add_one _
        | used => exact turns.lt_of_held rfl
        | closed => exact turns.lt_of_held rfl

/-- The one channel that a history leaves open is the one that is held. -/
theorem leftOpen_iff (turns : InTurn limits count held history) :
    LeftOpen number history ↔ held = some number := by
  induction turns with
  | nothing => simp [LeftOpen]
  | @next count _ _ _ history _ turns turn ih =>
      cases turn with
      | opened =>
          have notClosed : (.closed count : ChannelEvent) ∉ history := fun member =>
            Nat.lt_irrefl _ (turns.number_lt member)
          by_cases same : count = number
          · subst same
            simp [LeftOpen, notClosed]
          · have notOpen : ¬ LeftOpen number history := fun isOpen => nomatch ih.mp isOpen
            simpa [LeftOpen, same, Ne.symm same] using notOpen
      | used => simpa [LeftOpen] using ih
      | closed =>
          simp only [LeftOpen, List.mem_append, List.mem_singleton] at ih ⊢
          constructor
          · rintro ⟨⟨given, opened⟩, notClosed⟩
            have isOpened : .opened number given ∈ history := opened.resolve_right nofun
            have isHeld := ih.mp ⟨⟨given, isOpened⟩, fun closed => notClosed (Or.inl closed)⟩
            cases isHeld
            exact absurd (Or.inr rfl) notClosed
          · exact nofun

/-- What stands before an event of a history is a history, and the event is its next. -/
theorem exists_turn (turns : InTurn limits count held (front ++ event :: back)) :
    ∃ count held countAfter heldAfter,
      InTurn limits count held front ∧ Turn limits count held event countAfter heldAfter := by
  generalize whole : front ++ event :: back = history at turns
  induction turns generalizing back with
  | nothing => simp at whole
  | next turns turn ih =>
      rcases List.eq_nil_or_concat back with rfl | ⟨rest, last, rfl⟩
      · obtain ⟨rfl, same⟩ := List.append_inj' whole rfl
        cases same
        exact ⟨_, _, _, _, turns, turn⟩
      · rw [List.concat_eq_append, ← List.cons_append, ← List.append_assoc] at whole
        exact ih (List.append_inj' whole rfl).1

/-- A request goes through a channel, and a closing closes it, only while it is open. -/
theorem leftOpen_of_turn (turns : InTurn limits count held (front ++ event :: back))
    (later : event = .used number ∨ event = .closed number) : LeftOpen number front := by
  obtain ⟨_, _, _, _, before, turn⟩ := turns.exists_turn
  rcases later with rfl | rfl
  · cases turn
    exact before.leftOpen_iff.mpr rfl
  · cases turn
    exact before.leftOpen_iff.mpr rfl

/-- A channel is opened with the limits of all, when no other is open, and its number is new. -/
theorem of_opened (turns : InTurn limits count held (front ++ .opened number given :: back)) :
    given = limits ∧ (∀ other, ¬ LeftOpen other front) ∧
      ∀ event ∈ front, event.number ≠ number := by
  obtain ⟨_, _, _, _, before, turn⟩ := turns.exists_turn
  cases turn
  refine ⟨rfl, fun other isOpen => ?_, fun event member => Nat.ne_of_lt (before.number_lt member)⟩
  cases before.leftOpen_iff.mp isOpen

/-- Where none was open, a request goes through a channel that was opened since. -/
theorem opened_since {countLater : Nat} {heldLater : Option Nat}
    (turns : InTurn limits count none history)
    (later : InTurn limits countLater heldLater (history ++ (front ++ .used number :: back))) :
    .opened number limits ∈ front := by
  rw [← List.append_assoc] at later
  obtain ⟨⟨given, opened⟩, notClosed⟩ := later.leftOpen_of_turn (.inl rfl)
  have isNew : .opened number given ∉ history := by
    intro member
    have leftOpen : LeftOpen number history :=
      ⟨⟨given, member⟩, fun closed => notClosed (List.mem_append_left _ closed)⟩
    cases turns.leftOpen_iff.mp leftOpen
  have since : .opened number given ∈ front := (List.mem_append.mp opened).resolve_left isNew
  obtain ⟨before, behind, split⟩ := List.append_of_mem since
  rw [split, ← List.append_assoc, List.append_assoc, List.cons_append] at later
  rwa [later.of_opened.1] at since

end InTurn

/-! ## The channels of a transport -/

namespace Channels

variable {channels after : Channels} {limits : TimeLimits} {channel : Channel}
  {history events : List ChannelEvent} {number : Nat}

/-- What asking for a channel opens. -/
def acquisition (channels : Channels) : List ChannelEvent :=
  (channels.acquire.2.known.drop channels.known.length).map fun channel =>
    .opened channels.acquire.1 channel.limits

/-- What becomes of the channels when a request is made. -/
def passage (channels : Channels) : List ChannelEvent :=
  channels.acquisition ++ [.used channels.acquire.1]

/-- What a closing closes. -/
def closure (channels : Channels) : List ChannelEvent :=
  channels.beginClose.1.toList.map .closed

theorem acquisition_of_held (held : channels.held = some number) : channels.acquisition = [] := by
  rw [acquisition, acquire_of_held held, List.drop_length, List.map_nil]

theorem acquisition_of_none (free : channels.held = none) :
    channels.acquisition = [.opened channels.known.length channels.limits] := by
  simp [acquisition, acquire, free]

/-- The steps that channels take, with what becomes of them. -/
inductive Step (channels : Channels) : Channels → List ChannelEvent → Prop where
  | idle : Step channels channels []
  | acquired : Step channels channels.acquire.2 channels.acquisition
  | passed : Step channels channels.acquire.2 channels.passage
  | closed : Step channels channels.close.2 channels.closure

theorem Step.of_supplied (step : Step (supplied limits channel) after events) :
    after = supplied limits channel ∧ ∀ event ∈ events, event = .used 0 := by
  have none : (supplied limits channel).acquisition = [] := acquisition_of_held rfl
  cases step with
  | idle => exact ⟨rfl, nofun⟩
  | acquired =>
      rw [none]
      exact ⟨rfl, nofun⟩
  | passed =>
      rw [passage, none]
      exact ⟨rfl, fun event member => List.mem_singleton.mp member⟩
  | closed => exact ⟨rfl, nofun⟩

/-- Channels of a transport that opens its own: they were opened in turn, and the one that is
open is held. -/
structure InOrder (limits : TimeLimits) (channels : Channels) (history : List ChannelEvent) :
    Prop where
  sameLimits : channels.limits = limits
  owned : channels.owned = true
  isOpen_iff : ∀ number, channels.isClosed number = false ↔ channels.held = some number
  inTurn : InTurn limits channels.known.length channels.held history

theorem inOrder_ofLimits (limits : TimeLimits) : (ofLimits limits).InOrder limits [] where
  sameLimits := rfl
  owned := rfl
  isOpen_iff := fun number => by simp [ofLimits, isClosed]
  inTurn := .nothing

namespace InOrder

theorem isClosed_of_none (order : channels.InOrder limits history) (free : channels.held = none)
    (number : Nat) : channels.isClosed number = true := by
  refine eq_true_of_ne_false fun isOpen => ?_
  cases free.symm.trans ((order.isOpen_iff number).mp isOpen)

theorem acquire (order : channels.InOrder limits history) :
    channels.acquire.2.InOrder limits (history ++ channels.acquisition) ∧
      channels.acquire.2.held = some channels.acquire.1 := by
  cases held : channels.held with
  | some number =>
      rw [acquire_of_held held, acquisition_of_held held, List.append_nil]
      exact ⟨order, held⟩
  | none =>
      obtain ⟨isHeld, others⟩ := acquire_of_none held
      rw [acquisition_of_none held, order.sameLimits]
      have isNew : channels.acquire.2.isClosed channels.known.length = false := by
        simp [Channels.acquire, held, isClosed]
      refine ⟨⟨?_, ?_, fun number => ?_, ?_⟩, ?_⟩
      · rw [Channels.acquire, held]
        exact order.sameLimits
      · rw [Channels.acquire, held]
      · rw [isHeld, Option.some.injEq]
        by_cases same : channels.known.length = number
        · exact iff_of_true (same ▸ isNew) same
        · rw [others number (Ne.symm same), order.isClosed_of_none held number]
          exact iff_of_false (by decide) same
      · have turns := order.inTurn
        rw [held] at turns
        rw [isHeld]
        have length : channels.acquire.2.known.length = channels.known.length + 1 := by
          simp [Channels.acquire, held]
        rw [length]
        exact turns.next .opened
      · rw [Channels.acquire, held]

theorem passage (order : channels.InOrder limits history) :
    channels.acquire.2.InOrder limits (history ++ channels.passage) := by
  obtain ⟨acquired, held⟩ := order.acquire
  rw [Channels.passage, ← List.append_assoc]
  refine ⟨acquired.sameLimits, acquired.owned, acquired.isOpen_iff, ?_⟩
  have turns := acquired.inTurn
  rw [held] at turns ⊢
  exact turns.next .used

theorem close (order : channels.InOrder limits history) :
    channels.close.2.InOrder limits (history ++ channels.closure) ∧
      channels.close.2.held = none := by
  rw [Channels.close, closure, beginClose]
  cases held : channels.held with
  | none =>
      rw [Option.toList_none, List.map_nil, List.append_nil]
      exact ⟨order, held⟩
  | some number =>
      rw [order.owned]
      refine ⟨⟨order.sameLimits, order.owned, fun other => ?_, ?_⟩, rfl⟩
      · refine iff_of_false ?_ (Option.some_ne_none other).symm
        show (channels.shut number).isClosed other ≠ false
        by_cases same : other = number
        · rw [same, isClosed_shut_self]
          decide
        · rw [isClosed_shut_of_ne same]
          intro isOpen
          cases held.symm.trans ((order.isOpen_iff other).mp isOpen)
          exact same rfl
      · have turns := order.inTurn
        rw [held] at turns
        have length : (channels.shut number).finishClose.known.length = channels.known.length :=
          List.length_modify _ _ _
        show InTurn limits (channels.shut number).finishClose.known.length none _
        rw [length]
        exact turns.next .closed

theorem step (order : channels.InOrder limits history) (step : Step channels after events) :
    after.InOrder limits (history ++ events) := by
  cases step with
  | idle =>
      rw [List.append_nil]
      exact order
  | acquired => exact order.acquire.1
  | passed => exact order.passage
  | closed => exact order.close.1

end InOrder

end Channels

/-! ## Using a client -/

/-- Whether an operation ended before its transport was asked for anything. -/
def Answer.isLocal (answer : Answer) : Bool :=
  match answer.outcome with
  | .error fault => fault.isLocal
  | .ok _ => false

/-- What can be done with a client and with the transport below it.  A client that is used for
a block is closed when the block is left. -/
inductive Use where
  | acquire
  | request (call : Call)
  | closeTransport
  | perform (operation : Operation)
  | close

namespace Use

def run (use : Use) (client : Client) (server : Server) : Client × Server :=
  match use with
  | .acquire => ({ client with transport := client.transport.acquired }, server)
  | .request call =>
    let (_, transport, server) := client.transport.request call server
    ({ client with transport }, server)
  | .closeTransport => ({ client with transport := client.transport.close.2 }, server)
  | .perform operation => (client.perform operation server).2
  | .close => (client.close.2, server)

/-- What becomes of the channels in a use. -/
def events (use : Use) (client : Client) (server : Server) : List ChannelEvent :=
  match use with
  | .acquire => client.transport.channels.acquisition
  | .request _ => client.transport.channels.passage
  | .perform operation =>
    if (client.perform operation server).1.isLocal then [] else client.transport.channels.passage
  | .closeTransport | .close => client.transport.channels.closure

/-- Whether a use is a closing. -/
def closes : Use → Bool
  | .closeTransport | .close => true
  | .acquire | .request _ | .perform _ => false

/-- What a use leaves as it is. -/
structure Keeps (before after : Client) : Prop where
  projectId : after.projectId = before.projectId
  endpoint : after.transport.endpoint = before.transport.endpoint
  headers : after.transport.headers = before.transport.headers

theorem request_eq (call : Call) (transport : Transport) (server : Server) :
    (transport.request call server).2.1 = transport.acquired := by
  cases prepared : transport.prepared call with
  | error fault => rw [Transport.request_of_error prepared]
  | ok sent => rw [Transport.request_of_ok prepared]

/-- An operation asks for a channel, unless it ends before. -/
theorem perform_eq (operation : Operation) (client : Client) (server : Server) :
    (client.perform operation server).2.1 =
      if (client.perform operation server).1.isLocal then client
      else { client with transport := client.transport.acquired } := by
  have course := Client.perform_course operation client server
  generalize (client.perform operation server).1 = answer at course ⊢
  generalize (client.perform operation server).2.1 = after at course ⊢
  generalize (client.perform operation server).2.2 = serverAfter at course
  cases course with
  | refused _ => rfl
  | withoutProject _ _ => rfl
  | unprepared _ _ _ => rfl
  | sent planned present ready =>
      rw [if_neg]
      rw [Answer.isLocal]
      split
      · next fault failed =>
          rw [Client.isLocal_of_answered failed]
          exact nofun
      · exact nofun

theorem step_run (use : Use) (client : Client) (server : Server) :
    client.transport.channels.Step (use.run client server).1.transport.channels
        (use.events client server) ∧
      Keeps client (use.run client server).1 := by
  cases use with
  | acquire => exact ⟨.acquired, rfl, rfl, rfl⟩
  | request call =>
      simp only [run, events, request_eq]
      exact ⟨.passed, rfl, rfl, rfl⟩
  | closeTransport => exact ⟨.closed, rfl, rfl, rfl⟩
  | perform operation =>
      rw [run, events, perform_eq]
      cases (client.perform operation server).1.isLocal with
      | true => exact ⟨.idle, rfl, rfl, rfl⟩
      | false => exact ⟨.passed, rfl, rfl, rfl⟩
  | close => exact ⟨.closed, rfl, rfl, rfl⟩

/-- A closing closes both the client and its transport in the same way. -/
theorem channels_of_closes {use : Use} (closes : use.closes = true) (client : Client)
    (server : Server) :
    (use.run client server).1.transport.channels = client.transport.channels.close.2 := by
  cases use with
  | closeTransport => rfl
  | close => rfl
  | _ => cases closes

end Use

/-- A client in use: how it stands with its server, and what became of its channels. -/
structure Usage where
  client : Client
  server : Server
  history : List ChannelEvent := []

namespace Usage

def start (projectId : Value) (endpoint : Text) (headers : Headers) (channels : Channels)
    (server : Server) : Usage where
  client := { projectId, transport := .ofEndpoint endpoint headers channels }
  server := server

def channels (usage : Usage) : Channels := usage.client.transport.channels

/-- One use. -/
def step (usage : Usage) (use : Use) : Usage where
  client := (use.run usage.client usage.server).1
  server := (use.run usage.client usage.server).2
  history := usage.history ++ use.events usage.client usage.server

def run (usage : Usage) : List Use → Usage
  | [] => usage
  | use :: uses => run (usage.step use) uses

variable {usage : Usage} {limits : TimeLimits} {channel : Channel}

theorem history_run (usage : Usage) (uses : List Use) :
    ∃ since, (usage.run uses).history = usage.history ++ since := by
  induction uses generalizing usage with
  | nil => exact ⟨[], (List.append_nil _).symm⟩
  | cons use uses ih =>
      obtain ⟨since, same⟩ := ih (usage.step use)
      exact ⟨use.events usage.client usage.server ++ since, by rw [← List.append_assoc]; exact same⟩

theorem inOrder_run (order : usage.channels.InOrder limits usage.history) (uses : List Use) :
    (usage.run uses).channels.InOrder limits (usage.run uses).history := by
  induction uses generalizing usage with
  | nil => exact order
  | cons use uses ih => exact ih (order.step (use.step_run usage.client usage.server).1)

theorem supplied_run (supplied : usage.channels = .supplied limits channel)
    (requests : ∀ event ∈ usage.history, event = .used 0) (uses : List Use) :
    (usage.run uses).channels = .supplied limits channel ∧
      ∀ event ∈ (usage.run uses).history, event = .used 0 := by
  induction uses generalizing usage with
  | nil => exact ⟨supplied, requests⟩
  | cons use uses ih =>
      have step := (use.step_run usage.client usage.server).1
      rw [show usage.client.transport.channels = .supplied limits channel from supplied] at step
      obtain ⟨same, new⟩ := step.of_supplied
      refine ih same fun event member => ?_
      rcases List.mem_append.mp member with earlier | later
      · exact requests event earlier
      · exact new event later

/-- Once a transport that opens its own channels is closed, none of them is open, and a later
request goes through one that was opened since. -/
theorem of_closes (order : usage.channels.InOrder limits usage.history) {use : Use}
    (closes : use.closes = true) :
    (∀ number, (usage.step use).channels.isClosed number = true) ∧
      ∀ later, ∃ since,
        ((usage.step use).run later).history = (usage.step use).history ++ since ∧
        ∀ front number back, since = front ++ .used number :: back →
          .opened number limits ∈ front := by
  have closed : (usage.step use).channels.InOrder limits (usage.step use).history :=
    order.step (use.step_run usage.client usage.server).1
  have free : (usage.step use).channels.held = none := by
    rw [show (usage.step use).channels = usage.channels.close.2 from
      Use.channels_of_closes closes usage.client usage.server]
    exact order.close.2
  refine ⟨closed.isClosed_of_none free, fun later => ?_⟩
  obtain ⟨since, same⟩ := history_run (usage.step use) later
  refine ⟨since, same, ?_⟩
  rintro front number back rfl
  have turns := closed.inTurn
  rw [free] at turns
  have turnsLater := (inOrder_run closed later).inTurn
  rw [same] at turnsLater
  exact turns.opened_since turnsLater

/-- However a client and its transport are used, what becomes of the channels follows from who
opened them.  A supplied channel stays as it is, and every request goes through it.  Otherwise
the channels are opened in turn: the one that is open is the one that is held; each has the
limits of the transport; requests and closings come to a channel only while it is open; and
once the transport is closed, none is open and a request goes through a new one. -/
theorem channels_follow_ownership (projectId : Value) (endpoint : Text) (headers : Headers)
    (limits : TimeLimits) (server : Server) (uses : List Use) :
    (∀ channel,
      let usage := (start projectId endpoint headers (.supplied limits channel) server).run uses
      usage.channels = .supplied limits channel ∧ ∀ event ∈ usage.history, event = .used 0) ∧
    let usage := (start projectId endpoint headers (.ofLimits limits) server).run uses
    (∀ number,
      (usage.channels.isClosed number = false ↔ LeftOpen number usage.history) ∧
      (usage.channels.isClosed number = false ↔ usage.channels.held = some number)) ∧
    (∀ front event back, usage.history = front ++ event :: back →
      ∀ number other, LeftOpen number front → LeftOpen other front → number = other) ∧
    (∀ front number given back, usage.history = front ++ .opened number given :: back →
      given = limits ∧ (∀ other, ¬ LeftOpen other front) ∧
        ∀ event ∈ front, event.number ≠ number) ∧
    (∀ front number back, usage.history = front ++ .used number :: back →
      LeftOpen number front) ∧
    (∀ front number back, usage.history = front ++ .closed number :: back →
      LeftOpen number front) ∧
    ∀ use : Use, use.closes = true →
      (∀ number, (usage.step use).channels.isClosed number = true) ∧
      ∀ later, ∃ since,
        ((usage.step use).run later).history = (usage.step use).history ++ since ∧
        ∀ front number back, since = front ++ .used number :: back →
          .opened number limits ∈ front := by
  refine ⟨fun channel => supplied_run rfl (List.forall_mem_nil _) uses, ?_⟩
  intro usage
  have order : usage.channels.InOrder limits usage.history :=
    inOrder_run (Channels.inOrder_ofLimits limits) uses
  have turns := order.inTurn
  refine ⟨fun number => ⟨?_, order.isOpen_iff number⟩, ?_, ?_, ?_, ?_, ?_⟩
  · rw [order.isOpen_iff, turns.leftOpen_iff]
  · intro front event back whole number other isOpen otherOpen
    rw [whole] at turns
    obtain ⟨_, _, _, _, before, _⟩ := turns.exists_turn
    exact Option.some.inj ((before.leftOpen_iff.mp isOpen).symm.trans
      (before.leftOpen_iff.mp otherOpen))
  · intro front number given back whole
    rw [whole] at turns
    exact turns.of_opened
  · intro front number back whole
    rw [whole] at turns
    exact turns.leftOpen_of_turn (.inl rfl)
  · intro front number back whole
    rw [whole] at turns
    exact turns.leftOpen_of_turn (.inr rfl)
  · exact fun use closes => of_closes order closes

/-- A client whose transport opens its own channels. -/
def fresh : Usage := start (.str "p") "https://h.test" [] (.ofLimits (.all (.int 7))) ⟨[]⟩

/-- A call, two closings, and the call again. -/
def reopening (call : Call) : List Use := [.request call, .closeTransport, .close, .request call]

/-- The first closing closes the channel of the first call and the second one closes nothing;
the second call goes through a second channel. -/
theorem request_after_closing_reopens :
    let call : Call := { method := "GET", path := "/x" }
    let limits := TimeLimits.all (.int 7)
    (fresh.run (reopening call)).history =
        [.opened 0 limits, .used 0, .closed 0, .opened 1 limits, .used 1] ∧
      LeftOpen 1 [.opened 0 limits, .used 0, .closed 0, .opened 1 limits] ∧
      ∀ number, ((fresh.run [.request call]).step .closeTransport).channels.isClosed number := by
  intro call limits
  have history : (fresh.run (reopening call)).history =
      [.opened 0 limits, .used 0, .closed 0, .opened 1 limits] ++ .used 1 :: [] := by
    simp only [reopening, run, step, Use.run, Use.request_eq]
    rfl
  obtain ⟨_, _, _, _, used, _, _⟩ := channels_follow_ownership (.str "p") "https://h.test" []
    limits ⟨[]⟩ (reopening call)
  obtain ⟨_, _, _, _, _, _, closes⟩ := channels_follow_ownership (.str "p") "https://h.test" []
    limits ⟨[]⟩ [.request call]
  exact ⟨history, used _ 1 [] history, (closes .closeTransport rfl).1⟩

end Usage

end SamlAdmin
