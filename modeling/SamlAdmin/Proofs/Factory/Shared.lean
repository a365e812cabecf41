import SamlAdmin.Proofs.Factory.Process

/-!
# One client for the whole process

Between two calls of a process that drop it, the shared client is one and the same, and every
client that is made is configured by the settings that could be loaded first, whatever becomes
of the environment.  What the factory keeps, the clients that it made and their channels are
tied together by one invariant, `Coherent`: the client that is shared is one of those that were
made, and each of these has the settings that are kept and opens its channels in turn.
-/

namespace SamlAdmin

/-- A client of the project, the endpoint, the version and the time limits of some settings. -/
structure Client.IsConfiguredBy (settings : Settings) (client : Client) : Prop where
  projectId : client.projectId = (settings.projectId.map Value.str).getD .null
  endpoint : client.transport.endpoint = Text.dropEndWhile (· = .char '/') settings.endpoint
  headers : client.transport.headers = Client.versionHeaders settings.clientVersion
  limits : client.transport.channels.limits = .all (.float settings.requestTimeout)

/-- A client that was made from settings, however it was used since. -/
structure Client.MadeFrom (settings : Settings) (client : Client) : Prop where
  configured : client.IsConfiguredBy settings
  inOrder : ∃ history,
    client.transport.channels.InOrder (.all (.float settings.requestTimeout)) history

namespace Client.MadeFrom

variable {settings : Settings} {client : Client}

theorem clientOf (settings : Settings) : (Factory.clientOf settings).MadeFrom settings where
  configured := ⟨rfl, rfl, rfl, rfl⟩
  inOrder := ⟨[], Channels.inOrder_ofLimits _⟩

theorem run (made : client.MadeFrom settings) (use : Use) (server : Server) :
    (use.run client server).1.MadeFrom settings := by
  obtain ⟨history, order⟩ := made.inOrder
  obtain ⟨step, keeps⟩ := use.step_run client server
  have orderAfter := order.step step
  refine ⟨⟨?_, ?_, ?_, orderAfter.sameLimits⟩, _, orderAfter⟩
  · rw [keeps.projectId, made.configured.projectId]
  · rw [keeps.endpoint, made.configured.endpoint]
  · rw [keeps.headers, made.configured.headers]

theorem close (made : client.MadeFrom settings) : client.close.2.MadeFrom settings :=
  made.run .close ⟨[]⟩

theorem isClosed_close (made : client.MadeFrom settings) (number : Nat) :
    client.close.2.transport.channels.isClosed number = true := by
  obtain ⟨history, order⟩ := made.inOrder
  exact order.close.1.isClosed_of_none order.close.2 number

end Client.MadeFrom

namespace Process

variable {process after : Process} {event : Event} {events : List Event} {factory : Factory}
  {outcome : Except Factory.Fault (Numbered Client)} {number : Nat} {client : Client}
  {first second : Numbered Client}

/-! ## The invariant -/

/-- The clients are numbered in the order in which they were made, the one that is shared is
one of them, and all of them were made from the settings that are kept. -/
structure Coherent (process : Process) : Prop where
  count : process.factory.clientsMade = process.clients.length
  shared : ∀ client, process.factory.client = some client →
    process.clients[client.number]? = some client.content
  made : ∀ client ∈ process.clients, ∃ settings,
    process.factory.settings.map Numbered.content = some settings ∧ client.MadeFrom settings

theorem coherent_start (environment : Environment) : (start environment).Coherent where
  count := rfl
  shared := nofun
  made := nofun

namespace Coherent

theorem knowsSettings (coherent : process.Coherent) : process.factory.KnowsSettings := by
  intro isShared isUnknown
  obtain ⟨client, shared⟩ := Option.ne_none_iff_exists'.mp isShared
  obtain ⟨settings, kept, _⟩ := coherent.made client.content
    (List.mem_of_getElem? (coherent.shared client shared))
  rw [isUnknown] at kept
  cases kept

theorem number_lt (coherent : process.Coherent) (shared : process.factory.client = some first) :
    first.number < process.factory.clientsMade := by
  rw [coherent.count]
  exact (List.getElem?_eq_some_iff.mp (coherent.shared first shared)).1

/-- A client that changes in its place leaves the others coherent. -/
theorem made_set (coherent : process.Coherent) {changed : Client}
    (isMade : ∀ settings, client.MadeFrom settings → changed.MadeFrom settings)
    (found : process.clients[number]? = some client) :
    ∀ other ∈ process.clients.set number changed, ∃ settings,
      process.factory.settings.map Numbered.content = some settings ∧ other.MadeFrom settings := by
  intro other member
  rcases List.mem_or_eq_of_mem_set member with before | same
  · exact coherent.made other before
  · obtain ⟨settings, kept, made⟩ := coherent.made client (List.mem_of_getElem? found)
    rw [same]
    exact ⟨settings, kept, isMade settings made⟩

theorem called (coherent : process.Coherent) (got : process.factory.Got outcome factory) :
    Coherent { factory, clients := process.clients ++ added process.factory outcome } := by
  have knows := coherent.knowsSettings
  have kept : ∀ client ∈ process.clients, ∃ settings,
      factory.settings.map Numbered.content = some settings ∧ client.MadeFrom settings := by
    intro client member
    obtain ⟨settings, kept, made⟩ := coherent.made client member
    refine ⟨settings, ?_, made⟩
    rw [got.settings_eq knows, Factory.toOption_settingsAtHand, kept, Option.some_or]
  cases got with
  | kept shared =>
      simp only [added, shared, Option.isSome_some, if_true, List.append_nil]
      exact ⟨coherent.count, coherent.shared, kept⟩
  | refused _ _ =>
      simp only [added, List.append_nil]
      exact ⟨coherent.count, coherent.shared, kept⟩
  | unknownLevel _ _ _ =>
      simp only [added, List.append_nil]
      exact ⟨coherent.count, coherent.shared, kept⟩
  | @made settings _ _ free _ _ =>
      simp only [added, free, Option.isSome_none, Bool.false_eq_true, if_false]
      refine ⟨?_, ?_, ?_⟩
      · rw [List.length_append, coherent.count, List.length_singleton]
      · rintro _ ⟨⟩
        rw [coherent.count]
        exact List.getElem?_concat_length
      · intro client member
        rcases List.mem_append.mp member with earlier | last
        · exact kept client earlier
        · rw [List.mem_singleton.mp last]
          exact ⟨settings.content, rfl, .clientOf _⟩

theorem moved (coherent : process.Coherent) (moved : Moved process event after) :
    after.Coherent := by
  cases moved with
  | changed environment => exact ⟨coherent.count, coherent.shared, coherent.made⟩
  | called got => exact coherent.called got
  | closed shared =>
      refine ⟨?_, nofun, ?_⟩
      · rw [List.length_set]
        exact coherent.count
      · exact coherent.made_set (fun _ made => made.close) (coherent.shared _ shared)
  | dropped _ => exact ⟨coherent.count, nofun, coherent.made⟩
  | unused => exact coherent
  | @used number use server client found =>
      refine ⟨?_, ?_, ?_⟩
      · rw [List.length_set]
        exact coherent.count
      · intro renewedClient isRenewed
        obtain ⟨shared, isShared, rfl⟩ := Option.map_eq_some_iff.mp isRenewed
        rw [renewed_number]
        by_cases same : shared.number = number
        · have length := (List.getElem?_eq_some_iff.mp found).1
          rw [renewed, if_pos same, same, List.getElem?_set_self length]
        · rw [renewed, if_neg same, List.getElem?_set_ne (Ne.symm same)]
          exact coherent.shared shared isShared
      · exact coherent.made_set (fun _ made => made.run use server) found

theorem step (coherent : process.Coherent) (event : Event) : (process.step event).Coherent :=
  coherent.moved (process.moved_step event)

theorem run (coherent : process.Coherent) (events : List Event) :
    (process.run events).Coherent :=
  run_of_moved (fun moved _ coherent => coherent.moved moved) (fun _ _ => trivial) coherent

/-- To use the client that a call gives, so that it opens a channel, is what the factory does
when it is touched. -/
theorem factory_acquire (coherent : process.Coherent) (given : process.get.1 = .ok first)
    (server : Server) :
    (process.get.2.use first.number .acquire server).factory = process.factory.touch.2.2 := by
  have shared := shared_of_get given
  have found : process.get.2.clients[first.number]? = some first.content :=
    (coherent.step .get).shared first shared
  rw [Process.use, found]
  simp only [shared, Option.map_some, renewed, if_true]
  rw [get_eq] at given ⊢
  rw [Factory.touch]
  generalize process.factory.getClient = called at given ⊢
  obtain ⟨outcome, log, factory⟩ := called
  cases given
  rfl

end Coherent

/-! ## The settings -/

/-- The settings of the environment as it stands at the first call under which they can be
loaded. -/
def firstLoaded (environment : Environment) : List Event → Option Settings
  | [] => none
  | .environment changed :: events => firstLoaded changed events
  | .get :: events => (Settings.load environment).toOption.or (firstLoaded environment events)
  | .close :: events | .reset :: events | .use _ _ _ :: events => firstLoaded environment events

/-- Only a call of the factory keeps settings, and only a change of the environment changes
that. -/
theorem Moved.settings (moved : Moved process event after) (knows : process.factory.KnowsSettings)
    (events : List Event) :
    (after.factory.settings.map Numbered.content).or
        (firstLoaded after.factory.environment events) =
      (process.factory.settings.map Numbered.content).or
        (firstLoaded process.factory.environment (event :: events)) := by
  cases moved with
  | called got =>
      rw [got.settings_eq knows, got.environment_eq, Factory.toOption_settingsAtHand,
        Option.or_assoc, firstLoaded]
  | dropped drops =>
      cases event with
      | close => rfl
      | reset => rfl
      | _ => cases drops
  | _ => rfl

/-- A process keeps the settings that it has, or else those that can be loaded first. -/
theorem Coherent.settings_run (coherent : process.Coherent) (events : List Event) :
    (Process.run process events).factory.settings.map Numbered.content =
      (process.factory.settings.map Numbered.content).or
        (firstLoaded process.factory.environment events) := by
  -- `Coherent` is carried along for its `knowsSettings`: a call that finds a shared client reads
  -- no environment, and leaves the settings as `firstLoaded` has them only if they are kept.
  induction events generalizing process with
  | nil => exact (Option.or_none).symm
  | cons event events ih =>
      rw [Process.run, ih (coherent.step event)]
      exact (process.moved_step event).settings coherent.knowsSettings events

/-! ## The client that is shared -/

/-- A client that was made and is not shared any more. -/
structure Dropped (number : Nat) (process : Process) : Prop where
  number_lt : number < process.factory.clientsMade
  notShared : ∀ client, process.factory.client = some client → client.number ≠ number

namespace Moved

/-- A client that is shared stays so until it is dropped. -/
theorem shared (moved : Moved process event after) (stays : event.drops = false)
    (shared : process.factory.client = some first) :
    ∃ client, after.factory.client = some client ∧ client.number = first.number := by
  cases moved with
  | changed environment => exact ⟨first, shared, rfl⟩
  | called got =>
      cases got with
      | kept _ => exact ⟨first, shared, rfl⟩
      | refused free _ => cases shared.symm.trans free
      | unknownLevel free _ _ => cases shared.symm.trans free
      | made free _ _ => cases shared.symm.trans free
  | closed _ => cases stays
  | dropped drops => cases stays.symm.trans drops
  | unused => exact ⟨first, shared, rfl⟩
  | used _ => exact ⟨_, by rw [shared, Option.map_some], renewed_number _ _ _⟩

/-- An event that drops leaves no client that is shared. -/
theorem free (moved : Moved process event after) (drops : event.drops = true) :
    after.factory.client = none := by
  cases moved with
  | closed _ => rfl
  | dropped _ => rfl
  | _ => cases drops

/-- A client that was dropped is not shared again, for the next one has another number. -/
theorem isDropped (moved : Moved process event after) (dropped : Dropped number process) :
    Dropped number after := by
  refine ⟨Nat.lt_of_lt_of_le dropped.number_lt moved.clientsMade_le, ?_⟩
  cases moved with
  | called got =>
      cases got with
      | made _ _ _ =>
          rintro _ ⟨⟩
          exact Nat.ne_of_gt dropped.number_lt
      | _ => exact dropped.notShared
  | closed _ => exact nofun
  | dropped _ => exact nofun
  | used _ =>
      intro renewedClient isRenewed
      obtain ⟨client, isShared, rfl⟩ := Option.map_eq_some_iff.mp isRenewed
      rw [renewed_number]
      exact dropped.notShared client isShared
  | _ => exact dropped.notShared

theorem isDropped_of_drops (moved : Moved process event after) (drops : event.drops = true)
    (made : number < process.factory.clientsMade) : Dropped number after where
  number_lt := Nat.lt_of_lt_of_le made moved.clientsMade_le
  notShared := by
    rw [moved.free drops]
    exact nofun

theorem getElem?_clients (moved : Moved process event after) (unused : event.uses number = false)
    (dropped : Dropped number process) (found : process.clients[number]? = some client) :
    after.clients[number]? = some client := by
  have isPlace := (List.getElem?_eq_some_iff.mp found).1
  cases moved with
  | called got => rw [List.getElem?_append_left isPlace, found]
  | closed shared => rw [List.getElem?_set_ne (dropped.notShared _ shared), found]
  | used _ => rw [List.getElem?_set_ne (of_decide_eq_false unused), found]
  | _ => exact found

end Moved

theorem shared_run (shared : process.factory.client = some first)
    (stays : ∀ event ∈ events, event.drops = false) :
    ∃ client, (process.run events).factory.client = some client ∧
      client.number = first.number := by
  refine run_of_moved (motive := fun later => ∃ client, later.factory.client = some client ∧
    client.number = first.number) (fun moved stays isShared => ?_) stays ⟨first, shared, rfl⟩
  obtain ⟨client, shared, same⟩ := isShared
  obtain ⟨later, sharedLater, sameLater⟩ := moved.shared stays shared
  exact ⟨later, sharedLater, sameLater.trans same⟩

theorem Dropped.run (dropped : Dropped number process) (events : List Event) :
    Dropped number (process.run events) :=
  run_of_moved (fun moved _ dropped => moved.isDropped dropped) (fun _ _ => trivial) dropped

/-- A client that is neither shared nor used stays as it is, whatever else happens. -/
theorem Dropped.getElem?_clients_run (dropped : Dropped number process)
    (unused : ∀ event ∈ events, event.uses number = false)
    (found : process.clients[number]? = some client) :
    (process.run events).clients[number]? = some client := by
  have both := run_of_moved
    (motive := fun later => Dropped number later ∧ later.clients[number]? = some client)
    (fun moved unused both =>
      ⟨moved.isDropped both.1, moved.getElem?_clients unused both.1 both.2⟩)
    unused ⟨dropped, found⟩
  exact both.2

/-- Two calls give the same client if and only if nothing between them drops it. -/
theorem Coherent.same_client_iff (coherent : process.Coherent) {between : List Event}
    (isFirst : process.get.1 = .ok first)
    (isSecond : (Process.run process.get.2 between).get.1 = .ok second) :
    first.number = second.number ↔ ∀ event ∈ between, event.drops = false := by
  have shared := shared_of_get isFirst
  constructor
  · intro same event member
    refine eq_false_of_ne_true fun drops => ?_
    obtain ⟨front, back, rfl⟩ := List.append_of_mem member
    have made : first.number < (Process.run process.get.2 front).factory.clientsMade :=
      Nat.lt_of_lt_of_le ((coherent.step .get).number_lt shared) (clientsMade_run_le _ front)
    have dropped := (moved_step _ event).isDropped_of_drops drops made
    rw [run_append] at isSecond
    -- The second call may be the one that makes a client, so it counts as an event here.
    have later := (moved_step _ .get).isDropped (dropped.run back)
    exact later.notShared second (shared_of_get isSecond) same.symm
  · intro stays
    obtain ⟨client, isShared, same⟩ := shared_run shared stays
    rw [get_of_shared isShared] at isSecond
    cases isSecond
    exact same.symm

/-- A client that is closed has no open channel until it is used again. -/
theorem Coherent.closed_until_used (coherent : process.Coherent)
    (shared : process.factory.client = some first) {later : List Event}
    (unused : ∀ event ∈ later, event.uses first.number = false) :
    ∃ client, (Process.run (process.step .close) later).clients[first.number]? = some client ∧
      ∀ number, client.transport.channels.isClosed number = true := by
  have place := coherent.shared first shared
  have made := coherent.number_lt shared
  obtain ⟨_, _, isMade⟩ := coherent.made first.content (List.mem_of_getElem? place)
  have dropped := (process.moved_step .close).isDropped_of_drops rfl made
  have found : (process.step .close).clients[first.number]? = some first.content.close.2 := by
    rw [Process.step, Process.close, shared]
    exact List.getElem?_set_self (List.getElem?_eq_some_iff.mp place).1
  exact ⟨_, dropped.getElem?_clients_run unused found, isMade.isClosed_close⟩

/-- Whatever happens to a process, the client that its factory gives is among those that were
made.  Two calls give the same one if and only if no closing or reset lies between them.  Every
client is configured by the settings of the environment as it stood at the first call under
which they could be loaded.  And a client that is closed has no open channel until it is used
again. -/
theorem one_client_until_dropped (environment : Environment) (events : List Event) :
    let process := (start environment).run events
    (∀ client, process.get.1 = .ok client →
      process.get.2.clients[client.number]? = some client.content) ∧
    (∀ between first second, process.get.1 = .ok first →
      (process.get.2.run between).get.1 = .ok second →
      (first.number = second.number ↔ ∀ event ∈ between, event.drops = false)) ∧
    (∀ client ∈ process.clients, ∃ settings,
      firstLoaded environment events = some settings ∧ client.IsConfiguredBy settings) ∧
    ∀ shared later, process.factory.client = some shared →
      (∀ event ∈ later, event.uses shared.number = false) →
      ∃ client, ((process.step .close).run later).clients[shared.number]? = some client ∧
        ∀ number, client.transport.channels.isClosed number = true := by
  intro process
  have coherent : process.Coherent := (coherent_start environment).run events
  refine ⟨?_, ?_, ?_, ?_⟩
  · intro client given
    exact (coherent.step .get).shared client (shared_of_get given)
  · intro between first second isFirst isSecond
    exact coherent.same_client_iff isFirst isSecond
  · intro client member
    obtain ⟨settings, kept, made⟩ := coherent.made client member
    refine ⟨settings, ?_, made.configured⟩
    rw [← kept]
    exact ((coherent_start environment).settings_run events).symm
  · intro shared later isShared unused
    exact coherent.closed_until_used isShared unused

/-- A process whose client is in use, and whose environment does not name the project any more. -/
def inUse : Process :=
  (start { process := [("SAML_CONFIG_PROJECT_ID", "p")] }).run
    [.get, .use 0 .acquire ⟨[]⟩, .environment {}]

/-- Once its client is closed the process makes another one, of the same project, and the channel
that was open is closed from then on. -/
theorem closed_client_is_replaced :
    ∃ first second, inUse.get.1 = .ok first ∧ (inUse.get.2.run [.close]).get.1 = .ok second ∧
      first.number ≠ second.number ∧ second.content.projectId = .str "p" ∧
      first.content.transport.channels.isClosed 0 = false ∧
      ∃ client, ((inUse.step .close).run [.get]).clients[first.number]? = some client ∧
        ∀ number, client.transport.channels.isClosed number = true := by
  obtain ⟨_, same, _, closed⟩ := one_client_until_dropped
    { process := [("SAML_CONFIG_PROJECT_ID", "p")] } [.get, .use 0 .acquire ⟨[]⟩, .environment {}]
  obtain ⟨first, isFirst, shared, isOpen⟩ : ∃ first, inUse.get.1 = .ok first ∧
      inUse.factory.client = some first ∧
      first.content.transport.channels.isClosed 0 = false := ⟨_, rfl, rfl, rfl⟩
  obtain ⟨second, isSecond, project⟩ : ∃ second,
      (inUse.get.2.run [.close]).get.1 = .ok second ∧ second.content.projectId = .str "p" :=
    ⟨_, rfl, rfl⟩
  refine ⟨first, second, isFirst, isSecond, fun equal => ?_, project, isOpen, ?_⟩
  · cases (same [.close] first second isFirst isSecond).mp equal .close List.mem_cons_self
  · refine closed first [.get] shared fun event member => ?_
    rw [List.mem_singleton.mp member]
    rfl

end Process

end SamlAdmin
