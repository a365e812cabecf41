import SamlAdmin.Factory
import SamlAdmin.Proofs.Client.Ownership

/-!
# A process with a shared client

A process calls its factory, its environment changes, and it uses the clients that it was given,
also those that the factory has dropped since.  `Process` keeps them all: a client that is used
changes in both places, in the factory and among the clients that were made.

What a call of the factory can do is said once, by `Factory.Got`: it gives the client that is
shared, or it fails for the settings or for their log level, or it makes a client.  The
settings are those that are kept, or else those of the environment; where the log level is what
fails, they are kept all the same.
-/

namespace SamlAdmin

namespace Factory

variable {factory after : Factory} {outcome : Except Fault (Numbered Client)}

/-- The settings for the next client: those that are kept, or else those of the environment. -/
def settingsAtHand (factory : Factory) : Except Refused Settings :=
  match factory.settings with
  | some settings => .ok settings.content
  | none => Settings.load factory.environment

/-- What a call of the factory gives, and what it leaves. -/
inductive Got (factory : Factory) : Except Fault (Numbered Client) → Factory → Prop where
  | kept {client : Numbered Client} (shared : factory.client = some client) :
      Got factory (.ok client) factory
  | refused {refused : Refused} (free : factory.client = none)
      (failed : factory.settingsAtHand = .error refused) :
      Got factory (.error (.settings refused)) factory
  | unknownLevel {settings : Numbered Settings} {settingsMade : Nat}
      (free : factory.client = none) (read : factory.settingsAtHand = .ok settings.content)
      (unknown : LogThreshold.ofName? settings.content.logLevel.upper = none) :
      Got factory (.error (.unknownLevel settings.content.logLevel.upper))
        { factory with settings := some settings, settingsMade }
  | made {settings : Numbered Settings} {settingsMade : Nat} {threshold : LogThreshold}
      (free : factory.client = none) (read : factory.settingsAtHand = .ok settings.content)
      (known : LogThreshold.ofName? settings.content.logLevel.upper = some threshold) :
      Got factory (.ok ⟨factory.clientsMade, clientOf settings.content⟩)
        { factory with
          settings := some settings
          settingsMade
          threshold
          client := some ⟨factory.clientsMade, clientOf settings.content⟩
          clientsMade := factory.clientsMade + 1 }

/-- Settings that can be had are kept from then on, and others leave no trace. -/
theorem getSettings_cases (factory : Factory) :
    (∃ refused, factory.settingsAtHand = .error refused ∧
      factory.getSettings = (.error (.settings refused), factory)) ∨
    ∃ settings settingsMade, factory.settingsAtHand = .ok settings.content ∧
      factory.getSettings =
        (.ok settings, { factory with settings := some settings, settingsMade }) := by
  cases kept : factory.settings with
  | some settings =>
      have unchanged : { factory with settings := some settings } = factory := by rw [← kept]
      refine Or.inr ⟨settings, factory.settingsMade, ?_, ?_⟩
      · rw [settingsAtHand, kept]
      · rw [unchanged]
        simp only [getSettings, kept]
  | none =>
      cases loaded : Settings.load factory.environment with
      | error refused =>
          refine Or.inl ⟨refused, ?_, ?_⟩
          · rw [settingsAtHand, kept]
            exact loaded
          · simp only [getSettings, kept, loaded]
      | ok content =>
          refine Or.inr ⟨⟨factory.settingsMade, content⟩, factory.settingsMade + 1, ?_, ?_⟩
          · rw [settingsAtHand, kept]
            exact loaded
          · simp only [getSettings, kept, loaded]

theorem got_getClient (factory : Factory) :
    Got factory factory.getClient.1 factory.getClient.2.2 := by
  cases shared : factory.client with
  | some client =>
      rw [getClient, shared]
      exact .kept shared
  | none =>
      rcases factory.getSettings_cases with
        ⟨refused, failed, same⟩ | ⟨settings, settingsMade, read, same⟩
      · simp only [getClient, shared, same]
        exact .refused shared failed
      · cases level : LogThreshold.ofName? settings.content.logLevel.upper with
        | none =>
            have got : factory.getClient =
                (.error (.unknownLevel settings.content.logLevel.upper), [],
                  { factory with settings := some settings, settingsMade }) := by
              simp only [getClient, shared, same, level]
            rw [got]
            exact .unknownLevel shared read level
        | some threshold =>
            have got : factory.getClient =
                (.ok ⟨factory.clientsMade, clientOf settings.content⟩,
                  threshold.passing (announcement settings.content),
                  { factory with
                    settings := some settings
                    settingsMade
                    threshold
                    client := some ⟨factory.clientsMade, clientOf settings.content⟩
                    clientsMade := factory.clientsMade + 1 }) := by
              simp only [getClient, shared, same, level]
            rw [got]
            exact .made shared read level

/-- Where a client is shared, the settings that it was made from are kept. -/
def KnowsSettings (factory : Factory) : Prop :=
  factory.client ≠ none → factory.settings ≠ none

theorem toOption_settingsAtHand (factory : Factory) :
    factory.settingsAtHand.toOption =
      (factory.settings.map Numbered.content).or (Settings.load factory.environment).toOption := by
  rw [settingsAtHand]
  cases factory.settings with
  | none => rfl
  | some settings => rfl

namespace Got

theorem environment_eq (got : Got factory outcome after) :
    after.environment = factory.environment := by
  cases got with
  | _ => rfl

theorem clientsMade_le (got : Got factory outcome after) :
    factory.clientsMade ≤ after.clientsMade := by
  cases got with
  | made _ _ _ => exact Nat.le_add_right _ _
  | _ => exact Nat.le_refl _

theorem settings_eq (got : Got factory outcome after) (knows : factory.KnowsSettings) :
    after.settings.map Numbered.content = factory.settingsAtHand.toOption := by
  cases got with
  | kept shared =>
      rw [toOption_settingsAtHand]
      cases kept : factory.settings with
      | none => exact absurd kept (knows (by rw [shared]; exact nofun))
      | some settings => rfl
  | refused free failed =>
      rw [failed]
      cases kept : factory.settings with
      | none => rfl
      | some settings =>
          rw [settingsAtHand, kept] at failed
          cases failed
  | unknownLevel _ read _ => rw [read]; rfl
  | made _ read _ => rw [read]; rfl

theorem shared_of_ok {client : Numbered Client} (got : Got factory (.ok client) after) :
    after.client = some client := by
  cases got with
  | kept shared => exact shared
  | made _ _ _ => rfl

end Got

end Factory

/-! ## Events -/

/-- A process: what its factory keeps, and the clients that the factory made, each under its
number and as it is now. -/
structure Process where
  factory : Factory
  clients : List Client := []

namespace Process

/-- What happens to a process. -/
inductive Event where
  | environment (environment : Environment)
  | get
  | close
  | reset
  | use (number : Nat) (use : Use) (server : Server)

/-- Whether an event drops the client that is shared. -/
def Event.drops : Event → Bool
  | .close | .reset => true
  | .environment _ | .get | .use _ _ _ => false

/-- Whether an event uses the client with a given number. -/
def Event.uses (number : Nat) : Event → Bool
  | .use other _ _ => other = number
  | .environment _ | .get | .close | .reset => false

def start (environment : Environment) : Process where
  factory := { environment }

/-- The clients that a call of the factory adds. -/
def added (factory : Factory) : Except Factory.Fault (Numbered Client) → List Client
  | .ok client => if factory.client.isSome then [] else [client.content]
  | .error _ => []

/-- Ask the factory for a client. -/
def get (process : Process) : Except Factory.Fault (Numbered Client) × Process :=
  let (outcome, _, factory) := process.factory.getClient
  (outcome, { factory, clients := process.clients ++ added process.factory outcome })

theorem get_eq (process : Process) :
    process.get = (process.factory.getClient.1,
      { factory := process.factory.getClient.2.2
        clients := process.clients ++ added process.factory process.factory.getClient.1 }) := rfl

theorem get_of_shared {process : Process} {client : Numbered Client}
    (shared : process.factory.client = some client) : process.get.1 = .ok client := by
  rw [get_eq, Factory.getClient, shared]

theorem shared_of_get {process : Process} {client : Numbered Client}
    (given : process.get.1 = .ok client) : process.get.2.factory.client = some client := by
  have got := process.factory.got_getClient
  rw [show process.factory.getClient.1 = .ok client from given] at got
  exact got.shared_of_ok

/-- Close the client that is shared, if there is one, and drop it. -/
def close (process : Process) : Process where
  factory := process.factory.close.2
  clients := match process.factory.client with
    | some client => process.clients.set client.number client.content.close.2
    | none => process.clients

/-- The shared client as it is once the client with a given number has been used. -/
def renewed (number : Nat) (used : Client) (shared : Numbered Client) : Numbered Client :=
  if shared.number = number then { shared with content := used } else shared

theorem renewed_number (number : Nat) (used : Client) (shared : Numbered Client) :
    (renewed number used shared).number = shared.number := by
  rw [renewed]
  split
  · rfl
  · rfl

/-- Use the client with a given number, if it was made. -/
def use (number : Nat) (use : Use) (server : Server) (process : Process) : Process :=
  match process.clients[number]? with
  | none => process
  | some client =>
    let used := (use.run client server).1
    { factory := { process.factory with client := process.factory.client.map (renewed number used) }
      clients := process.clients.set number used }

/-- One event. -/
def step (process : Process) : Event → Process
  | .environment environment => { process with factory := { process.factory with environment } }
  | .get => process.get.2
  | .close => process.close
  | .reset => { process with factory := process.factory.reset }
  | .use number use server => process.use number use server

def run (process : Process) : List Event → Process
  | [] => process
  | event :: events => run (process.step event) events

theorem run_append (process : Process) (before after : List Event) :
    process.run (before ++ after) = (process.run before).run after := by
  induction before generalizing process with
  | nil => rfl
  | cons event before ih => exact ih (process.step event)

/-! ## What an event makes of a process -/

/-- What an event makes of a process.  A client that is closed or used changes among the clients,
and it keeps its number in the factory. -/
inductive Moved (process : Process) : Event → Process → Prop where
  | changed (environment : Environment) :
      Moved process (.environment environment)
        { process with factory := { process.factory with environment } }
  | called {outcome : Except Factory.Fault (Numbered Client)} {after : Factory}
      (got : process.factory.Got outcome after) :
      Moved process .get
        { factory := after, clients := process.clients ++ added process.factory outcome }
  | closed {client : Numbered Client} (shared : process.factory.client = some client) :
      Moved process .close
        { factory := { process.factory with client := none }
          clients := process.clients.set client.number client.content.close.2 }
  | dropped {event : Event} (drops : event.drops = true) :
      Moved process event { process with factory := { process.factory with client := none } }
  | unused {number : Nat} {use : Use} {server : Server} :
      Moved process (.use number use server) process
  | used {number : Nat} {use : Use} {server : Server} {client : Client}
      (found : process.clients[number]? = some client) :
      Moved process (.use number use server)
        { factory := { process.factory with
            client := process.factory.client.map (renewed number (use.run client server).1) }
          clients := process.clients.set number (use.run client server).1 }

theorem moved_step (process : Process) (event : Event) :
    Moved process event (process.step event) := by
  cases event with
  | environment environment => exact .changed environment
  | get => exact .called process.factory.got_getClient
  | close =>
      rw [step, close, Factory.close]
      cases shared : process.factory.client with
      | none =>
          have unchanged : process = { process with
              factory := { process.factory with client := none } } := by rw [← shared]
          rw [unchanged]
          exact .dropped rfl
      | some client => exact .closed shared
  | reset => exact .dropped rfl
  | use number use server =>
      rw [step, Process.use]
      cases found : process.clients[number]? with
      | none => exact .unused
      | some client => exact .used found

/-- What holds of a process and stays so under each event of a kind holds after a run of them. -/
theorem run_of_moved {motive : Process → Prop} {allowed : Event → Prop}
    (preserved : ∀ {process after : Process} {event : Event},
      Moved process event after → allowed event → motive process → motive after)
    {process : Process} {events : List Event} (areAllowed : ∀ event ∈ events, allowed event)
    (holds : motive process) : motive (process.run events) := by
  induction events generalizing process with
  | nil => exact holds
  | cons event events ih =>
      have isAllowed := areAllowed event List.mem_cons_self
      exact ih (fun event member => areAllowed event (List.mem_cons_of_mem _ member))
        (preserved (process.moved_step event) isAllowed holds)

namespace Moved

variable {process after : Process} {event : Event}

theorem clientsMade_le (moved : Moved process event after) :
    process.factory.clientsMade ≤ after.factory.clientsMade := by
  cases moved with
  | called got => exact got.clientsMade_le
  | _ => exact Nat.le_refl _

end Moved

theorem clientsMade_run_le (process : Process) (events : List Event) :
    process.factory.clientsMade ≤ (process.run events).factory.clientsMade :=
  run_of_moved (motive := fun later => process.factory.clientsMade ≤ later.factory.clientsMade)
    (fun moved _ earlier => Nat.le_trans earlier moved.clientsMade_le) (fun _ _ => trivial)
    (Nat.le_refl _)

end Process

end SamlAdmin
