import SamlAdmin.Proofs.Factory.Process

/-!
# After a failed call

The first call of a process fails, and its environment is put right.  Whether the next call
gives a client depends on how far the first one came.  Settings that are refused are not kept,
and the process is as if it had just started.  But settings with an unknown log level are kept
before the level is looked up: no environment is read after them, and every call fails as the
first one did, whatever happens in between.
-/

namespace SamlAdmin

namespace Process

variable {process after : Process} {event : Event} {first second environment : Environment}
  {fault : Factory.Fault} {client : Numbered Client}

def Event.gets : Event → Bool
  | .get => true
  | .environment _ | .close | .reset | .use _ _ _ => false

/-! ## Without a client -/

/-- A process that has made no client. -/
structure IsIdle (process : Process) : Prop where
  free : process.factory.client = none
  noClients : process.clients = []

theorem Moved.of_isIdle (moved : Moved process event after) (idle : process.IsIdle)
    (quiet : event.gets = false) :
    ∃ environment, after = { process with factory := { process.factory with environment } } := by
  cases moved with
  | changed environment => exact ⟨environment, rfl⟩
  | called _ => cases quiet
  | closed shared => cases shared.symm.trans idle.free
  | dropped _ =>
      refine ⟨process.factory.environment, ?_⟩
      rw [← idle.free]
  | unused => exact ⟨process.factory.environment, rfl⟩
  | used found =>
      rw [idle.noClients] at found
      cases found

theorem run_of_isIdle (idle : process.IsIdle) {events : List Event}
    (quiet : ∀ event ∈ events, event.gets = false) :
    ∃ environment, process.run events =
      { process with factory := { process.factory with environment } } := by
  refine run_of_moved (motive := fun later => ∃ environment, later =
      { process with factory := { process.factory with environment } })
    (fun moved quiet isChanged => ?_) quiet ⟨process.factory.environment, rfl⟩
  obtain ⟨changed, rfl⟩ := isChanged
  exact moved.of_isIdle ⟨idle.free, idle.noClients⟩ quiet

/-! ## Where the log level is unknown -/

/-- A process that keeps settings with an unknown log level, and has made no client. -/
structure IsStuck (name : Text) (process : Process) : Prop where
  idle : process.IsIdle
  kept : ∃ settings, process.factory.settings = some settings ∧
    settings.content.logLevel.upper = name
  unknown : LogThreshold.ofName? name = none

namespace IsStuck

variable {name : Text}

/-- A stuck process fails when it is asked for a client, and stays stuck. -/
theorem of_got {outcome : Except Factory.Fault (Numbered Client)} {factory : Factory}
    (stuck : process.IsStuck name) (got : process.factory.Got outcome factory) :
    outcome = .error (.unknownLevel name) ∧
      IsStuck name { factory, clients := process.clients ++ added process.factory outcome } := by
  obtain ⟨settings, kept, rfl⟩ := stuck.kept
  have atHand : process.factory.settingsAtHand = .ok settings.content := by
    rw [Factory.settingsAtHand, kept]
  -- Of the four ways a call ends, the settings at hand leave only the failure of their level.
  cases got with
  | kept shared => cases shared.symm.trans stuck.idle.free
  | refused _ failed => cases failed.symm.trans atHand
  | @unknownLevel read _ free isRead _ =>
      have same : read.content = settings.content := Except.ok.inj (isRead.symm.trans atHand)
      rw [same]
      exact ⟨rfl, ⟨free, by rw [added, stuck.idle.noClients]; rfl⟩, ⟨read, rfl, by rw [same]⟩,
        stuck.unknown⟩
  | made _ isRead known =>
      have same := Except.ok.inj (isRead.symm.trans atHand)
      rw [same, stuck.unknown] at known
      cases known

theorem moved (stuck : process.IsStuck name) (moved : Moved process event after) :
    after.IsStuck name := by
  cases moved with
  | called got => exact (stuck.of_got got).2
  | closed shared => cases shared.symm.trans stuck.idle.free
  | used found =>
      rw [stuck.idle.noClients] at found
      cases found
  | dropped _ => exact ⟨⟨rfl, stuck.idle.noClients⟩, stuck.kept, stuck.unknown⟩
  | _ => exact ⟨⟨stuck.idle.free, stuck.idle.noClients⟩, stuck.kept, stuck.unknown⟩

theorem run (stuck : process.IsStuck name) (events : List Event) :
    (process.run events).IsStuck name :=
  run_of_moved (fun moved _ stuck => stuck.moved moved) (fun _ _ => trivial) stuck

theorem get (stuck : process.IsStuck name) : process.get.1 = .error (.unknownLevel name) :=
  (stuck.of_got process.factory.got_getClient).1

end IsStuck

/-! ## The first call -/

theorem get_start (environment : Environment) :
    (start environment).get.1 = match Settings.load environment with
      | .error refused => .error (.settings refused)
      | .ok settings => match LogThreshold.ofName? settings.logLevel.upper with
        | none => .error (.unknownLevel settings.logLevel.upper)
        | some _ => .ok ⟨0, Factory.clientOf settings⟩ := by
  rw [get_eq, Factory.getClient, start, Factory.getSettings]
  cases Settings.load environment with
  | error refused => rfl
  | ok settings =>
      cases level : LogThreshold.ofName? settings.logLevel.upper with
      | none => simp only [level]
      | some threshold => simp only [level]

theorem step_get_of_error (failed : (start environment).get.1 = .error fault) :
    (∃ refused, Settings.load environment = .error refused ∧
      (start environment).step .get = start environment) ∨
    ∃ settings name, Settings.load environment = .ok settings ∧ fault = .unknownLevel name ∧
      ((start environment).step .get).IsStuck name := by
  have got := (start environment).factory.got_getClient
  rw [step, get_eq]
  rw [show (start environment).factory.getClient.1 = .error fault from failed] at got ⊢
  generalize (start environment).factory.getClient.2.2 = factory at got ⊢
  cases got with
  | @refused refused _ refusal => exact Or.inl ⟨refused, refusal, rfl⟩
  | @unknownLevel settings _ _ read unknown =>
      exact Or.inr ⟨settings.content, _, read, rfl, ⟨rfl, rfl⟩, ⟨settings, rfl, rfl⟩, unknown⟩

/-- The client that a first call makes is the one that the settings of the environment describe. -/
theorem exists_settings_of_get (made : (start environment).get.1 = .ok client) :
    ∃ settings, Settings.load environment = .ok settings ∧
      client.content = Factory.clientOf settings := by
  rw [get_start] at made
  cases read : Settings.load environment with
  | error refused =>
      simp only [read] at made
      cases made
  | ok settings =>
      refine ⟨settings, rfl, ?_⟩
      simp only [read] at made
      split at made
      · cases made
      · cases made
        rfl

/-- The first call fails under one environment, and another one, under which it would succeed,
takes its place.  Then the next call makes the client of that environment if and only if the
settings of the first one were refused: the process is then as if it had started with the other
environment.  Otherwise every later call fails as the first one did, whatever happens. -/
theorem failed_call_leaves_no_trace_iff {between : List Event}
    (failed : (start first).get.1 = .error fault)
    (succeeds : (start second).get.1 = .ok client)
    (quiet : ∀ event ∈ between, event.gets = false) :
    let failure := (start first).step .get
    let mended := failure.run (between ++ [.environment second])
    (mended.get.1 = .ok client ↔ ∃ refused, Settings.load first = .error refused) ∧
    (mended = start second ↔ ∃ refused, Settings.load first = .error refused) ∧
    ((¬ ∃ refused, Settings.load first = .error refused) →
      ∀ events, (failure.run events).get.1 = .error fault) ∧
    ∃ settings, Settings.load second = .ok settings ∧
      client.content = Factory.clientOf settings := by
  intro failure mended
  have configured := exists_settings_of_get succeeds
  rcases step_get_of_error failed with ⟨refused, refusal, same⟩ | ⟨settings, name, read, rfl, stuck⟩
  · have isRefused : ∃ refused, Settings.load first = .error refused := ⟨refused, refusal⟩
    have restarted : mended = start second := by
      obtain ⟨changed, ran⟩ := (start first).run_of_isIdle ⟨rfl, rfl⟩ quiet
      have isFailure : failure = start first := same
      simp only [mended, isFailure, run_append, ran]
      rfl
    rw [restarted]
    exact ⟨iff_of_true succeeds isRefused, iff_of_true rfl isRefused,
      fun notRefused => absurd isRefused notRefused, configured⟩
  · have notRefused : ¬ ∃ refused, Settings.load first = .error refused := by
      rintro ⟨refused, refusal⟩
      cases refusal.symm.trans read
    have fails (events : List Event) : (failure.run events).get.1 = .error (.unknownLevel name) :=
      (stuck.run events).get
    have mendedFails := fails (between ++ [.environment second])
    refine ⟨iff_of_false ?_ notRefused, iff_of_false ?_ notRefused, fun _ => fails, configured⟩
    · exact fun succeeded => nomatch mendedFails.symm.trans succeeded
    · intro restarted
      rw [← restarted] at succeeds
      cases mendedFails.symm.trans succeeds

def proper : Environment where
  process := [("SAML_CONFIG_PROJECT_ID", "p")]

def untimed : Environment where
  process := [("SAML_CONFIG_REQUEST_TIMEOUT_SECONDS", "soon")]

/-- An environment with a log level that there is not. -/
def unleveled : Environment where
  process := [("SAML_CONFIG_LOG_LEVEL", "BOGUS")]

/-- The timeout is forgotten with the environment that gave it, and the log level is not. -/
theorem unknown_level_outlives_environment :
    ((start untimed).step .get).run [.reset, .environment proper] = start proper ∧
      (((start unleveled).step .get).run [.reset, .environment proper]).get.1 =
        .error (.unknownLevel "BOGUS") := by
  have succeeds : (start proper).get.1 = .ok ⟨0, Factory.clientOf { projectId := some "p" }⟩ := by
    have read : Settings.load proper = .ok { projectId := some "p" } := rfl
    rw [get_start, read]
    rfl
  have quiet : ∀ event ∈ [Event.reset], event.gets = false := by
    intro event member
    rw [List.mem_singleton.mp member]
    rfl
  constructor
  · obtain ⟨refused, refusal⟩ : ∃ refused, Settings.load untimed = .error refused := ⟨_, rfl⟩
    have failed : (start untimed).get.1 = .error (.settings refused) := by
      rw [get_start, refusal]
    exact (failed_call_leaves_no_trace_iff failed succeeds quiet).2.1.mpr ⟨refused, refusal⟩
  · have read : Settings.load unleveled = .ok { logLevel := "BOGUS" } := rfl
    have failed : (start unleveled).get.1 = .error (.unknownLevel "BOGUS") := by
      rw [get_start, read]
      rfl
    refine (failed_call_leaves_no_trace_iff failed succeeds quiet).2.2.1 ?_ _
    rintro ⟨refused, refusal⟩
    cases refusal.symm.trans read

end Process

end SamlAdmin
