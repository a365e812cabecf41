import SamlAdmin.Proofs.Transport.Call

/-!
# Closing while requests go out

Several tasks may share a transport.  A request takes its channel in one step and waits for
its answer.  A closing takes two steps: the channel that is held is closed, and when that is
done, whatever is held then is let go.  `Traffic` is what the tasks of one transport are
about, and a run is any order of their steps.

As long as one closing is done before the next one begins, every channel is closed or held.
Where closings overlap, the later one finds its channel closed and is done at once, a request
may then open another channel, and the earlier closing lets go of this one, which is open and
which nobody closes any more.  These are the only runs that lose a channel.
-/

namespace SamlAdmin

namespace Channels

variable {channels : Channels} {number other : Nat}

/-- Whether every channel is closed or held. -/
def Kept (channels : Channels) : Prop :=
  ∀ number, channels.isClosed number = false → channels.held = some number

/-- Whether a channel is open and not held. -/
def Lost (number : Nat) (channels : Channels) : Prop :=
  channels.isClosed number = false ∧ channels.held ≠ some number

theorem not_kept_of_lost (lost : channels.Lost number) : ¬ channels.Kept :=
  fun kept => lost.2 (kept number lost.1)

theorem exists_lost_of_not_kept (notKept : ¬ channels.Kept) : ∃ number, channels.Lost number := by
  simpa only [Kept, Lost, Classical.not_forall, exists_prop] using notKept

theorem lt_of_isOpen (isOpen : channels.isClosed number = false) :
    number < channels.known.length := by
  refine Nat.lt_of_not_le fun unknown => ?_
  rw [isClosed, List.getElem?_eq_none unknown] at isOpen
  cases isOpen

theorem isClosed_shut_self (number : Nat) (channels : Channels) :
    (channels.shut number).isClosed number = true := by
  simp only [isClosed, shut, List.getElem?_modify_eq]
  cases channels.known[number]? with
  | none => rfl
  | some channel => rfl

theorem isClosed_shut_of_ne (different : other ≠ number) (channels : Channels) :
    (channels.shut number).isClosed other = channels.isClosed other := by
  simp only [isClosed, shut, List.getElem?_modify, if_neg different.symm]
  cases channels.known[other]? with
  | none => rfl
  | some channel => rfl

@[simp] theorem isClosed_finishClose (number : Nat) (channels : Channels) :
    channels.finishClose.isClosed number = channels.isClosed number := rfl

theorem beginClose_cases (channels : Channels) :
    channels.beginClose = (none, channels) ∨
      ∃ number, channels.beginClose = (some number, channels.shut number) := by
  rw [beginClose]
  cases channels.held with
  | none => exact Or.inl rfl
  | some number =>
      cases channels.owned with
      | false => exact Or.inl rfl
      | true => exact Or.inr ⟨number, rfl⟩

theorem acquire_of_held (held : channels.held = some number) :
    channels.acquire = (number, channels) := by
  rw [acquire, held]

/-- Where none is held, a channel is opened that was not known, and it is held. -/
theorem acquire_of_none (free : channels.held = none) :
    channels.acquire.2.held = some channels.known.length ∧
      ∀ other, other ≠ channels.known.length →
        channels.acquire.2.isClosed other = channels.isClosed other := by
  rw [acquire, free]
  refine ⟨rfl, fun other different => ?_⟩
  simp only [isClosed]
  rcases Nat.lt_or_gt_of_ne different with earlier | later
  · rw [List.getElem?_append_left earlier]
  · rw [List.getElem?_eq_none (Nat.le_of_lt later), List.getElem?_eq_none]
    rw [List.length_append]
    exact later

end Channels

/-- The channels of a transport, the requests that wait for their answers, and the closings
that wait until their channels are closed, by the numbers of their channels. -/
structure Traffic where
  channels : Channels
  requests : List Nat := []
  closings : List Nat := []

/-- A step of a task: a request takes its channel, a request is answered, a closing begins, a
closing is done. -/
inductive Move where
  | request
  | answered (number : Nat)
  | close
  | closed (number : Nat)

namespace Traffic

/-- A transport that opens its own channels, before anything was asked of it. -/
def start (limits : TimeLimits) : Traffic where
  channels := .ofLimits limits

/-- One step.  The closing of a channel that is closed already has nothing to wait for, and a
step of a task that is not waiting for it does nothing. -/
def step (traffic : Traffic) : Move → Traffic
  | .request =>
    let (number, channels) := traffic.channels.acquire
    { traffic with channels, requests := number :: traffic.requests }
  | .answered number => { traffic with requests := traffic.requests.erase number }
  | .close =>
    match traffic.channels.beginClose with
    | (none, _) => traffic
    | (some number, channels) =>
      if traffic.channels.isClosed number then { traffic with channels := channels.finishClose }
      else { traffic with channels, closings := number :: traffic.closings }
  | .closed number =>
    if traffic.closings.contains number then
      { traffic with
        channels := traffic.channels.finishClose
        closings := traffic.closings.erase number }
    else traffic

def run (traffic : Traffic) : List Move → Traffic
  | [] => traffic
  | move :: moves => run (traffic.step move) moves

/-- Whether a step lets go of an open channel: a closing is done, and what is held then is
another channel than it closed. -/
def Loses (traffic : Traffic) : Move → Prop
  | .closed number => number ∈ traffic.closings ∧
      ∃ held, traffic.channels.held = some held ∧ traffic.channels.isClosed held = false
  | _ => False

variable {traffic : Traffic} {move : Move} {moves : List Move} {number : Nat}

/-! ## One step -/

/-- What a step makes of the channels and of the closings that wait, case by case. -/
inductive Effect (traffic : Traffic) : Move → Channels → List Nat → Prop where
  | reused {number : Nat} (held : traffic.channels.held = some number) :
      Effect traffic .request traffic.channels traffic.closings
  | opened (free : traffic.channels.held = none) :
      Effect traffic .request traffic.channels.acquire.2 traffic.closings
  | answered (number : Nat) : Effect traffic (.answered number) traffic.channels traffic.closings
  | nothing (idle : traffic.channels.held = none ∨ traffic.channels.owned = false) :
      Effect traffic .close traffic.channels traffic.closings
  | shut {number : Nat} (held : traffic.channels.held = some number)
      (isOpen : traffic.channels.isClosed number = false) :
      Effect traffic .close (traffic.channels.shut number) (number :: traffic.closings)
  | again {number : Nat} (held : traffic.channels.held = some number)
      (isClosed : traffic.channels.isClosed number = true) :
      Effect traffic .close (traffic.channels.shut number).finishClose traffic.closings
  | late {number : Nat} (done : number ∉ traffic.closings) :
      Effect traffic (.closed number) traffic.channels traffic.closings
  | done {number : Nat} (waiting : number ∈ traffic.closings) :
      Effect traffic (.closed number) traffic.channels.finishClose
        (traffic.closings.erase number)

theorem effect_close (traffic : Traffic) :
    Effect traffic .close (traffic.step .close).channels (traffic.step .close).closings := by
  rw [step, Channels.beginClose]
  cases held : traffic.channels.held with
  | none => exact .nothing (Or.inl held)
  | some number =>
      cases owned : traffic.channels.owned with
      | false => exact .nothing (Or.inr owned)
      | true =>
          cases isClosed : traffic.channels.isClosed number with
          | true => simpa [isClosed] using Effect.again held isClosed
          | false => simpa [isClosed] using Effect.shut held isClosed

theorem effect_step (traffic : Traffic) (move : Move) :
    Effect traffic move (traffic.step move).channels (traffic.step move).closings := by
  cases move with
  | request =>
      cases held : traffic.channels.held with
      | none => exact .opened held
      | some number =>
          rw [step, Channels.acquire_of_held held]
          exact .reused held
  | answered number => exact .answered number
  | close => exact effect_close traffic
  | closed number =>
      by_cases waiting : number ∈ traffic.closings
      · rw [step, if_pos (List.contains_iff_mem.mpr waiting)]
        exact .done waiting
      · rw [step, if_neg fun waits => waiting (List.contains_iff_mem.mp waits)]
        exact .late waiting

/-- A step keeps all channels, unless it lets go of an open one. -/
theorem kept_step_iff (kept : traffic.channels.Kept) (move : Move) :
    (traffic.step move).channels.Kept ↔ ¬ traffic.Loses move := by
  have effect := effect_step traffic move
  generalize (traffic.step move).channels = after at effect ⊢
  generalize (traffic.step move).closings = closings at effect
  cases effect with
  | reused held => exact iff_of_true kept id
  | opened free =>
      refine iff_of_true (fun other isOpen => ?_) id
      obtain ⟨held, others⟩ := Channels.acquire_of_none free
      by_cases isNew : other = traffic.channels.known.length
      · rw [held, isNew]
      · rw [others other isNew] at isOpen
        cases free.symm.trans (kept other isOpen)
  | answered number => exact iff_of_true kept id
  | nothing idle => exact iff_of_true kept id
  | @shut number held isOpen =>
      refine iff_of_true (fun other otherOpen => ?_) id
      by_cases same : other = number
      · rw [same, Channels.isClosed_shut_self] at otherOpen
        cases otherOpen
      · rw [Channels.isClosed_shut_of_ne same] at otherOpen
        exact kept other otherOpen
  | @again number held isClosed =>
      refine iff_of_true (fun other otherOpen => ?_) id
      by_cases same : other = number
      · rw [Channels.isClosed_finishClose, same, Channels.isClosed_shut_self] at otherOpen
        cases otherOpen
      · rw [Channels.isClosed_finishClose, Channels.isClosed_shut_of_ne same] at otherOpen
        cases held.symm.trans (kept other otherOpen)
        exact absurd rfl same
  | late done => exact iff_of_true kept fun loses => done loses.1
  | @done number waiting =>
      constructor
      · rintro keptAfter ⟨_, other, _, isOpen⟩
        cases keptAfter other isOpen
      · intro keeps other isOpen
        exact absurd ⟨waiting, other, kept other isOpen, isOpen⟩ keeps

/-- A lost channel stays lost: it is closed by nobody, and no request takes it. -/
theorem lost_step (lost : traffic.channels.Lost number) (move : Move) :
    (traffic.step move).channels.Lost number := by
  obtain ⟨isOpen, notHeld⟩ := lost
  have effect := effect_step traffic move
  generalize (traffic.step move).channels = after at effect ⊢
  generalize (traffic.step move).closings = closings at effect
  have shutOther : ∀ {other}, traffic.channels.held = some other →
      (traffic.channels.shut other).isClosed number = false := by
    intro other held
    rw [Channels.isClosed_shut_of_ne, isOpen]
    rintro rfl
    exact notHeld held
  cases effect with
  | reused held => exact ⟨isOpen, notHeld⟩
  | opened free =>
      obtain ⟨held, others⟩ := Channels.acquire_of_none free
      have isOld : number ≠ traffic.channels.known.length :=
        Nat.ne_of_lt (Channels.lt_of_isOpen isOpen)
      refine ⟨(others number isOld).trans isOpen, ?_⟩
      rw [held]
      exact fun same => isOld (Option.some.inj same).symm
  | answered _ => exact ⟨isOpen, notHeld⟩
  | nothing idle => exact ⟨isOpen, notHeld⟩
  | shut held _ => exact ⟨shutOther held, notHeld⟩
  | again held _ => exact ⟨shutOther held, nofun⟩
  | late _ => exact ⟨isOpen, notHeld⟩
  | done _ => exact ⟨isOpen, nofun⟩

/-! ## Runs -/

theorem lost_run (lost : traffic.channels.Lost number) (moves : List Move) :
    (traffic.run moves).channels.Lost number := by
  induction moves generalizing traffic with
  | nil => exact lost
  | cons move moves ih => exact ih (lost_step lost move)

/-- A run keeps all channels exactly if none of its steps lets go of an open one. -/
theorem kept_run_iff (kept : traffic.channels.Kept) (moves : List Move) :
    (traffic.run moves).channels.Kept ↔
      ∀ front move back, moves = front ++ move :: back → ¬ (traffic.run front).Loses move := by
  induction moves generalizing traffic with
  | nil => exact iff_of_true kept fun front move back same => by simp at same
  | cons first moves ih =>
      by_cases loses : traffic.Loses first
      · have notKept : ¬ (traffic.step first).channels.Kept := fun keeps =>
          (kept_step_iff kept first).mp keeps loses
        obtain ⟨number, lost⟩ := Channels.exists_lost_of_not_kept notKept
        refine iff_of_false (Channels.not_kept_of_lost (lost_run lost moves)) fun none => ?_
        exact none [] first moves rfl loses
      · rw [run, ih ((kept_step_iff kept first).mpr loses)]
        constructor
        · intro later front move back same
          cases front with
          | nil =>
              cases same
              exact loses
          | cons _ front =>
              cases same
              exact later front move back rfl
        · rintro every front move back rfl
          exact every (first :: front) move back rfl

/-! ## Closings that do not overlap -/

/-- Closings that do not overlap: at most one waits, and its channel is still held. -/
structure Apart (traffic : Traffic) : Prop where
  atMostOne : traffic.closings.length ≤ 1
  held : ∀ number ∈ traffic.closings,
    traffic.channels.held = some number ∧ traffic.channels.isClosed number = true

theorem Apart.step (apart : traffic.Apart) {move : Move}
    (alone : move = .close → traffic.closings = []) : (traffic.step move).Apart := by
  have effect := effect_step traffic move
  suffices both : (traffic.step move).closings.length ≤ 1 ∧
      ∀ number ∈ (traffic.step move).closings,
        (traffic.step move).channels.held = some number ∧
          (traffic.step move).channels.isClosed number = true from ⟨both.1, both.2⟩
  generalize (traffic.step move).channels = after at effect ⊢
  generalize (traffic.step move).closings = closings at effect ⊢
  cases effect with
  | reused _ => exact ⟨apart.atMostOne, apart.held⟩
  | opened free =>
      have noneWaits : traffic.closings = [] := by
        rw [List.eq_nil_iff_forall_not_mem]
        intro number waiting
        cases free.symm.trans (apart.held number waiting).1
      rw [noneWaits]
      exact ⟨Nat.zero_le 1, nofun⟩
  | answered _ => exact ⟨apart.atMostOne, apart.held⟩
  | nothing _ => exact ⟨apart.atMostOne, apart.held⟩
  | shut held _ =>
      rw [alone rfl]
      refine ⟨Nat.le_refl 1, List.forall_mem_singleton.mpr ?_⟩
      exact ⟨held, Channels.isClosed_shut_self _ _⟩
  | again _ _ =>
      rw [alone rfl]
      exact ⟨Nat.zero_le 1, nofun⟩
  | late _ => exact ⟨apart.atMostOne, apart.held⟩
  | @done number waiting =>
      have left : (traffic.closings.erase number).length = 0 := by
        rw [List.length_erase_of_mem waiting]
        exact Nat.sub_eq_zero_of_le apart.atMostOne
      rw [List.length_eq_zero_iff.mp left]
      exact ⟨Nat.zero_le 1, nofun⟩

theorem Apart.run (apart : traffic.Apart)
    (alone : ∀ front back, moves = front ++ .close :: back → (traffic.run front).closings = []) :
    (traffic.run moves).Apart := by
  induction moves generalizing traffic with
  | nil => exact apart
  | cons move moves ih =>
      apply ih (apart.step _)
      · rintro front back rfl
        exact alone (move :: front) back rfl
      · rintro rfl
        exact alone [] moves rfl

/-- A closing that is done lets go of its own channel, where closings do not overlap. -/
theorem Apart.not_loses (apart : traffic.Apart) (move : Move) : ¬ traffic.Loses move := by
  cases move with
  | closed number =>
      rintro ⟨waiting, other, isHeld, isOpen⟩
      obtain ⟨held, isClosed⟩ := apart.held number waiting
      cases held.symm.trans isHeld
      cases isClosed.symm.trans isOpen
  | _ => exact id

/-! ## A later closing -/

theorem owned_run (owned : traffic.channels.owned = true) (moves : List Move) :
    (traffic.run moves).channels.owned = true := by
  induction moves generalizing traffic with
  | nil => exact owned
  | cons move moves ih =>
      apply ih
      have effect := effect_step traffic move
      generalize (traffic.step move).channels = after at effect ⊢
      generalize (traffic.step move).closings = closings at effect
      cases effect with
      | opened free => rw [Channels.acquire, free]
      | _ => exact owned

/-- Once the next closing has begun, channels that are kept are closed. -/
theorem isClosed_step_close (owned : traffic.channels.owned = true)
    (kept : traffic.channels.Kept) (number : Nat) :
    (traffic.step .close).channels.isClosed number = true := by
  have effect := effect_close traffic
  have closedOther : traffic.channels.held ≠ some number →
      traffic.channels.isClosed number = true := fun notHeld =>
    eq_true_of_ne_false fun isOpen => notHeld (kept number isOpen)
  have closedByShut : ∀ {held}, traffic.channels.held = some held →
      (traffic.channels.shut held).isClosed number = true := by
    intro held isHeld
    by_cases same : number = held
    · rw [same, Channels.isClosed_shut_self]
    · rw [Channels.isClosed_shut_of_ne same]
      apply closedOther
      rw [isHeld]
      exact fun other => same (Option.some.inj other).symm
  generalize (traffic.step .close).channels = after at effect ⊢
  generalize (traffic.step .close).closings = closings at effect
  cases effect with
  | nothing idle =>
      rcases idle with free | foreign
      · apply closedOther
        rw [free]
        exact nofun
      · cases owned.symm.trans foreign
  | shut held _ => exact closedByShut held
  | again held _ => exact closedByShut held

/-! ## The tasks of a transport -/

/-- A call takes its channel in the step of a request. -/
theorem channels_of_request (call : Call) (transport : Transport) (server : Server)
    (same : traffic.channels = transport.channels) :
    (transport.request call server).2.1.channels = (traffic.step .request).channels := by
  rw [step, same]
  cases prepared : transport.prepared call with
  | error fault => rw [Transport.request_of_error prepared]; rfl
  | ok sent => rw [Transport.request_of_ok prepared]; rfl

/-- A closing that nothing comes between is its two steps in a row. -/
theorem channels_of_close (transport : Transport)
    (same : traffic.channels = transport.channels) :
    transport.close.2.channels = (traffic.step .close).channels ∨
      ∃ number, transport.close.2.channels = (traffic.run [.close, .closed number]).channels := by
  have closes : transport.close.2.channels = traffic.channels.close.2 := by
    rw [same]
    rfl
  rw [closes]
  rcases traffic.channels.beginClose_cases with nothing | ⟨number, begun⟩
  · exact Or.inl (by simp only [Channels.close, step, nothing])
  · cases isClosed : traffic.channels.isClosed number with
    | true => exact Or.inl (by simp [Channels.close, step, begun, isClosed])
    | false => exact Or.inr ⟨number, by simp [Channels.close, run, step, begun, isClosed]⟩

/-- In every order of requests and closings, all channels of a transport that opens its own
are closed or held, so that a later closing closes them, exactly if no closing that is done
lets go of an open channel.  None does where closings do not overlap. -/
theorem kept_iff_none_loses (limits : TimeLimits) (moves : List Move) :
    let traffic := (start limits).run moves
    (traffic.channels.Kept ↔ ∀ front move back, moves = front ++ move :: back →
      ¬ ((start limits).run front).Loses move) ∧
    (traffic.channels.Kept → ∀ number, (traffic.step .close).channels.isClosed number = true) ∧
    ((∀ front back, moves = front ++ .close :: back →
      ((start limits).run front).closings = []) → traffic.channels.Kept) := by
  intro traffic
  have kept : (start limits).channels.Kept := nofun
  have apart : (start limits).Apart := ⟨Nat.zero_le 1, nofun⟩
  have owned : traffic.channels.owned = true := owned_run rfl moves
  refine ⟨kept_run_iff kept moves, fun keeps => isClosed_step_close owned keeps, fun alone => ?_⟩
  refine (kept_run_iff kept moves).mpr ?_
  rintro front move back rfl
  refine (apart.run ?_).not_loses move
  rintro before behind rfl
  exact alone before (behind ++ move :: back) (by simp)

/-- Two closings overlap, and a request opens a channel after the second one was done: the
first one lets go of this channel, which no closing closes. -/
theorem overlapping_closings_lose_channel :
    let moves := [.request, .close, .close, .request, .closed 0]
    let traffic := (start (.all .null)).run moves
    ¬ traffic.channels.Kept ∧ (traffic.step .close).channels.isClosed 1 = false := by
  intro moves traffic
  have loses : ((start (.all .null)).run [.request, .close, .close, .request]).Loses (.closed 0) :=
    ⟨by decide, 1, rfl, rfl⟩
  refine ⟨fun keeps => ?_, rfl⟩
  exact (kept_iff_none_loses (.all .null) moves).1.mp keeps _ _ [] rfl loses

end Traffic

end SamlAdmin
