import SamlAdmin.Value

/-!
# Channels

Requests go through a channel, which holds connections open between them.  A
channel is supplied by the caller, who then closes it, or it is opened on first use
and belongs to the transport.  `Channels` is the record of one transport: every
channel so far with its state, which of them is held, and whether it is owned.

Closing takes two steps, since other work may come between them: the owned channel
is closed at once, and only when that is done is it let go.
-/

namespace SamlAdmin

/-- How long the parts of an exchange may take. -/
structure TimeLimits where
  connect : Value
  read : Value
  write : Value
  pool : Value
  deriving Inhabited

namespace TimeLimits

/-- One limit for all parts. -/
def all (limit : Value) : TimeLimits := ⟨limit, limit, limit, limit⟩

/-- The limits that an argument gives: one for all parts, or a tuple of them in
which the last two may be missing. -/
def ofValue : Value → TimeLimits
  | .tuple limits => ⟨limits.getD 0 .null, limits.getD 1 .null, limits.getD 2 .null,
      limits.getD 3 .null⟩
  | limit => all limit

end TimeLimits

/-- A channel. -/
structure Channel where
  limits : TimeLimits
  isOpen : Bool := true
  deriving Inhabited

/-- The channels of a transport, numbered in the order in which they appeared. -/
structure Channels where
  limits : TimeLimits
  known : List Channel := []
  held : Option Nat := none
  owned : Bool := true
  deriving Inhabited

namespace Channels

/-- The channels of a transport that opens its own. -/
def ofLimits (limits : TimeLimits) : Channels := { limits }

/-- The channels of a transport that was given one. -/
def supplied (limits : TimeLimits) (channel : Channel) : Channels where
  limits := limits
  known := [channel]
  held := some 0
  owned := false

/-- The channel to use, which is opened if none is held. -/
def acquire (channels : Channels) : Nat × Channels :=
  match channels.held with
  | some number => (number, channels)
  | none =>
    let number := channels.known.length
    (number, { channels with
      known := channels.known ++ [{ limits := channels.limits }]
      held := some number
      owned := true })

/-- The same channels with one of them closed. -/
def shut (number : Nat) (channels : Channels) : Channels :=
  { channels with
    known := channels.known.modify number fun channel => { channel with isOpen := false } }

/-- The first step of closing: the held channel is closed if it is owned.  The
answer is its number. -/
def beginClose (channels : Channels) : Option Nat × Channels :=
  match channels.held with
  | some number => if channels.owned then (some number, channels.shut number) else (none, channels)
  | none => (none, channels)

/-- The second step of closing: whatever is held then is let go. -/
def finishClose (channels : Channels) : Channels := { channels with held := none }

/-- Both steps of closing, and whether there was anything to close. -/
def close (channels : Channels) : Bool × Channels :=
  match channels.beginClose with
  | (some _, channels) => (true, channels.finishClose)
  | (none, channels) => (false, channels)

def isClosed (number : Nat) (channels : Channels) : Bool :=
  match channels.known[number]? with
  | some channel => !channel.isOpen
  | none => true

end Channels

end SamlAdmin
