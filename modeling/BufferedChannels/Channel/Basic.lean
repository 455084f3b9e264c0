import BufferedChannels.Buffer.ReadAhead
import BufferedChannels.Buffer.WriteBehind
import BufferedChannels.Kind
import BufferedChannels.Waiter.Basic

/-!
# Channel/Basic — a buffered channel over one descriptor

A `Channel` owns a descriptor until it is closed, detached or dropped.  It reads ahead into one
buffer and collects writes in another, and it waits through a `Waiter` when the descriptor would
block.  Operations take a channel and give the channel afterwards.
-/

namespace BufferedChannels

/-- **A buffered channel.** -/
structure Channel where
  fd : Int
  kind : Kind
  /-- Bytes read ahead of the caller. -/
  input : ReadAhead
  /-- Bytes accepted but not sent. -/
  output : WriteBehind
  /-- Whether a read came back empty since the channel was made or last repositioned. -/
  ended : Bool := false
  /-- Whether openings and endings are logged at level `info`. -/
  verbose : Bool
  waiter : Waiter
  /-- Whether the descriptor is still the channel's, and not yet handed off by an ending. -/
  owned : Bool := true
  deriving DecidableEq

namespace Channel

/-- The capacity of each buffer. -/
def capacity (c : Channel) : Nat := c.output.capacity

/-- Bytes read ahead and not yet handed on. -/
def liveCount (c : Channel) : Nat := c.input.len

/-- Bytes accepted and not yet sent. -/
def pendingCount (c : Channel) : Nat := c.output.len

end Channel

end BufferedChannels
