import BufferedChannels.Channel.Suspend
import BufferedChannels.Descriptor

/-!
# Channel/Read — reading a given number of bytes

`readBetween` reads until a low mark is reached and never hands on more than a high mark; bytes read
beyond it stay buffered.  `read` is the case of equal marks.  A need larger than the buffer is read
straight from the descriptor, and any other refills the buffer.
-/

namespace BufferedChannels

/-- **What a read hands on**: the bytes, also those that came before a failure, and the failure. -/
structure Reading where
  bytes : Bytes
  error? : Option ChannelError := none
  deriving DecidableEq

/-- The count of a read that succeeded, or its failure. -/
def Reading.result (r : Reading) : Except ChannelError Nat :=
  match r.error? with
  | none => .ok r.bytes.length
  | some e => .error e

/-- **The part of a destination** of `len` bytes from `start` to `stop`: how many bytes it has. -/
def window (len start stop : Nat) : Except BufferFault Nat :=
  if stop < start then .error (.sliceOrder start stop)
  else if len < stop then .error (.sliceEnd stop len)
  else .ok (stop - start)

namespace Channel

variable {κ : Type} [Host κ]

/-- A channel that has seen its source come back with bytes; none mean its end. -/
def sawBytes (c : Channel) (bytes : Bytes) : Channel := { c with ended := c.ended || bytes.isEmpty }

/-- **One read toward a need**, with an empty buffer.  A need larger than the buffer goes straight
to the descriptor; any other fills the buffer, and the surplus stays there. -/
def readToward (c : Channel) (need : Nat) : Act κ (Attempt Bytes × Channel) := do
  if need > c.input.capacity then
    Act.log .trace s!"fd {c.fd}: direct read of {need} bytes"
    match ← Descriptor.read c.fd need with
    | .moved bytes => return (.moved bytes, c.sawBytes bytes)
    | .mustWait => return (.mustWait, c)
    | .failed e => return (.failed e, c)
  else
    let slot ← Act.check c.input.beginRefill
    match ← Descriptor.read c.fd slot.capacity with
    | .moved filled =>
      let loaded ← Act.check (slot.load filled)
      let (bytes, input) ← Act.check (loaded.take need)
      return (.moved bytes, { c with input }.sawBytes bytes)
    | .mustWait => return (.mustWait, { c with input := slot })
    | .failed e => return (.failed e, { c with input := slot })

/-- **One turn of a read** that has received some bytes and goes on until it has `low` of them. -/
def readTurn (len low high : Nat) (deadline : Deadline) (state : Bytes × Channel) :
    Act κ ((Bytes × Channel) ⊕ (Reading × Channel)) := do
  let (received, c) := state
  if low ≤ received.length then return .inr (⟨received, none⟩, c)
  let need ← Act.check (window len received.length high)
  let (outcome, c) ← c.readToward need
  match outcome with
  | .moved [] => return .inr (⟨received, none⟩, c)
  | .moved bytes => return .inl (received ++ bytes, c)
  | .mustWait =>
    if ← c.mayRetry .readable deadline then return .inl (received, c)
    return .inr (⟨received, some (.timedOut received.length)⟩, c)
  | .failed e => return .inr (⟨received, some (.os e received.length)⟩, c)

/-- Reads between `low` and `high` bytes into a destination of `len` bytes, where
`low ≤ high ≤ len`. -/
def receive (c : Channel) (len low high : Nat) (deadline : Deadline) :
    Act κ (Reading × Channel) := do
  let room ← Act.check (window len 0 high)
  let (bytes, input) ← Act.check (c.input.take room)
  let taken := { c with input }
  if low ≤ c.liveCount then return (⟨bytes, none⟩, taken)
  Act.loop (readTurn len low high deadline) (bytes, taken)

/-- **Reads between `low` and `high` bytes** into a destination of `len` bytes.  Fewer than `low`
come at the end of the stream, by a deadline or by a failure only. -/
def readBetween (c : Channel) (len low high : Nat) (deadline : Deadline) :
    Act κ (Reading × Channel) := do
  if low > high then
    return (⟨[], some (.invalidArgument "low watermark above high watermark")⟩, c)
  if high > len then
    return (⟨[], some (.invalidArgument "high watermark exceeds buffer length")⟩, c)
  c.receive len low high deadline

/-- **Reads exactly `len` bytes**, unless the end of the stream, the deadline or a failure comes
first. -/
def read (c : Channel) (len : Nat) (deadline : Deadline) : Act κ (Reading × Channel) :=
  c.receive len len len deadline

end Channel

end BufferedChannels
