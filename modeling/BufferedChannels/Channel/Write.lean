import BufferedChannels.Channel.Suspend
import BufferedChannels.Descriptor

/-!
# Channel/Write — collecting output and sending it

`write` accepts all of its data or fails: data that fits is only collected, and data that does not
fit even after a flush is sent straight to the descriptor.  `flush` sends what is pending, and when
it is cut short **exactly the unsent tail stays pending**.
-/

namespace BufferedChannels.Channel

variable {κ : Type} [Host κ]

/-- The bytes after the first `sent`. -/
def unsent (data : Bytes) (sent : Nat) : Except BufferFault Bytes :=
  if sent ≤ data.length then .ok (data.drop sent) else .error (.sliceStart sent data.length)

/-- **One turn of sending**: the bytes after the first `sent` are offered to the descriptor. -/
def sendTurn (c : Channel) (data : Bytes) (deadline : Deadline) (sent : Nat) :
    Act κ (Nat ⊕ (Nat × Option ChannelError)) := do
  if data.length ≤ sent then return .inr (sent, none)
  let rest ← Act.check (unsent data sent)
  match ← Descriptor.write c.fd rest with
  | .moved n => return .inl (sent + n)
  | .mustWait =>
    if ← c.mayRetry .writable deadline then return .inl sent
    return .inr (sent, some (.timedOut sent))
  | .failed e => return .inr (sent, some (.os e sent))

/-- **Sends bytes to the descriptor**: how many were sent, and the failure if that is not all. -/
def send (c : Channel) (data : Bytes) (deadline : Deadline) : Act κ (Nat × Option ChannelError) :=
  Act.loop (c.sendTurn data deadline) 0

/-- **Sends every pending byte.**  With nothing pending there is nothing to do. -/
def flush (c : Channel) (deadline : Deadline) : Act κ (Except ChannelError Unit × Channel) := do
  if c.output.isEmpty then return (.ok (), c)
  match ← c.send c.output.pending deadline with
  | (_, none) =>
    Act.log .trace s!"fd {c.fd}: flushed {c.pendingCount} bytes"
    return (.ok (), { c with output := c.output.clear })
  | (sent, some e) =>
    let output ← Act.check (c.output.dropSent sent)
    return (.error e, { c with output })

/-- Collects data that fits. -/
def collect (c : Channel) (data : Bytes) : Act κ (Except ChannelError Nat × Channel) := do
  let output ← Act.check (c.output.append data)
  return (.ok data.length, { c with output })

/-- **Accepts all of the data or fails.**  A flush that fails beforehand takes none of the data, so
its failure counts no bytes. -/
def write (c : Channel) (data : Bytes) (deadline : Deadline) :
    Act κ (Except ChannelError Nat × Channel) := do
  if c.output.hasRoom data.length then return ← c.collect data
  match ← c.flush deadline with
  | (.error e, c) => return (.error (e.recount 0), c)
  | (.ok _, c) =>
    if c.output.hasRoom data.length then return ← c.collect data
    Act.log .trace s!"fd {c.fd}: direct write of {data.length} bytes"
    match ← c.send data deadline with
    | (sent, none) => return (.ok sent, c)
    | (_, some e) => return (.error e, c)

end BufferedChannels.Channel
