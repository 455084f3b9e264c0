import BufferedChannels.Channel.Notices
import BufferedChannels.Descriptor

/-!
# Channel/Position — where a channel stands

The position of the descriptor runs ahead of the caller by the bytes read ahead.  `tell` is the
caller's position, `seek` moves it and forgets both buffers, and `size` counts pending output as
part of the file.
-/

namespace BufferedChannels.Channel

variable {κ : Type} [Host κ]

/-- **Moves to a position** and forgets both buffers.  A position that the kernel cannot name is
refused with the channel untouched. -/
def seek (c : Channel) (position : Nat) : Act κ (Except ChannelError Nat × Channel) := do
  match Descriptor.offset? position with
  | .error e => return (.error e, c)
  | .ok _ =>
    c.logLoss "seek"
    let result ← Descriptor.seekTo c.fd position
    return (result, { c with input := c.input.clear, output := c.output.clear, ended := false })

/-- **The caller's position**: the descriptor's, less the bytes read ahead. -/
def tell (c : Channel) : Act κ (Except ChannelError Nat) := do
  match ← Descriptor.position c.fd with
  | .error e => return .error e
  | .ok physical =>
    if physical < c.liveCount then
      Act.leaving c (Act.fault "attempt to subtract with overflow")
    return .ok (physical - c.liveCount)

/-- **The length of the file and the pending output together**; only regular files have one.  The
position is moved to the end and back. -/
def size (c : Channel) : Act κ (Except ChannelError Nat) := do
  if !c.kind.isRegular then
    Act.log .debug s!"fd {c.fd}: size unsupported on {c.kind.name} descriptor"
    return .error .unsupported
  match ← Descriptor.position c.fd with
  | .error e => return .error e
  | .ok here =>
    match ← Descriptor.seekEnd c.fd with
    | .error e => return .error e
    | .ok stop =>
      match ← Descriptor.seekTo c.fd here with
      | .error e => return .error e
      | .ok _ => return .ok (stop + c.pendingCount)

end BufferedChannels.Channel
