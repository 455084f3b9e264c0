import BufferedChannels.Channel.Notices
import BufferedChannels.Descriptor
import BufferedChannels.Waiter.Wait

/-!
# Channel/Lifecycle — how a channel begins and ends

A channel begins by opening a path or by adopting a descriptor, and ends by being closed, detached
or dropped.  The waiter is told **once** at the beginning and **once** at the end, and an opening
that fails half-way gives back what it took.
-/

namespace BufferedChannels.Channel

variable {κ : Type} [Host κ]

/-- What an opened descriptor needs to become a channel: its kind, then two buffers. -/
def prepare (fd : Int) : Act κ (Except ChannelError (Kind × ReadAhead × WriteBehind)) := do
  match ← Descriptor.kindOf fd with
  | .error e => return .error e
  | .ok kind => return (← Act.allocateBuffers).map fun buffers => (kind, buffers.1, buffers.2)

/-- **Opens a path** with a configuration and a waiter. -/
def openConfigured (path : String) (flags : Flags) (mode : Nat) (config : Config)
    (waiter : Waiter) : Act κ (Except ChannelError Channel) := do
  match config.validate with
  | .error e => return .error e.toChannelError
  | .ok _ =>
    match ← Descriptor.openPath path { flags with cloexec := flags.cloexec || config.cloexec }
        mode with
    | .error e => return .error e
    | .ok fd =>
      waiter.claim fd
      match ← prepare fd with
      | .error e =>
        waiter.release fd
        Descriptor.closeQuietly fd "after failed open"
        return .error e
      | .ok (kind, input, output) =>
        logLifecycle config.logLifecycle s!"opened {path} as fd {fd} ({kind.name})"
        return .ok { fd, kind, input, output, verbose := config.logLifecycle, waiter }

/-- **Adopts a descriptor** and makes it never block.  Its kind is not asked, so the channel waits
when a call would block. -/
def adoptConfigured (fd : Int) (config : Config) (waiter : Waiter) :
    Act κ (Except ChannelError Channel) := do
  match ← Act.allocateBuffers with
  | .error e => return .error e
  | .ok (input, output) =>
    Descriptor.makeNonblocking fd
    waiter.claim fd
    logLifecycle config.logLifecycle s!"attached fd {fd}"
    return .ok { fd, kind := .unasked, input, output, verbose := config.logLifecycle, waiter }

/-- The configuration that the environment asks for. -/
def environmentConfig : Act κ Config := return .ofEnvironment (← get).environment

/-- The waiter of a channel that is given none. -/
def defaultWaiter : Waiter := .polling .shared

/-- Opens a path with the configuration of the environment and the default waiter. -/
def openPath (path : String) (flags : Flags) (mode : Nat) :
    Act κ (Except ChannelError Channel) := do
  openConfigured path flags mode (← environmentConfig) defaultWaiter

/-- **Creates or empties a file** for writing, with the permission bits of the configuration. -/
def create (path : String) : Act κ (Except ChannelError Channel) := do
  let config ← environmentConfig
  openConfigured path { access := .writeOnly, create := true, truncate := true }
    (permissionBits config.openMode) config defaultWaiter

/-- Adopts a descriptor with the configuration of the environment and the default waiter. -/
def adopt (fd : Int) : Act κ (Except ChannelError Channel) := do
  adoptConfigured fd (← environmentConfig) defaultWaiter

/-- A channel whose descriptor is no longer its own. -/
def handedOff (c : Channel) : Channel := { c with owned := false }

/-- **Drops a channel**: what is buffered is lost, and a failing close is only logged.  Nothing
happens to a channel that has handed its descriptor off. -/
def drop (c : Channel) : Act κ Unit := do
  if c.owned then
    c.logLoss "drop"
    c.waiter.release c.fd
    Descriptor.closeQuietly c.fd "on drop"

/-- **Gives the descriptor back** without closing it; what is buffered is lost.  The channel is
dropped after it has handed its descriptor off. -/
def detach (c : Channel) : Act κ Int := do
  c.logLoss "detach"
  c.waiter.release c.fd
  logLifecycle c.verbose s!"detached fd {c.fd}"
  c.handedOff.drop
  return c.fd

/-- **Closes the descriptor** without flushing, and drops the channel, which has handed it off.  A
failure means that the channel lost track of its descriptor, which is fatal. -/
def close (c : Channel) : Act κ Unit := do
  c.waiter.release c.fd
  match ← Descriptor.close c.fd with
  | .ok _ =>
    logLifecycle c.verbose s!"closed fd {c.fd}"
    c.handedOff.drop
  | .error e => Act.abort s!"close(fd {c.fd}) failed: errno Some({e.code})"

/-! ## The drop that follows an ending -/

/-- **A channel that handed its descriptor off is dropped without effect.** -/
theorem drop_handedOff (c : Channel) : (c.handedOff.drop : Act κ Unit) = pure () := rfl

/-- A channel that has its descriptor is dropped with it. -/
theorem drop_of_owned {c : Channel} (owned : c.owned = true) :
    (c.drop : Act κ Unit) = (do
      c.logLoss "drop"
      c.waiter.release c.fd
      Descriptor.closeQuietly c.fd "on drop") := by
  rw [drop, if_pos owned]

/-- A detachment tells the waiter once. -/
theorem detach_eq (c : Channel) : (c.detach : Act κ Int) = (do
    c.logLoss "detach"
    c.waiter.release c.fd
    logLifecycle c.verbose s!"detached fd {c.fd}"
    return c.fd) := by
  rw [detach, drop_handedOff]
  rfl

/-- A closing tells the waiter once, and calls the system's close once. -/
theorem close_eq (c : Channel) : (c.close : Act κ Unit) = (do
    c.waiter.release c.fd
    match ← Descriptor.close c.fd with
    | .ok _ => logLifecycle c.verbose s!"closed fd {c.fd}"
    | .error e => Act.abort s!"close(fd {c.fd}) failed: errno Some({e.code})") := by
  rw [close, drop_handedOff]
  rfl

end BufferedChannels.Channel
