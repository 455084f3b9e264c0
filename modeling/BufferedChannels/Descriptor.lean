import BufferedChannels.System
import BufferedChannels.Kind

/-!
# Descriptor — single calls on a descriptor, with their outcomes made plain

Reads and writes never block: a call that would have to wait says so, and one that a signal
interrupted before it did anything is made again.
-/

namespace BufferedChannels

/-- **The outcome of a read or write** that does not block. -/
inductive Attempt (α : Type) where
  /-- Bytes were moved. -/
  | moved (result : α)
  /-- The call would have had to wait. -/
  | mustWait
  | failed (errno : Errno)

/-- The outcome that a reply stands for, or the wish to call again. -/
def Attempt.ofReply {α : Type} : Except Errno α → Unit ⊕ Attempt α
  | .ok a => .inr (.moved a)
  | .error e =>
    if e.recognized = .interrupted then .inl ()
    else if e.recognized = .wouldBlock then .inr .mustWait
    else .inr (.failed e.recognized)

namespace Descriptor

variable {κ : Type} [Host κ]

/-- A reply as the result of a channel operation. -/
def settle {α : Type} : Except Errno α → Except ChannelError α
  | .ok a => .ok a
  | .error e => .error (.ofErrno e.recognized)

/-- **Opens a path** so that the descriptor never blocks.  A path that holds a NUL cannot be named
to the kernel and is invalid. -/
def openPath (path : String) (flags : Flags) (mode : Nat) : Act κ (Except ChannelError Int) := do
  if path.toList.contains '\x00' then return .error (.ofErrno .invalid)
  return settle (← Act.call (.openPath path { flags with nonblock := true } mode))

/-- One read, made again while it is interrupted. -/
def read (fd : Int) (len : Nat) : Act κ (Attempt Bytes) :=
  Act.loop (fun _ => return Attempt.ofReply (← Act.call (.read fd len))) ()

/-- One write, made again while it is interrupted. -/
def write (fd : Int) (data : Bytes) : Act κ (Attempt Nat) :=
  Act.loop (fun _ => return Attempt.ofReply (← Act.call (.write fd data))) ()

/-- **Makes a descriptor never block.**  Flags that cannot be had count as none; flags that cannot
be changed leave the descriptor useless, which is fatal. -/
def makeNonblocking (fd : Int) : Act κ Unit := do
  let flags : Flags := match ← Act.call (.getFlags fd) with
    | .ok flags => flags.status
    | .error _ => {}
  match ← Act.call (.setFlags fd { flags with nonblock := true }) with
  | .ok _ => return ()
  | .error e =>
    Act.abort s!"fcntl(F_SETFL, O_NONBLOCK) on fd {fd} failed: Err({e.recognized.symbol})"

/-- Whether a descriptor never blocks; one that cannot be asked may. -/
def neverBlocks (fd : Int) : Act κ Bool := do
  match ← Act.call (.getFlags fd) with
  | .ok flags => return flags.nonblock
  | .error _ => return false

/-- **The kind** of what a descriptor stands for. -/
def kindOf (fd : Int) : Act κ (Except ChannelError Kind) := do
  return (settle (← Act.call (.stat fd))).map Kind.ofMode

/-- The greatest position. -/
def maxOffset : Nat := 0x7fffffffffffffff

/-- A position that the kernel can name. -/
def offset? (position : Nat) : Except ChannelError Nat :=
  if position ≤ maxOffset then .ok position
  else .error (.invalidArgument "seek offset exceeds off_t")

/-- **Moves to a position.** -/
def seekTo (fd : Int) (position : Nat) : Act κ (Except ChannelError Nat) := do
  match offset? position with
  | .error e => return .error e
  | .ok position => return settle (← Act.call (.seek fd position .start))

/-- The position. -/
def position (fd : Int) : Act κ (Except ChannelError Nat) :=
  return settle (← Act.call (.seek fd 0 .current))

/-- Moves to the end and tells where that is. -/
def seekEnd (fd : Int) : Act κ (Except ChannelError Nat) :=
  return settle (← Act.call (.seek fd 0 .finish))

/-- Closes a descriptor. -/
def close (fd : Int) : Act κ (Except Errno Unit) := do
  match ← Act.call (.close fd) with
  | .ok _ => return .ok ()
  | .error e => return .error e.recognized

/-- Closes a descriptor where a failure can only be logged. -/
def closeQuietly (fd : Int) (context : String) : Act κ Unit := do
  match ← close fd with
  | .ok _ => return ()
  | .error e => Act.log .warn s!"close(fd {fd}) {context} failed: errno {e.code}"

end Descriptor

end BufferedChannels
