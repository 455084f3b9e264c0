import BufferedChannels.Bytes
import BufferedChannels.Errno
import BufferedChannels.Direction
import BufferedChannels.Host.Flags

/-!
# Host/Request — what the library asks of its surroundings, and what it may be told

Everything that a channel does outside its own buffers is a **request**: a call of the kernel, or a
word with the scheduler that a channel may wait through.  Each request has its type of replies.  A
`Host` is any machine that answers requests; nothing else is known of it, so a statement about all
hosts is one about every behaviour of kernel and scheduler.
-/

namespace BufferedChannels

/-- What a position is counted from. -/
inductive Whence where
  | start | current | finish
  deriving DecidableEq

/-- **A request** to the kernel or the scheduler. -/
inductive Request where
  /-- Open a path, with the permission bits of a file that is created. -/
  | openPath (path : String) (flags : Flags) (mode : Nat)
  /-- Read up to `len` bytes. -/
  | read (fd : Int) (len : Nat)
  /-- Write bytes. -/
  | write (fd : Int) (data : Bytes)
  /-- Move the position and tell it. -/
  | seek (fd : Int) (offset : Int) (whence : Whence)
  /-- Tell the mode of what the descriptor stands for. -/
  | stat (fd : Int)
  /-- Close a descriptor. -/
  | close (fd : Int)
  /-- Tell the flags that a descriptor remembers. -/
  | getFlags (fd : Int)
  /-- Change them. -/
  | setFlags (fd : Int) (flags : Flags)
  /-- Wait until the descriptor is ready, for so many milliseconds or for ever. -/
  | poll (fd : Int) (direction : Direction) (timeout : Option Nat)
  /-- Tell the scheduler that a channel takes a descriptor. -/
  | claim (fd : Int)
  /-- Tell the scheduler that a channel gives it up. -/
  | release (fd : Int)
  /-- Have the scheduler wait, with so many nanoseconds left. -/
  | wait (fd : Int) (direction : Direction) (left : Option Nat)
  deriving DecidableEq

/-- **The end of a poll.** -/
inductive Polled where
  /-- The descriptor is ready, or has something to report. -/
  | ready
  /-- The timeout passed. -/
  | timedOut
  | failed (errno : Errno)
  /-- Nothing can end the wait. -/
  | never
  deriving DecidableEq

/-- **The replies** to a request. -/
def Request.Reply : Request → Type
  | .openPath .. => Except Errno Int
  | .read .. => Except Errno Bytes
  | .write .. => Except Errno Nat
  | .seek .. => Except Errno Nat
  | .stat _ => Except Errno Nat
  | .close _ => Except Errno Unit
  | .getFlags _ => Except Errno Flags
  | .setFlags .. => Except Errno Unit
  | .poll .. => Polled
  | .claim _ => Unit
  | .release _ => Unit
  | .wait .. => WaitOutcome

/-- **A host**: a machine that answers requests, has a clock and hands out memory. -/
class Host (κ : Type) where
  /-- The reply to a request and the host afterwards. -/
  answer : κ → (r : Request) → r.Reply × κ
  /-- Nanoseconds on the monotonic clock. -/
  now : κ → Nat
  /-- Whether one more buffer can be had, and the host afterwards. -/
  allocate : κ → Bool × κ

/-- **A request with its reply.** -/
structure Exchange where
  request : Request
  reply : request.Reply

/-! ## Standard descriptors -/

/-- The descriptor of standard input. -/
def standardInput : Int := 0
/-- The descriptor of standard output. -/
def standardOutput : Int := 1
/-- The descriptor of standard error. -/
def standardError : Int := 2

namespace Exchange

/-- Whether an exchange sends bytes to standard error. -/
def isToStandardError (e : Exchange) : Bool :=
  match e.request with
  | .write fd _ => fd = standardError
  | _ => false

/-- **The bytes that standard error took** in an exchange. -/
def standardErrorBytes : Exchange → Bytes
  | ⟨.write fd data, .ok n⟩ => if fd = standardError then data.take n else []
  | _ => []

end Exchange

/-- A host whose reads and writes **never move more than was asked for**. -/
class Host.Bounded (κ : Type) [Host κ] : Prop where
  length_read : ∀ (k : κ) (fd : Int) (len : Nat) (bytes : Bytes) (k' : κ),
    Host.answer k (.read fd len) = (.ok bytes, k') → bytes.length ≤ len
  write_le : ∀ (k : κ) (fd : Int) (data : Bytes) (n : Nat) (k' : κ),
    Host.answer k (.write fd data) = (.ok n, k') → n ≤ data.length

end BufferedChannels
