import BufferedChannels.Errno

/-!
# Error — why a channel operation stops short

A `ChannelError` names the cause, and a failing transfer also says how many bytes were moved before
it.  Waiting and the end of a stream are no errors.  `StandardError` is what remains for a caller of
the plain stream interface, which has no place for the count.
-/

namespace BufferedChannels

/-- **The causes of failure** of a channel operation. -/
inductive ChannelError where
  /-- The deadline passed first. -/
  | timedOut (transferred : Nat)
  /-- A host call failed for good. -/
  | os (errno : Errno) (transferred : Nat)
  /-- The buffers of a new channel could not be had. -/
  | outOfMemory
  /-- The descriptor is of a kind that has no such operation. -/
  | unsupported
  /-- The arguments break a rule of the operation. -/
  | invalidArgument (rule : String)
  deriving DecidableEq

namespace ChannelError

/-- A failed host call before the first byte. -/
def ofErrno (e : Errno) : ChannelError := .os e 0

/-- **Bytes moved before the failure**; none when the failure is not one of a transfer. -/
def transferred : ChannelError → Nat
  | .timedOut n => n
  | .os _ n => n
  | _ => 0

/-- The same cause with another count of bytes. -/
def recount (n : Nat) : ChannelError → ChannelError
  | .timedOut _ => .timedOut n
  | .os e _ => .os e n
  | e => e

/-- The error number, if a host call failed. -/
def errno? : ChannelError → Option Errno
  | .os e _ => some e
  | _ => none

/-- Whether the deadline was the cause. -/
def isTimeout : ChannelError → Bool
  | .timedOut _ => true
  | _ => false

/-- **The wording of an error.** -/
def message : ChannelError → String
  | .timedOut n => s!"operation timed out after {n} bytes"
  | .os e 0 => s!"OS error: errno {e.code}"
  | .os e n => s!"OS error: errno {e.code} after {n} bytes"
  | .outOfMemory => "out of memory allocating channel buffers"
  | .unsupported => "operation not supported for this descriptor"
  | .invalidArgument rule => "invalid argument: " ++ rule

@[simp] theorem transferred_recount_timedOut (m n : Nat) :
    ((timedOut m).recount n).transferred = n := rfl

@[simp] theorem transferred_recount_os (e : Errno) (m n : Nat) :
    ((os e m).recount n).transferred = n := rfl

/-- **A failure counted anew as nothing** has moved nothing, whatever its cause. -/
@[simp] theorem transferred_recount_zero (e : ChannelError) : (e.recount 0).transferred = 0 := by
  cases e <;> rfl

@[simp] theorem errno?_recount (e : ChannelError) (n : Nat) :
    (e.recount n).errno? = e.errno? := by cases e <;> rfl

@[simp] theorem isTimeout_recount (e : ChannelError) (n : Nat) :
    (e.recount n).isTimeout = e.isTimeout := by cases e <;> rfl

end ChannelError

/-- The classes of error that the plain stream interface knows. -/
inductive ErrorClass where
  | timedOut | outOfMemory | unsupported | invalidInput
  deriving DecidableEq

/-- **An error of the plain stream interface**: a number of the host, or a class with wording. -/
inductive StandardError where
  | errno (e : Errno)
  | classified (cls : ErrorClass) (message : String)
  deriving DecidableEq

/-- **What the plain interface keeps of an error**: its cause, not the count of bytes. -/
def ChannelError.toStandard (e : ChannelError) : StandardError :=
  match e with
  | .os number _ => .errno number
  | .timedOut _ => .classified .timedOut e.message
  | .outOfMemory => .classified .outOfMemory e.message
  | .unsupported => .classified .unsupported e.message
  | .invalidArgument _ => .classified .invalidInput e.message

end BufferedChannels
