import BufferedChannels.System

/-!
# Waiter/Wait — suspending, and noting who owns a descriptor

A poll's timeout is computed anew from the absolute deadline after every interruption, so signals do
not stretch a wait.  A scheduler is asked once and says how the wait ended.
-/

namespace BufferedChannels

namespace Waiter

variable {κ : Type} [Host κ]

/-- What trace lines say of a wait. -/
def describeWait (fd : Int) (direction : Direction) (deadline : Deadline) : String :=
  s!"poll fd {fd} {direction.name} deadline {deadline.describe}"

/-- **One poll.**  An interruption before the deadline asks for another, and an error counts as
ready, because the call that is made next reports it. -/
def pollTurn (fd : Int) (direction : Direction) (deadline : Deadline) (_ : Unit) :
    Act κ (Unit ⊕ WaitOutcome) := do
  let timeout := (deadline.left? (← Act.now)).map pollMilliseconds
  Act.log .trace (describeWait fd direction deadline)
  match ← Act.call (.poll fd direction timeout) with
  | .ready => return .inr (.ready direction)
  | .timedOut => return .inr .timedOut
  | .never => Act.endless
  | .failed e =>
    if e.recognized = .interrupted then
      if deadline.hasPassed (← Act.now) then return .inr .timedOut
      return .inl ()
    Act.log .warn s!"poll on fd {fd} failed: {e.recognized.describe}"
    return .inr (.ready direction)

/-- The number that stands for no descriptor. -/
def noDescriptor : Int := -1

/-- **Waits** until a descriptor is ready for a direction or the deadline has passed.  A thread must
not poll `noDescriptor`. -/
def wait (w : Waiter) (fd : Int) (direction : Direction) (deadline : Deadline) :
    Act κ WaitOutcome :=
  match w with
  | .polling _ =>
    if fd = noDescriptor then Act.fault "fd != -1"
    else Act.loop (pollTurn fd direction deadline) ()
  | .scheduled _ => do
    Act.call (.wait fd direction (deadline.left? (← Act.now)))

/-- Notes that a channel takes a descriptor. -/
def claim (w : Waiter) (fd : Int) : Act κ Unit := do
  match w with
  | .polling scope => let _ ← Act.claimIn scope fd
  | .scheduled true => let _ ← Act.call (.claim fd)
  | .scheduled false => return ()

/-- Notes that a channel gives a descriptor up. -/
def release (w : Waiter) (fd : Int) : Act κ Unit := do
  match w with
  | .polling scope => let _ ← Act.releaseIn scope fd
  | .scheduled true => let _ ← Act.call (.release fd)
  | .scheduled false => return ()

end Waiter

end BufferedChannels
