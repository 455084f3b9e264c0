import BufferedChannels.Waiter.Wait

/-!
# Channel/Suspend — what a channel does when a call would block

A regular file or directory is **always ready**, so the call is made again at once; on anything else
the channel waits through its waiter.
-/

namespace BufferedChannels.Channel

variable {κ : Type} [Host κ]

/-- **What to do when a call would block**: on a regular file or directory, call again at once; on
anything else, wait.  Tells whether to go on.  A waiter that wakes for the wrong direction is
fatal. -/
def mayRetry (c : Channel) (direction : Direction) (deadline : Deadline) : Act κ Bool := do
  if c.kind.alwaysReady then return true
  match ← Act.leaving c (c.waiter.wait c.fd direction deadline) with
  | .timedOut => return false
  | .ready got =>
    Act.require (got = direction) s!"fd {c.fd}: waited for {direction.name}, woke for {got.name}"
    return true

end BufferedChannels.Channel
