/-!
# Direction — what a channel waits for and what the wait brings
-/

namespace BufferedChannels

/-- **The direction** that a descriptor is awaited for. -/
inductive Direction where
  | readable | writable
  deriving DecidableEq

namespace Direction

/-- The other direction. -/
def flip : Direction → Direction
  | .readable => .writable
  | .writable => .readable

/-- The name of a direction in messages. -/
def name : Direction → String
  | .readable => "Readable"
  | .writable => "Writable"

end Direction

/-- **The outcome of a wait.**  An error or a hang-up counts as ready: the call that is made next
tells what it is. -/
inductive WaitOutcome where
  /-- The descriptor became ready for a direction. -/
  | ready (direction : Direction)
  /-- The deadline came first. -/
  | timedOut
  deriving DecidableEq

end BufferedChannels
