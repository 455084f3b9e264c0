/-!
# Buffer/Fault — broken rules of the two buffers

Every move of a buffer's cursors is held against its block.  A fault is a mistake of whoever moves
them, not of the caller of a channel, and leaves the buffer as it was.
-/

namespace BufferedChannels

/-- **A broken rule of a buffer.** -/
inductive BufferFault where
  /-- A refill while bytes are still buffered. -/
  | refillOverLive (live : Nat)
  /-- More bytes declared filled than the block holds. -/
  | fillPastCapacity (count capacity : Nat)
  /-- More bytes taken than are buffered. -/
  | dropPastLive (count live : Nat)
  /-- A part of a block that ends behind it. -/
  | sliceEnd (stop capacity : Nat)
  /-- A part of a block that begins behind it. -/
  | sliceStart (start length : Nat)
  /-- A part of a block that ends before it begins. -/
  | sliceOrder (start stop : Nat)
  /-- More bytes pushed than fit. -/
  | pushPastCapacity (count pending capacity : Nat)
  /-- More bytes consumed than are pending. -/
  | consumePastPending (count pending : Nat)
  deriving DecidableEq

/-- **The wording of a fault.** -/
def BufferFault.message : BufferFault → String
  | .refillOverLive live => s!"input refill over {live} live bytes"
  | .fillPastCapacity count capacity => s!"input fill {count} exceeds capacity {capacity}"
  | .dropPastLive count live => s!"input advance {count} past {live} live bytes"
  | .sliceEnd stop capacity =>
    s!"range end index {stop} out of range for slice of length {capacity}"
  | .sliceStart start length =>
    s!"range start index {start} out of range for slice of length {length}"
  | .sliceOrder start stop => s!"slice index starts at {start} but ends at {stop}"
  | .pushPastCapacity count pending capacity => s!"output push {count} over {pending}/{capacity}"
  | .consumePastPending count pending => s!"output consume {count} past {pending} pending bytes"

end BufferedChannels
