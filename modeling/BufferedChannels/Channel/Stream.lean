import BufferedChannels.Channel.Read
import BufferedChannels.Channel.Write
import BufferedChannels.Channel.Position

/-!
# Channel/Stream — the plain stream interface

Reading, writing and repositioning as any byte stream has them: without deadlines, and with errors
that carry no count of bytes.  A read brings **at least one byte** before the end of the stream, and
a repositioning flushes first.
-/

namespace BufferedChannels

/-- **Where to move to**: from the start, from where the caller stands, or from the end. -/
inductive SeekTarget where
  | start (position : Nat)
  | current (delta : Int)
  | finish (delta : Int)
  deriving DecidableEq

namespace Channel

variable {κ : Type} [Host κ]

/-- Reads at least one byte and at most `len`. -/
def readSome (c : Channel) (len : Nat) : Act κ (Except StandardError Bytes × Channel) := do
  if len = 0 then return (.ok [], c)
  let (reading, c) ← c.readBetween len 1 len .never
  match reading.error? with
  | none => return (.ok reading.bytes, c)
  | some e => return (.error e.toStandard, c)

/-- Accepts all of the data or fails. -/
def writeAll (c : Channel) (data : Bytes) : Act κ (Except StandardError Nat × Channel) := do
  let (result, c) ← c.write data .never
  return (result.mapError ChannelError.toStandard, c)

/-- Sends every pending byte. -/
def flushAll (c : Channel) : Act κ (Except StandardError Unit × Channel) := do
  let (result, c) ← c.flush .never
  return (result.mapError ChannelError.toStandard, c)

/-- A position moved by a signed distance, if that is a 64-bit position again. -/
def shifted? (position : Nat) (delta : Int) : Option Nat :=
  let target := (position : Int) + delta
  if 0 ≤ target ∧ target < UInt64.size then some target.toNat else none

/-- The position that a target names; nothing if there is no such position. -/
def targetPosition (c : Channel) : SeekTarget → Act κ (Except ChannelError (Option Nat))
  | .start n => return .ok (some n)
  | .current delta => return (← c.tell).map fun here => shifted? here delta
  | .finish delta => return (← c.size).map fun stop => shifted? stop delta

/-- **Repositions** after flushing what is pending. -/
def reposition (c : Channel) (target : SeekTarget) :
    Act κ (Except StandardError Nat × Channel) := do
  match ← c.flush .never with
  | (.error e, c) => return (.error e.toStandard, c)
  | (.ok _, c) =>
    match ← c.targetPosition target with
    | .error e => return (.error e.toStandard, c)
    | .ok none =>
      return (.error (.classified .invalidInput "seek to a negative or overflowing position"), c)
    | .ok (some position) =>
      let (result, c) ← c.seek position
      return (result.mapError ChannelError.toStandard, c)

end Channel

end BufferedChannels
