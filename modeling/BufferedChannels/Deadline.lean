/-!
# Deadline — a point in time after which a wait gives up

Time is read off the host's monotonic clock in nanoseconds.  A `Deadline` is absolute: an operation
that waits several times shares one budget of time.  `pollMilliseconds` rounds up to whole
milliseconds, so **a poll timeout is never shorter than the time that remains**, up to the longest
timeout there is.
-/

namespace BufferedChannels

/-- **A deadline**: an instant in nanoseconds, or none. -/
structure Deadline where
  instant? : Option Nat
  deriving DecidableEq

namespace Deadline

/-- Nanoseconds in a second. -/
def second : Nat := 1000000000
/-- Nanoseconds in a millisecond. -/
def millisecond : Nat := 1000000
/-- The last second that the clock can name. -/
def lastSecond : Nat := 0x7fffffffffffffff

/-- Wait as long as it takes. -/
def never : Deadline := ⟨none⟩

/-- Give up at an instant. -/
def ofInstant (instant : Nat) : Deadline := ⟨some instant⟩

/-- **Give up after a while**; an instant beyond the clock's range is no limit at all. -/
def after (now duration : Nat) : Deadline :=
  if (now + duration) / second ≤ lastSecond then ⟨some (now + duration)⟩ else never

/-- Whether there is no limit. -/
def isNever (d : Deadline) : Bool := d.instant?.isNone

/-- **The time that is left**; nothing when the deadline has passed. -/
def left? (d : Deadline) (now : Nat) : Option Nat := d.instant?.map (· - now)

/-- Whether the instant has come. -/
def hasPassed (d : Deadline) (now : Nat) : Bool :=
  match d.instant? with
  | some t => t ≤ now
  | none => false

/-- **The text of a deadline** in trace lines. -/
def describe (d : Deadline) : String :=
  match d.instant? with
  | some t => "Deadline(Some(Instant \x7b tv_sec: " ++ toString (t / second) ++ ", tv_nsec: "
      ++ toString (t % second) ++ " \x7d))"
  | none => "Deadline(None)"

theorem hasPassed_iff {d : Deadline} {now : Nat} :
    d.hasPassed now = true ↔ ∃ t, d.instant? = some t ∧ t ≤ now := by
  unfold hasPassed
  split <;> simp_all

end Deadline

/-- The longest poll timeout, in milliseconds. -/
def longestPoll : Nat := 0x7fffffff

/-- **Milliseconds to wait** for a duration in nanoseconds.  Whole milliseconds are counted and one
is added when the count, taken as a 64-bit word, falls short of the duration; the longest timeout
is a bound. -/
def pollMilliseconds (duration : Nat) : Nat :=
  let ms := duration / Deadline.millisecond
  let rounded := if ms % UInt64.size * Deadline.millisecond < duration then ms + 1 else ms
  min rounded longestPoll

end BufferedChannels
