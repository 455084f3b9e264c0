import Mathlib
import BufferedChannels.Proofs.Attempts
import BufferedChannels.Simulation.Kernel

/-!
# Proofs/Milliseconds — the timeout of a poll, to the millisecond

A poll waits for whole milliseconds, so what is left of a deadline is rounded up, and no timeout is
longer than `longestPoll`.  The count of whole milliseconds is cut to 64 bits before it is compared
with what is left, and **the rounding is exact nevertheless** (`pollMilliseconds_eq`): where the cut
changes the count, the longest timeout is due in any case.  `Span.pollMilliseconds` is the same
computation on machine words of the widths that it takes.
-/

namespace BufferedChannels

open Deadline

/-! ## Rounding up -/

/-- **A rounded-up quotient is at most so many milliseconds** when the duration is. -/
theorem ceil_milliseconds_le {duration ms : Nat} :
    ⌈(duration : ℚ) / millisecond⌉₊ ≤ ms ↔ duration ≤ ms * millisecond := by
  have unit : (0 : ℚ) < millisecond := by norm_num [millisecond]
  rw [Nat.ceil_le, div_le_iff₀ unit]
  exact_mod_cast Iff.rfl

/-- **The timeout of a poll is exact**: milliseconds rounded up, or the longest timeout. -/
theorem pollMilliseconds_eq (duration : Nat) :
    pollMilliseconds duration = min ⌈(duration : ℚ) / millisecond⌉₊ longestPoll := by
  refine eq_of_forall_ge_iff fun ms => ?_
  have parts := Nat.div_add_mod duration millisecond
  have rest := Nat.mod_lt duration (show 0 < millisecond by decide)
  rw [min_le_iff, ceil_milliseconds_le, pollMilliseconds, min_le_iff]
  generalize duration / millisecond = whole at *
  by_cases short : whole % UInt64.size * millisecond < duration
  · rw [if_pos short]
    simp only [millisecond, longestPoll, UInt64.size] at *
    omega
  · rw [if_neg short]
    simp only [millisecond, longestPoll, UInt64.size] at *
    omega

theorem pollMilliseconds_le_iff {duration ms : Nat} (short : ms < longestPoll) :
    pollMilliseconds duration ≤ ms ↔ duration ≤ ms * millisecond := by
  rw [pollMilliseconds_eq, min_le_iff, ceil_milliseconds_le, or_iff_left (Nat.not_le.2 short)]

theorem pollMilliseconds_le (duration : Nat) : pollMilliseconds duration ≤ longestPoll :=
  Nat.min_le_right _ _

theorem pollMilliseconds_mono : Monotone pollMilliseconds := fun shorter longer le => by
  rw [pollMilliseconds_eq, pollMilliseconds_eq]
  exact min_le_min_right _ (Nat.ceil_mono (by gcongr))

theorem pollMilliseconds_eq_zero {duration : Nat} :
    pollMilliseconds duration = 0 ↔ duration = 0 := by
  rw [← Nat.le_zero, pollMilliseconds_le_iff (by decide), Nat.zero_mul, Nat.le_zero]

/-- **The timeout of a poll covers what remains**, up to the longest timeout there is. -/
theorem min_le_pollMilliseconds (duration : Nat) :
    min duration (longestPoll * millisecond) ≤ pollMilliseconds duration * millisecond := by
  rcases (pollMilliseconds_le duration).eq_or_lt with longest | short
  · rw [longest]
    exact min_le_right _ _
  · exact min_le_of_left_le ((pollMilliseconds_le_iff short).1 le_rfl)

/-- **A poll's timeout exceeds what is left by less than a millisecond.** -/
theorem pollMilliseconds_lt (duration : Nat) :
    pollMilliseconds duration * millisecond < duration + millisecond := by
  have most := pollMilliseconds_le duration
  rcases is : pollMilliseconds duration with _ | ms
  · rw [Nat.zero_mul]
    exact Nat.add_pos_right _ (by decide)
  · -- A millisecond less would not cover what is left.
    have less : ¬ duration ≤ ms * millisecond := fun covers => by
      have := (pollMilliseconds_le_iff (by omega)).2 covers
      omega
    rw [Nat.succ_mul]
    omega

/-! ## Machine words -/

/-- **A span of time in machine words**: whole seconds, and the nanoseconds of the last. -/
structure Span where
  seconds : UInt64
  nanos : UInt32
  nanos_lt : nanos.toNat < second

namespace Span

/-- The nanoseconds of a span. -/
def toNat (d : Span) : Nat := d.seconds.toNat * second + d.nanos.toNat

/-- Its whole milliseconds, counted in 128 bits. -/
def milliseconds (d : Span) : BitVec 128 :=
  d.seconds.toBitVec.setWidth 128 * 1000 + (d.nanos / 1000000).toBitVec.setWidth 128

theorem toNat_lastNanos (ms : UInt64) :
    ((ms % 1000).toUInt32 * 1000000).toNat = ms.toNat % 1000 * 1000000 := by
  have last := Nat.mod_lt ms.toNat (show 0 < 1000 by decide)
  rw [UInt32.toNat_mul, UInt64.toNat_toUInt32, UInt64.toNat_mod, Nat.mod_mul_mod]
  exact Nat.mod_eq_of_lt (by simp only [UInt64.reduceToNat, UInt32.reduceToNat]; omega)

/-- The span of so many milliseconds. -/
def ofMilliseconds (ms : UInt64) : Span where
  seconds := ms / 1000
  nanos := (ms % 1000).toUInt32 * 1000000
  nanos_lt := by
    have last := Nat.mod_lt ms.toNat (show 0 < 1000 by decide)
    rw [toNat_lastNanos, second]
    omega

/-- **The order of spans**: seconds count first. -/
def isLess (a b : Span) : Bool :=
  a.seconds < b.seconds || (a.seconds == b.seconds && a.nanos < b.nanos)

/-- **Milliseconds to wait**, in words: the count is cut to 64 bits for the comparison, and what 31
bits do not hold is replaced by the longest timeout. -/
def pollMilliseconds (d : Span) : Nat :=
  let ms := d.milliseconds
  let rounded := if (ofMilliseconds ⟨ms.setWidth 64⟩).isLess d then ms + 1 else ms
  if rounded.toNat < 2 ^ 31 then rounded.toNat else longestPoll

variable (d : Span)

/-- **A span has fewer milliseconds** than 128 bits count. -/
theorem milliseconds_lt : d.toNat / millisecond + 1 < 2 ^ 128 := by
  have seconds := d.seconds.toNat_lt
  have nanos := d.nanos_lt
  simp only [toNat, second, millisecond] at *
  omega

theorem toNat_milliseconds : d.milliseconds.toNat = d.toNat / millisecond := by
  have few := Nat.lt_of_succ_lt d.milliseconds_lt
  have parts : d.toNat / millisecond = d.seconds.toNat * 1000 + d.nanos.toNat / millisecond := by
    rw [toNat, second, millisecond]
    omega
  have seconds : (d.seconds.toBitVec.setWidth 128 * 1000).toNat = d.seconds.toNat * 1000 := by
    have wide : (d.seconds.toBitVec.setWidth 128).toNat = d.seconds.toNat :=
      BitVec.toNat_setWidth_of_le (by decide)
    rw [BitVec.toNat_mul_of_lt] <;> rw [wide]
    · rfl
    · exact (Nat.le_add_right _ _).trans_lt (parts ▸ few)
  have last : ((d.nanos / 1000000).toBitVec.setWidth 128).toNat = d.nanos.toNat / millisecond :=
    (BitVec.toNat_setWidth_of_le (by decide)).trans (UInt32.toNat_div ..)
  rw [milliseconds, BitVec.toNat_add_of_lt] <;> rw [seconds, last]
  · exact parts.symm
  · exact parts ▸ few

theorem toNat_ofMilliseconds (ms : UInt64) :
    (ofMilliseconds ms).toNat = ms.toNat * millisecond := by
  have parts := Nat.div_add_mod ms.toNat 1000
  rw [toNat, ofMilliseconds, toNat_lastNanos, UInt64.toNat_div, second, millisecond]
  simp only [UInt64.reduceToNat]
  omega

theorem isLess_iff {a b : Span} : a.isLess b = true ↔ a.toNat < b.toNat := by
  have first := a.nanos_lt
  have last := b.nanos_lt
  simp only [isLess, toNat, second, Bool.or_eq_true, Bool.and_eq_true, decide_eq_true_eq,
    beq_iff_eq, UInt64.lt_iff_toNat_lt, UInt32.lt_iff_toNat_lt, ← UInt64.toNat_inj] at *
  omega

/-- **Machine words compute the timeout of a poll**, and none of them overflows. -/
theorem pollMilliseconds_eq : d.pollMilliseconds = BufferedChannels.pollMilliseconds d.toNat := by
  have cut : (ofMilliseconds ⟨d.milliseconds.setWidth 64⟩).toNat =
      d.toNat / millisecond % UInt64.size * millisecond := by
    rw [toNat_ofMilliseconds, ← toNat_milliseconds]
    exact congrArg (· * millisecond) (BitVec.toNat_setWidth ..)
  have less : (ofMilliseconds ⟨d.milliseconds.setWidth 64⟩).isLess d = true ↔
      d.toNat / millisecond % UInt64.size * millisecond < d.toNat := by rw [isLess_iff, cut]
  have up : (d.milliseconds + 1).toNat = d.toNat / millisecond + 1 := by
    rw [← toNat_milliseconds]
    refine BitVec.toNat_add_of_lt ?_
    rw [toNat_milliseconds]
    exact d.milliseconds_lt
  have least (n : Nat) : (if n < 2 ^ 31 then n else longestPoll) = min n longestPoll := by
    rw [longestPoll]
    split <;> omega
  rw [pollMilliseconds, BufferedChannels.pollMilliseconds, least]
  simp only [less, apply_ite BitVec.toNat, up, toNat_milliseconds]

end Span

/-! ## Timeouts of polls -/

/-- **The timeout that a poll is given** for what is left of a deadline, where `make` turns a number
of milliseconds into a timeout, which may be one without end, or refuses it; what it refuses is
replaced by the longest timeout. -/
def Deadline.timeout (make : Int → Option (Option Nat)) (d : Deadline) (now : Nat) : Option Nat :=
  match (d.left? now).map pollMilliseconds with
  | none => none
  | some ms => (make ms).getD (some longestPoll)

/-- **A conversion that accepts every number of 31 bits** changes no timeout. -/
theorem Deadline.timeout_eq {make : Int → Option (Option Nat)}
    (accepts : ∀ ms : Nat, ms < 2 ^ 31 → make ms = some (some ms)) (d : Deadline) (now : Nat) :
    d.timeout make now = (d.left? now).map pollMilliseconds := by
  rw [timeout]
  cases d.left? now with
  | none => rfl
  | some left =>
    have fits : pollMilliseconds left < 2 ^ 31 := Nat.lt_succ_of_le (pollMilliseconds_le left)
    dsimp only [Option.map_some]
    rw [accepts _ fits]
    rfl

namespace Waiter

variable {κ : Type} [Host κ]

/-- **Every exchange is a poll** for what is left of the deadline at some time. -/
def Polls (fd : Int) (direction : Direction) (deadline : Deadline) (es : Dialogue) : Prop :=
  ∀ e ∈ es, ∃ now reply, e = pollAt fd direction deadline now reply

theorem Polls.concat {fd : Int} {direction : Direction} {deadline : Deadline} {es : Dialogue}
    (h : Polls fd direction deadline es) (now : Nat) (reply : Polled) :
    Polls fd direction deadline (es ++ [pollAt fd direction deadline now reply]) := fun e mem =>
  (List.mem_append.1 mem).elim (h e) fun last => ⟨now, reply, List.mem_singleton.1 last⟩

/-- **A thread that waits makes polls only**, whether the wait ends or not. -/
theorem wait_polls (scope : Scope) (fd : Int) (direction : Direction) (deadline : Deadline)
    (s : System κ) :
    ((polling scope).wait fd direction deadline).Ensures s
      (fun es _ _ => Polls fd direction deadline es)
      (fun es _ _ => Polls fd direction deadline es) := by
  unfold wait
  dsimp only
  split
  · exact Act.ensures_throw (List.forall_mem_nil _)
  refine Act.ensures_loop (fun es _ _ => Polls fd direction deadline es)
    (List.forall_mem_nil _) fun es _ s' _ before => ?_
  refine pollTurn_ensures (P := fun _ _ => True) (fun _ _ => ?_) (fun _ _ _ _ _ => trivial)
    (fun _ _ => before.concat _ _) (fun _ _ => before.concat _ _) (fun _ _ => before.concat _ _)
    (fun _ _ _ _ _ => before.concat _ _) (fun _ _ _ _ => before.concat _ _)
    fun _ _ _ _ _ => before.concat _ _
  rwa [List.append_nil]

end Waiter

variable {κ : Type} [Host κ]

/-- **The timeout of a poll is exact.**  For every span of time it is the number of milliseconds
rounded up, or the longest timeout of 31 bits, also where words of 64 bits cannot count the
milliseconds.  So it grows with the span, is zero for none only, never falls short of the span
unless it is the longest, and exceeds it by less than a millisecond.  Where every number of 31 bits
can be made a timeout, **a deadline other than `never` gives polls that end**: so is every poll of
every wait for it. -/
theorem pollMilliseconds_exact {make : Int → Option (Option Nat)}
    (accepts : ∀ ms : Nat, ms < 2 ^ 31 → make ms = some (some ms)) :
    (∀ d : Span, d.pollMilliseconds = pollMilliseconds d.toNat ∧
      d.pollMilliseconds = min ⌈(d.toNat : ℚ) / millisecond⌉₊ (2 ^ 31 - 1)) ∧
    Monotone pollMilliseconds ∧
    (∀ duration, pollMilliseconds duration = 0 ↔ duration = 0) ∧
    (∀ duration, pollMilliseconds duration ≠ 2 ^ 31 - 1 →
      duration ≤ pollMilliseconds duration * millisecond) ∧
    (∀ duration, pollMilliseconds duration * millisecond < duration + millisecond) ∧
    ∀ deadline : Deadline, deadline ≠ .never →
      (∀ now, ∃ ms < 2 ^ 31, deadline.timeout make now = some ms) ∧
      ∀ scope fd direction (s : System κ), ∃ es : Dialogue,
        (((Waiter.polling scope).wait fd direction deadline).runOn s).2.trace =
          es.reverse ++ s.trace ∧
        ∀ e ∈ es, ∃ now reply, e = ⟨.poll fd direction (deadline.timeout make now), reply⟩ := by
  refine ⟨fun d => ⟨d.pollMilliseconds_eq, d.pollMilliseconds_eq.trans (pollMilliseconds_eq _)⟩,
    pollMilliseconds_mono, fun _ => pollMilliseconds_eq_zero, fun duration short => ?_,
    pollMilliseconds_lt, fun deadline limited => ⟨fun now => ?_, fun scope fd direction s => ?_⟩⟩
  · exact (pollMilliseconds_le_iff ((pollMilliseconds_le duration).lt_of_ne short)).1 le_rfl
  · obtain ⟨_ | instant⟩ := deadline
    · exact absurd rfl limited
    · exact ⟨pollMilliseconds (instant - now), Nat.lt_succ_of_le (pollMilliseconds_le _),
        Deadline.timeout_eq accepts _ now⟩
  · obtain ⟨es, outcome, s', run, reaches, polls⟩ :=
      Waiter.wait_polls scope fd direction deadline s
    rw [run]
    refine ⟨es, reaches.trace, fun e mem => ?_⟩
    have polled : Waiter.Polls fd direction deadline es := by cases outcome <;> exact polls
    obtain ⟨now, reply, rfl⟩ := polled e mem
    exact ⟨now, reply, by rw [Deadline.timeout_eq accepts]; rfl⟩

/-- A conversion as of a signed word: −1 stands for no end, and other negative numbers are
refused. -/
def signedTimeout (ms : Int) : Option (Option Nat) :=
  if ms < -1 ∨ 2 ^ 31 ≤ ms then none else if ms = -1 then some none else some (some ms.toNat)

theorem signedTimeout_accepts (ms : Nat) (fits : ms < 2 ^ 31) :
    signedTimeout ms = some (some ms) := by
  rw [signedTimeout, if_neg (by omega), if_neg (by omega), Int.toNat_natCast]

/-- One and a half milliseconds are rounded up to two, and a deadline that has passed gives a poll
that ends at once. -/
theorem pollMilliseconds_exact_signed :
    (∀ ms : Nat, ms < 2 ^ 31 → signedTimeout ms = some (some ms)) ∧
      Span.pollMilliseconds ⟨0, 1500000, by decide⟩ = 2 ∧
      ∃ ms < 2 ^ 31, (Deadline.ofInstant 5).timeout signedTimeout 9 = some ms := by
  obtain ⟨exact_, -, -, -, -, ends⟩ :=
    pollMilliseconds_exact (κ := Simulation.Kernel) signedTimeout_accepts
  have up : ⌈(1500000 : ℚ) / 1000000⌉₊ = 2 := by
    rw [Nat.ceil_eq_iff (by decide)]
    norm_num
  exact ⟨signedTimeout_accepts, (exact_ _).2.trans (congrArg (min · (2 ^ 31 - 1)) up),
    (ends (.ofInstant 5) nofun).1 9⟩

end BufferedChannels
