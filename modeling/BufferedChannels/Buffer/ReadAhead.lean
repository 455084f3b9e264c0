import BufferedChannels.Bytes
import BufferedChannels.Error
import BufferedChannels.Buffer.Fault

/-!
# Buffer/ReadAhead — bytes read ahead of the caller

A `ReadAhead` is a block of fixed length with a window of **live** bytes, those read from the
descriptor and not yet handed on.  The window moves to the right as bytes are taken and returns to
the left end when it runs dry; a refill writes from the left end and needs an empty window.
-/

namespace BufferedChannels

/-- The longest block that can be asked for. -/
def maxBlock : Nat := 0x7fffffffffffffff

/-- **A read-ahead buffer**: the live bytes are the `len` bytes of `block` from `start` on. -/
structure ReadAhead where
  /-- Everything that was ever written into the buffer, live or stale. -/
  block : Bytes
  start : Nat
  len : Nat
  deriving DecidableEq

namespace ReadAhead

/-- An empty buffer over a zeroed block. -/
def new (capacity : Nat) : Except ChannelError ReadAhead :=
  if capacity ≤ maxBlock then .ok ⟨List.replicate capacity 0, 0, 0⟩ else .error .outOfMemory

/-- Length of the block. -/
def capacity (b : ReadAhead) : Nat := b.block.length

/-- Whether nothing is buffered. -/
def isEmpty (b : ReadAhead) : Bool := b.len == 0

/-- **The view**: the bytes read ahead, oldest first. -/
def live (b : ReadAhead) : Bytes := Bytes.slice b.block b.start b.len

/-- The window lies inside the block, and an empty one at its left end. -/
structure WellFormed (b : ReadAhead) : Prop where
  window_le : b.start + b.len ≤ b.capacity
  start_eq_zero : b.len = 0 → b.start = 0

/-- Moves the left end of the window over `n` bytes. -/
def dropLive (b : ReadAhead) (n : Nat) : Except BufferFault ReadAhead :=
  if n ≤ b.len then
    .ok { b with start := if b.len - n = 0 then 0 else b.start + n, len := b.len - n }
  else .error (.dropPastLive n b.len)

/-- **Takes** up to `wanted` live bytes, oldest first. -/
def take (b : ReadAhead) (wanted : Nat) : Except BufferFault (Bytes × ReadAhead) :=
  let n := min b.len wanted
  if b.start + n ≤ b.capacity then
    (b.dropLive n).map fun rest => (Bytes.slice b.block b.start n, rest)
  else .error (.sliceEnd (b.start + n) b.capacity)

/-- **Makes ready for a refill**, which may use the whole block. -/
def beginRefill (b : ReadAhead) : Except BufferFault ReadAhead :=
  if b.isEmpty then .ok { b with start := 0 } else .error (.refillOverLive b.len)

/-- **Declares** the first `n` bytes of the block live, whatever they are. -/
def declare (b : ReadAhead) (n : Nat) : Except BufferFault ReadAhead :=
  if n ≤ b.capacity then .ok { b with start := 0, len := n }
  else .error (.fillPastCapacity n b.capacity)

/-- **Loads** the bytes that a refill brought. -/
def load (b : ReadAhead) (bytes : Bytes) : Except BufferFault ReadAhead :=
  (b.declare bytes.length).map fun filled =>
    { filled with block := Bytes.overwrite b.block 0 bytes }

/-- Forgets the live bytes. -/
def clear (b : ReadAhead) : ReadAhead := { b with start := 0, len := 0 }

/-! ## The live bytes under each operation -/

theorem length_live {b : ReadAhead} (h : b.WellFormed) : b.live.length = b.len :=
  Bytes.length_slice h.window_le

theorem live_eq_nil_iff {b : ReadAhead} (h : b.WellFormed) : b.live = [] ↔ b.len = 0 := by
  rw [← length_live h, List.length_eq_zero_iff]

@[simp] theorem live_clear (b : ReadAhead) : b.clear.live = [] := by
  simp [clear, live, Bytes.slice]

theorem wellFormed_clear (b : ReadAhead) : b.clear.WellFormed :=
  ⟨Nat.zero_le _, fun _ => rfl⟩

/-- **Taking hands on the oldest live bytes and keeps the rest**, and within the rules it never
fails. -/
theorem take_eq {b : ReadAhead} (h : b.WellFormed) (wanted : Nat) :
    ∃ rest, b.take wanted = .ok (b.live.take wanted, rest) ∧ rest.live = b.live.drop wanted ∧
      rest.capacity = b.capacity ∧ rest.WellFormed := by
  have hw : b.start + b.len ≤ b.block.length := h.window_le
  have hs : b.start + min b.len wanted ≤ b.capacity := by
    simp only [capacity]
    omega
  refine ⟨{ b with
    start := if b.len - min b.len wanted = 0 then 0 else b.start + min b.len wanted
    len := b.len - min b.len wanted }, ?_, ?_, rfl, ?_, fun hz => if_pos hz⟩
  · have ht : b.live.take wanted = Bytes.slice b.block b.start (min b.len wanted) := by
      rw [live, Bytes.slice, List.take_take, Nat.min_comm, Bytes.slice]
    simp only [take, dropLive, if_pos hs, if_pos (Nat.min_le_left b.len wanted), ht]
    rfl
  · by_cases h0 : b.len ≤ wanted
    · have hz : b.len - min b.len wanted = 0 := by omega
      simp only [live, Bytes.slice, hz, List.take_zero]
      refine (List.drop_eq_nil_of_le ?_).symm
      simp only [List.length_take]
      omega
    · have hm : min b.len wanted = wanted := by omega
      simp only [live, Bytes.slice, hm, if_neg (show ¬ b.len - wanted = 0 by omega),
        List.drop_take, List.drop_drop]
  · show (if b.len - min b.len wanted = 0 then 0 else b.start + min b.len wanted) +
      (b.len - min b.len wanted) ≤ b.block.length
    split <;> omega

/-- **An empty buffer is ready for a refill**, and stays empty until then. -/
theorem beginRefill_eq {b : ReadAhead} (wf : b.WellFormed) (empty : b.live = []) :
    ∃ slot, b.beginRefill = .ok slot ∧ slot.live = [] ∧ slot.capacity = b.capacity ∧
      slot.WellFormed := by
  have len : b.len = 0 := (live_eq_nil_iff wf).1 empty
  refine ⟨{ b with start := 0 }, ?_, ?_, rfl, ⟨?_, fun _ => rfl⟩⟩
  · rw [beginRefill, isEmpty, len]
    rfl
  · rw [live, len]
    exact List.take_zero
  · show 0 + b.len ≤ b.capacity
    omega

/-- Making ready for a refill keeps the block. -/
theorem capacity_of_beginRefill {b slot : ReadAhead} (h : b.beginRefill = .ok slot) :
    slot.capacity = b.capacity := by
  rw [beginRefill] at h
  split at h
  · cases h
    rfl
  · cases h

/-- **A refill replaces the live bytes** by those it brought, as long as the block holds them. -/
theorem load_eq {b : ReadAhead} {bytes : Bytes} (h : bytes.length ≤ b.capacity) :
    ∃ full, b.load bytes = .ok full ∧ full.live = bytes ∧ full.capacity = b.capacity ∧
      full.WellFormed := by
  have hl : 0 + bytes.length ≤ b.block.length := by
    rw [Nat.zero_add]
    exact h
  have hc := Bytes.length_overwrite hl
  refine ⟨⟨Bytes.overwrite b.block 0 bytes, 0, bytes.length⟩, ?_, ?_, hc, ?_, fun _ => rfl⟩
  · simp only [load, declare, if_pos h]
    rfl
  · simp [live, Bytes.slice, Bytes.overwrite]
  · show 0 + bytes.length ≤ (Bytes.overwrite b.block 0 bytes).length
    rw [hc]
    exact hl

/-- A refill that the block cannot hold breaks a rule. -/
theorem length_le_of_load {b full : ReadAhead} {bytes : Bytes} (h : b.load bytes = .ok full) :
    bytes.length ≤ b.capacity := by
  rw [load, declare] at h
  split at h
  · next le => exact le
  · cases h

end ReadAhead

end BufferedChannels
