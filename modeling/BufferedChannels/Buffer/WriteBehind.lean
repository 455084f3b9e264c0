import BufferedChannels.Bytes
import BufferedChannels.Error
import BufferedChannels.Buffer.ReadAhead

/-!
# Buffer/WriteBehind — bytes accepted but not yet sent

A `WriteBehind` is a block of fixed length whose first `len` bytes are **pending**: taken from the
caller and not yet sent.  `append` puts more behind them, and `dropSent` drops what was sent and
moves the rest to the front.
-/

namespace BufferedChannels

/-- **A write-behind buffer**: the pending bytes are the first `len` bytes of `block`. -/
structure WriteBehind where
  /-- Everything that was ever written into the buffer, pending or stale. -/
  block : Bytes
  len : Nat
  deriving DecidableEq

namespace WriteBehind

/-- An empty buffer over a zeroed block. -/
def new (capacity : Nat) : Except ChannelError WriteBehind :=
  if capacity ≤ maxBlock then .ok ⟨List.replicate capacity 0, 0⟩ else .error .outOfMemory

/-- Length of the block. -/
def capacity (b : WriteBehind) : Nat := b.block.length

/-- Whether nothing is pending. -/
def isEmpty (b : WriteBehind) : Bool := b.len == 0

/-- **The view**: the pending bytes in the order in which they came. -/
def pending (b : WriteBehind) : Bytes := b.block.take b.len

/-- The pending bytes lie inside the block. -/
def WellFormed (b : WriteBehind) : Prop := b.len ≤ b.capacity

/-- Whether `n` more bytes fit. -/
def hasRoom (b : WriteBehind) (n : Nat) : Bool := n ≤ b.capacity - b.len

/-- **Appends** bytes that fit. -/
def append (b : WriteBehind) (bytes : Bytes) : Except BufferFault WriteBehind :=
  if b.hasRoom bytes.length then
    .ok ⟨Bytes.overwrite b.block b.len bytes, b.len + bytes.length⟩
  else .error (.pushPastCapacity bytes.length b.len b.capacity)

/-- **Drops** the first `n` pending bytes; the rest moves to the front. -/
def dropSent (b : WriteBehind) (n : Nat) : Except BufferFault WriteBehind :=
  if n ≤ b.len then
    .ok ⟨Bytes.overwrite b.block 0 (Bytes.slice b.block n (b.len - n)), b.len - n⟩
  else .error (.consumePastPending n b.len)

/-- Forgets the pending bytes. -/
def clear (b : WriteBehind) : WriteBehind := { b with len := 0 }

/-! ## The pending bytes under each operation -/

theorem length_pending {b : WriteBehind} (h : b.WellFormed) : b.pending.length = b.len := by
  simp only [pending, List.length_take]
  exact Nat.min_eq_left h

@[simp] theorem pending_clear (b : WriteBehind) : b.clear.pending = [] := rfl

theorem wellFormed_clear (b : WriteBehind) : b.clear.WellFormed := Nat.zero_le _

theorem hasRoom_iff {b : WriteBehind} (h : b.WellFormed) {n : Nat} :
    b.hasRoom n = true ↔ b.len + n ≤ b.capacity := by
  have hl : b.len ≤ b.capacity := h
  simp only [hasRoom, decide_eq_true_eq]
  omega

/-- **Appending puts the bytes behind those pending.** -/
theorem append_eq {b : WriteBehind} (h : b.WellFormed) {bytes : Bytes}
    (room : b.hasRoom bytes.length = true) :
    ∃ more, b.append bytes = .ok more ∧ more.pending = b.pending ++ bytes ∧
      more.capacity = b.capacity ∧ more.WellFormed := by
  have hr := (hasRoom_iff h).1 room
  have hl : b.len ≤ b.block.length := h
  have hc : (Bytes.overwrite b.block b.len bytes).length = b.block.length :=
    Bytes.length_overwrite hr
  refine ⟨⟨Bytes.overwrite b.block b.len bytes, b.len + bytes.length⟩, if_pos room, ?_, hc, ?_⟩
  · have hp : (b.block.take b.len).length = b.len := by
      rw [List.length_take]
      omega
    simp only [pending, Bytes.overwrite]
    rw [← List.append_assoc]
    refine (List.take_append_of_le_length ?_).trans (List.take_of_length_le ?_) <;>
      simp only [List.length_append, hp] <;> omega
  · show b.len + bytes.length ≤ (Bytes.overwrite b.block b.len bytes).length
    rw [hc]
    exact hr

/-- **Dropping what was sent keeps the rest in order**, although both share a block. -/
theorem dropSent_eq {b : WriteBehind} (h : b.WellFormed) {n : Nat} (le : n ≤ b.len) :
    ∃ rest, b.dropSent n = .ok rest ∧ rest.pending = b.pending.drop n ∧
      rest.capacity = b.capacity ∧ rest.WellFormed := by
  have hl : b.len ≤ b.block.length := h
  have hs : (Bytes.slice b.block n (b.len - n)).length = b.len - n :=
    Bytes.length_slice (by omega)
  have hc : (Bytes.overwrite b.block 0 (Bytes.slice b.block n (b.len - n))).length =
      b.block.length := Bytes.length_overwrite (by omega)
  refine ⟨⟨Bytes.overwrite b.block 0 (Bytes.slice b.block n (b.len - n)), b.len - n⟩, if_pos le, ?_,
    hc, ?_⟩
  · simp only [pending, Bytes.overwrite, List.take_zero, List.nil_append]
    rw [List.take_append_of_le_length (Nat.le_of_eq hs.symm), List.take_of_length_le (by omega),
      Bytes.slice, List.drop_take]
  · show b.len - n ≤ (Bytes.overwrite b.block 0 _).length
    rw [hc]
    omega

end WriteBehind

end BufferedChannels
