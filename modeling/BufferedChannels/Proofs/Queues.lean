import Mathlib
import BufferedChannels.Buffer.WriteBehind

/-!
# Proofs/Queues — the two buffers are bounded queues

A `ReadQueue` is what a read-ahead buffer means: the bytes that are live, and what stands in the
slot that a refill writes to.  A `WriteQueue` is what a write-behind buffer means: the bytes that
are pending.  Cursors, windows and moves inside a block do not occur in them.  Each buffer
**refines** its queue (`Refines`): a move gives the same answer or breaks the same rule, and leads
to a buffer that means the queue that the move leads to.  So it is for whole runs, in which a move
that breaks a rule leaves all as it was.
-/

namespace BufferedChannels

/-! ## Machines -/

section Machines

variable {σ τ μ ε α : Type}

/-- **Makes a move**; one that breaks a rule leaves the state as it was. -/
def perform (step : σ → μ → Except ε (α × σ)) (s : σ) (move : μ) : Except ε α × σ :=
  match step s move with
  | .ok (answer, s') => (.ok answer, s')
  | .error broken => (.error broken, s)

/-- **Makes moves** one after another. -/
def performAll (step : σ → μ → Except ε (α × σ)) : σ → List μ → List (Except ε α) × σ
  | s, [] => ([], s)
  | s, move :: rest =>
    let first := perform step s move
    let others := performAll step first.2 rest
    (first.1 :: others.1, others.2)

/-- **Outcomes that agree**: the same answer in related states, or the same broken rule. -/
inductive Agree (R : σ → τ → Prop) : Except ε (α × σ) → Except ε (α × τ) → Prop where
  | answered (answer : α) {s : σ} {t : τ} (related : R s t) :
    Agree R (.ok (answer, s)) (.ok (answer, t))
  | broken (rule : ε) : Agree R (.error rule) (.error rule)

/-- **A machine refines another** if each move of both has outcomes that agree. -/
def Refines (R : σ → τ → Prop) (step : σ → μ → Except ε (α × σ)) (spec : τ → μ → Except ε (α × τ)) :
    Prop :=
  ∀ s t, R s t → ∀ move, Agree R (step s move) (spec t move)

variable {R : σ → τ → Prop} {step : σ → μ → Except ε (α × σ)} {spec : τ → μ → Except ε (α × τ)}
  {s : σ} {t : τ}

theorem Refines.perform (refines : Refines R step spec) (related : R s t) (move : μ) :
    (perform step s move).1 = (perform spec t move).1 ∧
      R (perform step s move).2 (perform spec t move).2 := by
  have agree := refines s t related move
  rw [BufferedChannels.perform, BufferedChannels.perform]
  generalize step s move = made, spec t move = meant at agree
  cases agree with
  | answered answer after => exact ⟨rfl, after⟩
  | broken rule => exact ⟨rfl, related⟩

/-- **Runs of both machines** give the same answers and break the same rules. -/
theorem Refines.performAll (refines : Refines R step spec) (related : R s t) (moves : List μ) :
    (performAll step s moves).1 = (performAll spec t moves).1 ∧
      R (performAll step s moves).2 (performAll spec t moves).2 := by
  induction moves generalizing s t with
  | nil => exact ⟨rfl, related⟩
  | cons move rest ih =>
    obtain ⟨same, after⟩ := refines.perform related move
    obtain ⟨others, last⟩ := ih after
    exact ⟨congrArg₂ List.cons same others, last⟩

end Machines

/-! ## The read-ahead buffer -/

/-- **A bounded queue that is refilled**: its bytes, oldest first, and what stands in its slot. -/
structure ReadQueue where
  queue : Bytes
  slot : Bytes
  deriving DecidableEq

/-- **A move of a read-ahead buffer.** -/
inductive ReadMove where
  /-- Taking bytes into a destination. -/
  | take (destination : Bytes)
  /-- Making ready for a refill, and writing bytes into the slot from its front. -/
  | fill (bytes : Bytes)
  /-- Declaring the first bytes of the slot live. -/
  | declare (count : Nat)
  | clear
  deriving DecidableEq

/-- **What a taking answers**: how many bytes were moved, and the destination after. -/
structure Taken where
  count : Nat
  destination : Bytes
  deriving DecidableEq

/-- **A move of the queue.**  Taking hands on as many bytes as there are and as the destination
holds, and leaves the rest of the destination alone.  The slot may be filled only while nothing is
in the queue, and only so many bytes as stand in the slot may be declared. -/
def ReadQueue.step (q : ReadQueue) : ReadMove → Except BufferFault (Option Taken × ReadQueue)
  | .take destination =>
    let taken := q.queue.take destination.length
    .ok (some ⟨min q.queue.length destination.length,
      taken ++ destination.drop taken.length⟩, { q with queue := q.queue.drop destination.length })
  | .fill bytes =>
    if q.queue ≠ [] then .error (.refillOverLive q.queue.length)
    else if bytes.length ≤ q.slot.length then
      .ok (none, { q with slot := bytes ++ q.slot.drop bytes.length })
    else .error (.sliceEnd bytes.length q.slot.length)
  | .declare count =>
    if count ≤ q.slot.length then .ok (none, { q with queue := q.slot.take count })
    else .error (.fillPastCapacity count q.slot.length)
  | .clear => .ok (none, { q with queue := [] })

namespace ReadAhead

variable {b : ReadAhead}

/-- Makes ready for a refill and **writes bytes into the slot** from its front. -/
def fill (b : ReadAhead) (bytes : Bytes) : Except BufferFault ReadAhead := do
  let slot ← b.beginRefill
  if bytes.length ≤ slot.capacity then
    return { slot with block := Bytes.overwrite slot.block 0 bytes }
  throw (.sliceEnd bytes.length slot.capacity)

/-- **A move of the buffer.** -/
def step (b : ReadAhead) : ReadMove → Except BufferFault (Option Taken × ReadAhead)
  | .take destination => do
    let (bytes, rest) ← b.take destination.length
    return (some ⟨bytes.length, Bytes.overwrite destination 0 bytes⟩, rest)
  | .fill bytes => do return (none, ← b.fill bytes)
  | .declare count => do return (none, ← b.declare count)
  | .clear => return (none, b.clear)

/-- **What the observers of a buffer show** of a queue: its bytes are the window of the block, which
lies inside the block. -/
structure Denotes (bound : Nat) (b : ReadAhead) (q : ReadQueue) : Prop where
  live : b.live = q.queue
  block : b.block = q.slot
  len : b.len = q.queue.length
  isEmpty : b.isEmpty = true ↔ q.queue = []
  capacity : b.capacity = bound
  window_le : b.start + b.len ≤ bound
  /-- The window of an empty buffer is at the left end. -/
  start_eq_zero : q.queue = [] → b.start = 0

variable {bound : Nat} {q : ReadQueue}

theorem WellFormed.denotes (h : b.WellFormed) (live : b.live = q.queue) (block : b.block = q.slot)
    (capacity : b.capacity = bound) : b.Denotes bound q := by
  refine ⟨live, block, live ▸ (length_live h).symm, ?_, capacity, capacity ▸ h.window_le,
    fun none => ?_⟩
  · rw [isEmpty, beq_iff_eq, ← live, live_eq_nil_iff h]
  · exact h.start_eq_zero ((live_eq_nil_iff h).1 (live.trans none))

theorem Denotes.wellFormed (h : b.Denotes bound q) : b.WellFormed :=
  ⟨h.capacity ▸ h.window_le, fun none => h.start_eq_zero (by
    rw [← List.length_eq_zero_iff, ← h.len, none])⟩

theorem Denotes.length_slot (h : b.Denotes bound q) : q.slot.length = b.capacity := by
  rw [← h.block, ReadAhead.capacity]

/-- Taking keeps the block. -/
theorem block_of_take {wanted : Nat} {bytes : Bytes} {rest : ReadAhead}
    (h : b.take wanted = .ok (bytes, rest)) : rest.block = b.block := by
  rw [take, dropLive, if_pos (Nat.min_le_left ..)] at h
  split at h
  · cases h
    rfl
  · cases h

/-- **Filling the slot** needs an empty buffer, and bytes that the slot holds. -/
theorem Denotes.fill (h : b.Denotes bound q) (bytes : Bytes) : b.fill bytes =
    if q.queue ≠ [] then .error (.refillOverLive q.queue.length)
    else if bytes.length ≤ q.slot.length then
      .ok { b with start := 0, block := bytes ++ q.slot.drop bytes.length }
    else .error (.sliceEnd bytes.length q.slot.length) := by
  rw [ReadAhead.fill, beginRefill, h.len, h.length_slot, ← h.block]
  by_cases empty : q.queue = []
  · rw [if_pos (h.isEmpty.2 empty), if_neg (not_not.2 empty)]
    show (if bytes.length ≤ b.capacity then _ else _) = _
    split
    · rw [← Nat.zero_add bytes.length]
      rfl
    · rfl
  · rw [if_neg (mt h.isEmpty.1 empty), if_pos empty]
    rfl

/-- A slot that was filled is the only change. -/
theorem Denotes.filled (h : b.Denotes bound q) (empty : q.queue = []) {bytes : Bytes}
    (fits : bytes.length ≤ b.capacity) :
    Denotes bound { b with start := 0, block := bytes ++ q.slot.drop bytes.length }
      { q with slot := bytes ++ q.slot.drop bytes.length } := by
  have idle : b.len = 0 := by rw [h.len, empty, List.length_nil]
  have wf : WellFormed { b with start := 0, block := bytes ++ q.slot.drop bytes.length } := by
    refine ⟨?_, fun _ => rfl⟩
    show 0 + b.len ≤ _
    omega
  refine wf.denotes ?_ rfl ?_
  · show Bytes.slice _ 0 b.len = q.queue
    rw [idle, empty]
    exact List.take_zero
  · rw [← h.capacity, ReadAhead.capacity, List.length_append, List.length_drop, h.length_slot]
    omega

/-- Bytes of the slot that were declared live are the queue. -/
theorem Denotes.declared (h : b.Denotes bound q) {count : Nat} (fits : count ≤ b.capacity) :
    Denotes bound { b with start := 0, len := count } { q with queue := q.slot.take count } := by
  have wf : WellFormed { b with start := 0, len := count } :=
    ⟨(Nat.zero_add count).symm ▸ fits, fun _ => rfl⟩
  refine wf.denotes ?_ h.block h.capacity
  rw [ReadAhead.live, h.block]
  rfl

/-- **Taking** moves what the destination holds of the queue, and the buffer keeps the rest. -/
theorem Denotes.take (h : b.Denotes bound q) (destination : Bytes) :
    Agree (Denotes bound) (b.step (.take destination)) (q.step (.take destination)) := by
  obtain ⟨rest, took, live, capacity, wf⟩ := take_eq h.wellFormed destination.length
  have block := block_of_take took
  rw [h.live] at took live
  have answer : b.step (.take destination) = .ok (some
      ⟨(q.queue.take destination.length).length,
        Bytes.overwrite destination 0 (q.queue.take destination.length)⟩, rest) := by
    rw [ReadAhead.step, took]
    rfl
  have count : (q.queue.take destination.length).length =
      min q.queue.length destination.length := by
    rw [List.length_take, Nat.min_comm]
  have written : Bytes.overwrite destination 0 (q.queue.take destination.length) =
      q.queue.take destination.length ++
        destination.drop (q.queue.take destination.length).length := by
    rw [Bytes.overwrite, Nat.zero_add]
    rfl
  rw [answer, count, written]
  exact .answered _ (wf.denotes live (block.trans h.block) (capacity.trans h.capacity))

/-- **Each move of the buffer is a move of the queue.** -/
theorem Denotes.step (h : b.Denotes bound q) (move : ReadMove) :
    Agree (Denotes bound) (b.step move) (q.step move) := by
  cases move with
  | take destination => exact h.take destination
  | fill bytes =>
    rw [ReadAhead.step, h.fill, ReadQueue.step, h.length_slot]
    by_cases empty : q.queue = []
    · rw [if_neg (not_not.2 empty), if_neg (not_not.2 empty)]
      split
      · next fits => exact .answered none (h.filled empty fits)
      · exact .broken _
    · rw [if_pos empty, if_pos empty]
      exact .broken _
  | declare count =>
    rw [ReadAhead.step, ReadAhead.declare, ReadQueue.step, h.length_slot]
    split
    · next fits => exact .answered none (h.declared fits)
    · exact .broken _
  | clear => exact .answered none (b.wellFormed_clear.denotes b.live_clear h.block h.capacity)

/-- **A refill**: of the bytes that are written into the slot, the first ones are declared live. -/
theorem Denotes.refill (h : b.Denotes bound q) (empty : q.queue = []) {bytes : Bytes} {count : Nat}
    (le : count ≤ bytes.length) (fits : bytes.length ≤ bound) :
    ∃ full, (b.fill bytes >>= (·.declare count)) = .ok full ∧ full.live = bytes.take count := by
  rw [← h.capacity, ← h.length_slot] at fits
  rw [h.fill, if_neg (not_not.2 empty), if_pos fits]
  refine ⟨⟨bytes ++ q.slot.drop bytes.length, 0, count⟩, if_pos ?_, ?_⟩
  · rw [ReadAhead.capacity, List.length_append]
    omega
  · exact List.take_append_of_le_length le

/-- What a channel does with the bytes of a refill is to write them into the slot and to declare
them all. -/
theorem load_of_beginRefill {bytes : Bytes} (fits : bytes.length ≤ b.capacity) :
    (b.beginRefill >>= (·.load bytes)) = (b.fill bytes >>= (·.declare bytes.length)) := by
  have long : (Bytes.overwrite b.block 0 bytes).length = b.capacity :=
    Bytes.length_overwrite ((Nat.zero_add _).symm ▸ fits)
  rw [fill, beginRefill]
  split
  · show ReadAhead.load _ bytes = (if bytes.length ≤ b.capacity then _ else _) >>= _
    rw [if_pos fits]
    show Except.map _ (if bytes.length ≤ b.capacity then _ else _) =
      if bytes.length ≤ (Bytes.overwrite b.block 0 bytes).length then _ else _
    rw [long, if_pos fits, if_pos fits]
    rfl
  · rfl

end ReadAhead

/-! ## The write-behind buffer -/

/-- **A bounded queue**: its bytes, oldest first. -/
abbrev WriteQueue := Bytes

/-- **A move of a write-behind buffer.** -/
inductive WriteMove where
  | push (bytes : Bytes)
  | consume (count : Nat)
  | clear
  /-- Asking whether so many bytes more fit. -/
  | fits (count : Nat)
  deriving DecidableEq

/-- **A move of the queue** of a bound.  Bytes are pushed behind the others if there is room for all
of them, and the first ones are consumed if there are so many. -/
def WriteQueue.step (bound : Nat) (q : WriteQueue) :
    WriteMove → Except BufferFault (Option Bool × WriteQueue)
  | .push bytes =>
    if q.length + bytes.length ≤ bound then .ok (none, q ++ bytes)
    else .error (.pushPastCapacity bytes.length q.length bound)
  | .consume count =>
    if count ≤ q.length then .ok (none, q.drop count)
    else .error (.consumePastPending count q.length)
  | .clear => .ok (none, [])
  | .fits count => .ok (some (q.length + count ≤ bound), q)

/-- **Moves bytes down to the front of a block in place**, one after another from the lowest on;
each is read from the block as the moves before left it. -/
def Bytes.moveDown (block : Bytes) (start : Nat) : Nat → Bytes
  | 0 => block
  | count + 1 =>
    let moved := moveDown block start count
    moved.set count (moved.getD (start + count) 0)

/-- **Moving in place comes to copying a part to the front**, although both may overlap: a byte is
read before another is written over it. -/
theorem Bytes.moveDown_eq {block : Bytes} {start count : Nat}
    (le : start + count ≤ block.length) :
    block.moveDown start count = slice block start count ++ block.drop count := by
  induction count with
  | zero => rfl
  | succ count ih =>
    have inside : start + count < block.length := by omega
    have long : (slice block start count).length = count := length_slice (by omega)
    have here : count < block.length := by omega
    -- The byte to be moved stands behind what was written so far.
    have byte : (slice block start count ++ block.drop count).getD (start + count) 0 =
        block[start + count] := by
      rw [List.getD_append_right _ _ _ _ (by omega), long,
        List.getD_eq_getElem _ _ (by simp; omega), List.getElem_drop]
      congr 1
      omega
    have part : slice block start (count + 1) =
        slice block start count ++ [block[start + count]] := by
      rw [slice, slice, List.take_succ_eq_append_getElem (by simp; omega), List.getElem_drop]
    rw [moveDown, ih (by omega), byte, List.set_append_right _ _ long.le, long, Nat.sub_self,
      List.drop_eq_getElem_cons here, List.set_cons_zero, part, List.append_assoc]
    rfl

namespace WriteBehind

variable {b : WriteBehind} {q : WriteQueue}

/-- **A move of the buffer.** -/
def step (b : WriteBehind) : WriteMove → Except BufferFault (Option Bool × WriteBehind)
  | .push bytes => do return (none, ← b.append bytes)
  | .consume count => do return (none, ← b.dropSent count)
  | .clear => return (none, b.clear)
  | .fits count => return (some (b.hasRoom count), b)

/-- Whether `n` more bytes fit, in machine words. -/
def hasRoomWord (b : WriteBehind) (n : UInt64) : Bool := n ≤ .ofNat b.capacity - .ofNat b.len

/-- **What the observers of a buffer show** of a queue: its bytes are the first of the block. -/
structure Denotes (bound : Nat) (b : WriteBehind) (q : WriteQueue) : Prop where
  pending : b.pending = q
  len : b.len = q.length
  isEmpty : b.isEmpty = true ↔ q = []
  capacity : b.capacity = bound
  length_le : q.length ≤ bound
  hasRoom : ∀ n, b.hasRoom n = true ↔ q.length + n ≤ bound

variable {bound : Nat}

theorem WellFormed.denotes (h : b.WellFormed) (pending : b.pending = q)
    (capacity : b.capacity = bound) : b.Denotes bound q := by
  have len : b.len = q.length := by rw [← pending, length_pending h]
  refine ⟨pending, len, ?_, capacity, ?_, fun n => ?_⟩
  · rw [isEmpty, beq_iff_eq, len, List.length_eq_zero_iff]
  · rw [← len, ← capacity]
    exact h
  · rw [hasRoom_iff h, len, capacity]

theorem Denotes.wellFormed (h : b.Denotes bound q) : b.WellFormed := by
  rw [WellFormed, h.len, h.capacity]
  exact h.length_le

/-- **Each move of the buffer is a move of the queue.** -/
theorem Denotes.step (h : b.Denotes bound q) (move : WriteMove) :
    Agree (Denotes bound) (b.step move) (q.step bound move) := by
  cases move with
  | push bytes =>
    rw [WriteQueue.step]
    by_cases room : q.length + bytes.length ≤ bound
    · obtain ⟨more, appended, pending, capacity, wf⟩ :=
        append_eq h.wellFormed ((h.hasRoom bytes.length).2 room)
      rw [WriteBehind.step, appended, if_pos room]
      exact .answered none (wf.denotes (h.pending ▸ pending) (capacity.trans h.capacity))
    · rw [WriteBehind.step, append, if_neg (mt (h.hasRoom bytes.length).1 room), if_neg room, h.len,
        h.capacity]
      exact .broken _
  | consume count =>
    rw [WriteQueue.step, ← h.len]
    by_cases le : count ≤ b.len
    · obtain ⟨rest, dropped, pending, capacity, wf⟩ := dropSent_eq h.wellFormed le
      rw [WriteBehind.step, dropped, if_pos le]
      exact .answered none (wf.denotes (h.pending ▸ pending) (capacity.trans h.capacity))
    · rw [WriteBehind.step, dropSent, if_neg le, if_neg le]
      exact .broken _
  | clear => exact .answered none (b.wellFormed_clear.denotes b.pending_clear h.capacity)
  | fits count =>
    have same : b.hasRoom count = decide (q.length + count ≤ bound) := by
      rw [Bool.eq_iff_iff, decide_eq_true_iff, h.hasRoom]
    rw [WriteBehind.step, same]
    exact .answered _ h

/-- **Room in machine words** is room: nothing wraps around. -/
theorem Denotes.hasRoomWord (h : b.Denotes bound q) (small : bound ≤ maxBlock) (n : UInt64) :
    b.hasRoomWord n = true ↔ q.length + n.toNat ≤ bound := by
  have le := h.length_le
  have capacity : (UInt64.ofNat bound).toNat = bound :=
    UInt64.toNat_ofNat_of_lt' (small.trans_lt (by decide))
  have len : (UInt64.ofNat q.length).toNat = q.length :=
    UInt64.toNat_ofNat_of_lt' ((le.trans small).trans_lt (by decide))
  have words : UInt64.ofNat q.length ≤ UInt64.ofNat bound := by
    rwa [UInt64.le_iff_toNat_le, capacity, len]
  rw [WriteBehind.hasRoomWord, decide_eq_true_iff, h.capacity, h.len, UInt64.le_iff_toNat_le,
    UInt64.toNat_sub_of_le _ _ words, capacity, len]
  omega

/-- **Consuming moves the rest to the front in place.** -/
theorem Denotes.dropSent (h : b.Denotes bound q) {count : Nat} (le : count ≤ q.length) :
    b.dropSent count = .ok ⟨b.block.moveDown count (b.len - count), b.len - count⟩ := by
  rw [← h.len] at le
  have inside : b.len ≤ b.block.length := h.wellFormed
  have moved : b.block.moveDown count (b.len - count) =
      Bytes.overwrite b.block 0 (Bytes.slice b.block count (b.len - count)) := by
    rw [Bytes.moveDown_eq (by omega), Bytes.overwrite, Nat.zero_add, Bytes.length_slice (by omega)]
    rfl
  rw [moved]
  exact if_pos le

end WriteBehind

/-! ## Whole runs -/

/-- **The two buffers are bounded queues.**  Take any capacity that can be had, 0 as well, two new
buffers of it and any moves.  Each run gives the answers of its queue, breaks a rule exactly where
the queue does and then leaves all as it was, and **what it leaves denotes the queue**.  Moreover,
when nothing is live, of the bytes that are written into the slot exactly those that are then
declared are live, and that is what a refill of a channel does; asking for room in machine words
never wraps around; and what is consumed goes by a move of bytes in place. -/
theorem buffers_refine_queues (capacity : Nat) :
    (maxBlock < capacity ∧ ReadAhead.new capacity = .error .outOfMemory ∧
      WriteBehind.new capacity = .error .outOfMemory) ∨
    ∃ input output, ReadAhead.new capacity = .ok input ∧ WriteBehind.new capacity = .ok output ∧
      (∀ moves : List ReadMove,
        let real := performAll ReadAhead.step input moves
        let meant := performAll ReadQueue.step ⟨[], List.replicate capacity 0⟩ moves
        real.1 = meant.1 ∧ real.2.Denotes capacity meant.2 ∧
          ∀ bytes : Bytes, bytes.length ≤ capacity →
            (real.2.beginRefill >>= (·.load bytes)) =
              (real.2.fill bytes >>= (·.declare bytes.length)) ∧
            ∀ count ≤ bytes.length, meant.2.queue = [] →
              ∃ full, (real.2.fill bytes >>= (·.declare count)) = .ok full ∧
                full.live = bytes.take count) ∧
      (∀ moves : List WriteMove,
        let real := performAll WriteBehind.step output moves
        let meant := performAll (WriteQueue.step capacity) [] moves
        real.1 = meant.1 ∧ real.2.Denotes capacity meant.2 ∧
          (∀ n : UInt64, real.2.hasRoomWord n = true ↔ meant.2.length + n.toNat ≤ capacity) ∧
          ∀ count ≤ meant.2.length, real.2.dropSent count =
            .ok ⟨real.2.block.moveDown count (real.2.len - count), real.2.len - count⟩) := by
  rcases Nat.lt_or_ge maxBlock capacity with large | small
  · exact .inl ⟨large, if_neg large.not_ge, if_neg large.not_ge⟩
  refine .inr ⟨⟨List.replicate capacity 0, 0, 0⟩, ⟨List.replicate capacity 0, 0⟩, if_pos small,
    if_pos small, fun moves => ?_, fun moves => ?_⟩
  · have begins : ReadAhead.Denotes capacity ⟨List.replicate capacity 0, 0, 0⟩
        ⟨[], List.replicate capacity 0⟩ :=
      ReadAhead.WellFormed.denotes ⟨Nat.zero_le _, fun _ => rfl⟩ rfl rfl List.length_replicate
    have refines : Refines (ReadAhead.Denotes capacity) ReadAhead.step ReadQueue.step :=
      fun _ _ related => related.step
    obtain ⟨answers, denotes⟩ := refines.performAll begins moves
    exact ⟨answers, denotes, fun bytes fits =>
      ⟨ReadAhead.load_of_beginRefill (fits.trans_eq denotes.capacity.symm), fun count le empty =>
        denotes.refill empty le fits⟩⟩
  · have begins : WriteBehind.Denotes capacity ⟨List.replicate capacity 0, 0⟩ [] :=
      WriteBehind.WellFormed.denotes (Nat.zero_le _) rfl List.length_replicate
    have refines : Refines (WriteBehind.Denotes capacity) WriteBehind.step
        (WriteQueue.step capacity) := fun _ _ related => related.step
    obtain ⟨answers, denotes⟩ := refines.performAll begins moves
    exact ⟨answers, denotes, denotes.hasRoomWord small, fun count => denotes.dropSent⟩

/-- The bytes of a refill, taken in two parts, and a refill too early. -/
example : (performAll ReadAhead.step ⟨[0, 0, 0], 0, 0⟩
    [.fill [1, 2, 3], .declare 2, .take [9], .fill [4], .take [7, 8]]).1 =
      [.ok none, .ok none, .ok (some ⟨1, [1]⟩), .error (.refillOverLive 1),
        .ok (some ⟨1, [2, 8]⟩)] := by decide

end BufferedChannels
