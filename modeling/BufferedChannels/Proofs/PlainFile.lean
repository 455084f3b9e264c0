import BufferedChannels.Proofs.Operating

/-!
# Proofs/PlainFile — a file without buffers

A `PlainFile` is what a channel on a regular file is meant to be: bytes and **one position**.  A
read hands on the bytes at the position, a write stores what it took there, and a move sets the
position; `after` says what an answered operation does to it and `Gives` which answers are right.
Storing fills a gap behind the end with zeros, and storing twice in a row is storing once
(`storeAt_append`).
-/

namespace BufferedChannels

namespace Bytes

/-- **The bytes up to a position**, with zeros where there are none. -/
def upTo (contents : Bytes) (position : Nat) : Bytes :=
  contents.take position ++ List.replicate (position - contents.length) 0

/-- **Stores bytes at a position**, over what is there and behind the end.  Nothing stored changes
nothing, not even the length. -/
def storeAt (contents : Bytes) (position : Nat) (data : Bytes) : Bytes :=
  if data = [] then contents
  else contents.upTo position ++ (data ++ contents.drop (position + data.length))

theorem length_upTo (contents : Bytes) (position : Nat) :
    (contents.upTo position).length = position := by
  rw [upTo, List.length_append, List.length_take, List.length_replicate]
  omega

@[simp] theorem storeAt_nil (contents : Bytes) (position : Nat) :
    contents.storeAt position [] = contents := if_pos rfl

theorem storeAt_eq {data : Bytes} (some : data ≠ []) (contents : Bytes) (position : Nat) :
    contents.storeAt position data =
      contents.upTo position ++ (data ++ contents.drop (position + data.length)) := if_neg some

theorem upTo_storeAt {data : Bytes} (some : data ≠ []) (contents : Bytes) (position : Nat) :
    (contents.storeAt position data).upTo (position + data.length) =
      contents.upTo position ++ data := by
  have front : (contents.upTo position ++ data).length = position + data.length := by
    rw [List.length_append, length_upTo]
  have pad : position + data.length - (contents.storeAt position data).length = 0 := by
    rw [storeAt_eq some, List.length_append, length_upTo, List.length_append]
    omega
  rw [upTo, pad, List.replicate_zero, List.append_nil, storeAt_eq some, ← List.append_assoc,
    List.take_left' front]

theorem drop_storeAt {data : Bytes} (some : data ≠ []) (contents : Bytes) (position n : Nat) :
    (contents.storeAt position data).drop (position + data.length + n) =
      contents.drop (position + data.length + n) := by
  have front : (contents.upTo position ++ data).length = position + data.length := by
    rw [List.length_append, length_upTo]
  rw [storeAt_eq some, ← List.append_assoc, List.drop_append, front,
    List.drop_eq_nil_of_le (by omega), List.nil_append, List.drop_drop]
  congr 1
  omega

/-- **Storing behind what was just stored** is storing both at once. -/
theorem storeAt_append (contents : Bytes) (position : Nat) (data more : Bytes) :
    (contents.storeAt position data).storeAt (position + data.length) more =
      contents.storeAt position (data ++ more) := by
  by_cases none : data = []
  · rw [none, storeAt_nil, List.nil_append]
    rfl
  by_cases none' : more = []
  · rw [none', storeAt_nil, List.append_nil]
  have both : data ++ more ≠ [] := List.append_ne_nil_of_left_ne_nil none _
  rw [storeAt_eq none', upTo_storeAt none, drop_storeAt none, storeAt_eq both, List.length_append,
    List.append_assoc, List.append_assoc, Nat.add_assoc]

theorem length_storeAt_le (contents : Bytes) (position : Nat) (data : Bytes) :
    (contents.storeAt position data).length ≤ max contents.length (position + data.length) := by
  by_cases none : data = []
  · rw [none, storeAt_nil]
    exact Nat.le_max_left _ _
  · rw [storeAt_eq none, List.length_append, length_upTo, List.length_append, List.length_drop]
    omega

/-- **Slices that follow each other** are one slice. -/
theorem slice_append_slice (contents : Bytes) (start count more : Nat) :
    contents.slice start count ++ contents.slice (start + count) more =
      contents.slice start (count + more) := by
  rw [slice, slice, slice, ← List.drop_drop, List.take_add]

/-- A slice is as long as it can be, and its length asks for no more. -/
theorem slice_length_slice (contents : Bytes) (start count : Nat) :
    contents.slice start (contents.slice start count).length = contents.slice start count := by
  rw [slice, slice, List.length_take, ← List.take_eq_take_min]

/-- A part of a block that begins somewhere ends in the block. -/
theorem length_le_of_eq_slice {contents part : Bytes} {start : Nat}
    (h : part = contents.slice start part.length) : part.length ≤ contents.length - start := by
  have whole := congrArg List.length h
  rw [slice, List.length_take, List.length_drop] at whole
  omega

theorem slice_eq_nil_iff {contents : Bytes} {start count : Nat} (pos : 0 < count) :
    contents.slice start count = [] ↔ contents.length ≤ start := by
  rw [slice, List.take_eq_nil_iff, or_iff_right (Nat.ne_of_gt pos), List.drop_eq_nil_iff]

end Bytes

/-! ## The file and its operations -/

/-- **A file with one position.** -/
structure PlainFile where
  contents : Bytes
  position : Nat

namespace PlainFile

/-- Moves over bytes that were read. -/
def advance (f : PlainFile) (n : Nat) : PlainFile := { f with position := f.position + n }

/-- **Stores bytes** at the position and moves behind them. -/
def store (f : PlainFile) (data : Bytes) : PlainFile where
  contents := f.contents.storeAt f.position data
  position := f.position + data.length

/-- The bytes from the position to the end. -/
def remaining (f : PlainFile) : Nat := f.contents.length - f.position

@[simp] theorem store_nil (f : PlainFile) : f.store [] = f := by
  rw [store, Bytes.storeAt_nil]
  rfl

theorem store_append (f : PlainFile) (data more : Bytes) :
    (f.store data).store more = f.store (data ++ more) := by
  rw [store, store, store, Bytes.storeAt_append, List.length_append, Nat.add_assoc]

/-- **The file after an operation**, as its answer says how much was read, taken or moved. -/
def after (f : PlainFile) (operation : Operation) (answer : Answer) : PlainFile :=
  match operation, answer with
  | .seek _, .count (.ok n) => { f with position := n }
  | .reposition _, .streamCount (.ok n) => { f with position := n }
  | operation, answer => (f.advance answer.handed.length).store (operation.taken answer)

theorem after_of_stays (f : PlainFile) {operation : Operation} (stays : operation.moves = false)
    (answer : Answer) : f.after operation answer =
      (f.advance answer.handed.length).store (operation.taken answer) := by
  rcases operation with _ | _ | _ | _ | _ | _ | _ | _ | _ | _ | _ | _
  any_goals rfl
  all_goals cases stays

/-- **The answers that the file gives.**  A read hands on the bytes at the position, as many as were
asked for or all that remain; a write takes all of its data; a move ends where it was to end. -/
def Gives (f : PlainFile) : Operation → Answer → Prop
  | .read len _, .reading r => r.handed = f.contents.slice f.position r.handed.length ∧
      (r.error? = none → r.handed.length = min len f.remaining)
  | .readBetween _ low high _, .reading r =>
      r.handed = f.contents.slice f.position r.handed.length ∧
        (r.error? = none → r.handed.length ≤ high ∧ min low f.remaining ≤ r.handed.length)
  | .write data _, .count (.ok n) => n = data.length
  | .seek position, .count (.ok n) => n = position
  | .reposition (.start position), .streamCount (.ok n) => n = position
  | .reposition (.current delta), .streamCount (.ok n) => (n : Int) = f.position + delta
  | .reposition (.finish delta), .streamCount (.ok n) => (n : Int) = f.contents.length + delta
  | _, _ => True

/-- **A run whose answers are those of the file.** -/
def Follows (f : PlainFile) : List (Operation × Answer) → Prop
  | [] => True
  | (operation, answer) :: rest =>
    f.Gives operation answer ∧ (f.after operation answer).Follows rest

/-- The file after a run. -/
def afterAll (f : PlainFile) : List (Operation × Answer) → PlainFile
  | [] => f
  | (operation, answer) :: rest => (f.after operation answer).afterAll rest

end PlainFile

/-! ## The order of operations -/

/-- **What was done since the last move**: nothing that moves bytes, reading, or writing. -/
inductive Phase where
  | fresh | reading | writing
  deriving DecidableEq

namespace Phase

/-- **The operations that are in order**: no read after a write nor a write after a read without a
move between them, and no bare move over pending bytes. -/
def Allows (phase : Phase) (c : Channel) : Operation → Prop
  | .read .. | .readBetween .. => phase ≠ .writing
  | .write .. => phase ≠ .reading
  | .flush _ | .reposition _ | .tell => True
  | .seek _ => c.pendingCount = 0
  | _ => False

instance (phase : Phase) (c : Channel) : DecidablePred (phase.Allows c)
  | .read .. | .readBetween .. | .write .. => inferInstanceAs (Decidable (_ ≠ _))
  | .flush _ | .reposition _ | .tell => inferInstanceAs (Decidable True)
  | .seek _ => inferInstanceAs (Decidable (_ = _))
  | .size | .info | .readSome _ | .writeAll _ | .flushAll => inferInstanceAs (Decidable False)

/-- The phase after an operation; only a move that succeeds begins afresh. -/
def after (phase : Phase) : Operation → Answer → Phase
  | .read .., _ | .readBetween .., _ => .reading
  | .write .., _ => .writing
  | .seek _, .count (.ok _) => .fresh
  | .reposition _, .streamCount (.ok _) => .fresh
  | _, _ => phase

end Phase

end BufferedChannels
