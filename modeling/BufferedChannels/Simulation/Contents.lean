import BufferedChannels.Bytes

/-!
# Simulation/Contents — the bytes of a file

Contents are kept packed, because a position far behind the end makes a file long at once.  The view
`toBytes` says what the two operations mean: `read` is a slice, and `write` fills a gap with zeros.
-/

namespace BufferedChannels.Simulation

/-- **The bytes of a file.** -/
structure Contents where
  packed : ByteArray := .empty

namespace Contents

/-- **The view**: the bytes in order. -/
def toBytes (c : Contents) : Bytes := c.packed.data.toList

/-- Contents with the given bytes. -/
def ofBytes (bytes : Bytes) : Contents := ⟨⟨bytes.toArray⟩⟩

/-- The number of bytes. -/
def size (c : Contents) : Nat := c.packed.size

/-- Up to `count` bytes from a position on; none at the end and behind it. -/
def read (c : Contents) (start count : Nat) : Bytes :=
  (c.packed.extract start (start + count)).data.toList

/-- Contents with so many zeros behind them. -/
def pad : Nat → ByteArray → ByteArray
  | 0, packed => packed
  | n + 1, packed => pad n (packed.push 0)

/-- Contents with bytes behind them. -/
def append (c : Contents) (new : Bytes) : Contents := ⟨c.packed ++ ⟨new.toArray⟩⟩

/-- **Writes over and behind** what is there; a gap before the new bytes is filled with zeros. -/
def write (c : Contents) (start : Nat) (new : Bytes) : Contents :=
  if c.size ≤ start then append ⟨pad (start - c.size) c.packed⟩ new
  else ⟨c.packed.extract 0 start ++ ⟨new.toArray⟩
    ++ c.packed.extract (start + new.length) c.size⟩

/-! ## The view under each operation -/

@[simp] theorem toBytes_ofBytes (bytes : Bytes) : (ofBytes bytes).toBytes = bytes := by
  simp only [ofBytes, toBytes]

theorem length_toBytes (c : Contents) : c.toBytes.length = c.size := by
  simp only [toBytes, Array.length_toList, size, ByteArray.size]

@[simp] theorem toBytes_append (c : Contents) (new : Bytes) :
    (c.append new).toBytes = c.toBytes ++ new := by
  simp only [append, toBytes, ByteArray.data_append, Array.toList_append]

theorem toList_pad (n : Nat) (packed : ByteArray) :
    (pad n packed).data.toList = packed.data.toList ++ List.replicate n 0 := by
  induction n generalizing packed with
  | zero => simp [pad]
  | succ n ih =>
    rw [pad, ih, ByteArray.data_push, Array.toList_push, List.append_assoc, List.replicate_succ]
    rfl

/-- **Reading is slicing the view.** -/
theorem read_eq_slice (c : Contents) (start count : Nat) :
    c.read start count = Bytes.slice c.toBytes start count := by
  simp only [read, toBytes, ByteArray.data_extract, Array.toList_extract, List.extract, Bytes.slice,
    Nat.add_sub_cancel_left]

/-- **Writing at the end or behind it** appends, after zeros that fill the gap. -/
theorem toBytes_write_of_size_le {c : Contents} {start : Nat} (h : c.size ≤ start) (new : Bytes) :
    (c.write start new).toBytes = c.toBytes ++ List.replicate (start - c.size) 0 ++ new := by
  rw [write, if_pos h, toBytes_append, toBytes, toList_pad, toBytes]

/-- **Writing before the end** replaces what is there. -/
theorem toBytes_write_of_lt_size {c : Contents} {start : Nat} (h : start < c.size) (new : Bytes) :
    (c.write start new).toBytes = Bytes.overwrite c.toBytes start new := by
  have hs : c.packed.size = c.packed.data.toList.length := by
    simp only [Array.length_toList, ByteArray.size]
  rw [write, if_neg (Nat.not_le.2 h)]
  simp only [toBytes, ByteArray.data_append, ByteArray.data_extract, Array.toList_append,
    Array.toList_extract, List.extract, Bytes.overwrite, List.append_assoc, Nat.sub_zero,
    List.drop_zero, size]
  rw [hs, ← List.length_drop, List.take_length]

end Contents

end BufferedChannels.Simulation
