/-!
# Bytes — byte strings and writing over a part of one

Data on its way between a caller, a channel and a descriptor is a list of bytes.  `Bytes.overwrite`
is the one in-place operation: a block keeps its length as long as the new bytes fit in it.
-/

namespace BufferedChannels

/-- A string of bytes. -/
abbrev Bytes := List UInt8

namespace Bytes

/-- **Write over a part**: `new` replaces what stands at `start` and the bytes after it stay. -/
def overwrite (block : Bytes) (start : Nat) (new : Bytes) : Bytes :=
  block.take start ++ (new ++ block.drop (start + new.length))

/-- The `count` bytes of a block from `start` on. -/
def slice (block : Bytes) (start count : Nat) : Bytes :=
  (block.drop start).take count

theorem length_overwrite {block new : Bytes} {start : Nat} (h : start + new.length ≤ block.length) :
    (overwrite block start new).length = block.length := by
  simp only [overwrite, List.length_append, List.length_take, List.length_drop]
  omega

theorem length_slice {block : Bytes} {start count : Nat} (h : start + count ≤ block.length) :
    (slice block start count).length = count := by
  simp only [slice, List.length_take, List.length_drop]
  omega

/-- The UTF-8 bytes of a text. -/
def ofText (text : String) : Bytes := text.toUTF8.data.toList

end Bytes

end BufferedChannels
