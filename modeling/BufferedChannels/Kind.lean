/-!
# Kind — what a descriptor stands for

The kind is found out once, when a channel is opened.  **Regular files and directories are always
ready**, so a channel never suspends on one; everything else may have to be waited for.
-/

namespace BufferedChannels

/-- **The kind of a descriptor.** -/
inductive Kind where
  | regular
  | directory
  /-- A pipe, socket or device, or a descriptor that was never asked. -/
  | other
  deriving DecidableEq

namespace Kind

/-- The type bits of a file mode. -/
def typeMask : Nat := 0o170000
/-- The type bits of a regular file. -/
def regularBits : Nat := 0o100000
/-- The type bits of a directory. -/
def directoryBits : Nat := 0o040000

/-- **The kind that a file mode tells.** -/
def ofMode (mode : Nat) : Kind :=
  let bits := mode &&& typeMask
  if bits = regularBits then .regular else if bits = directoryBits then .directory else .other

/-- The kind of a descriptor that was not asked. -/
def unasked : Kind := .other

/-- Whether a call that would block is made again at once. -/
def alwaysReady : Kind → Bool
  | .regular | .directory => true
  | .other => false

/-- Whether the descriptor has a size. -/
def isRegular : Kind → Bool
  | .regular => true
  | _ => false

theorem isRegular_iff {kind : Kind} : kind.isRegular = true ↔ kind = .regular := by
  cases kind <;> decide

/-- Only what is neither a file nor a directory may have to be waited for. -/
theorem alwaysReady_eq_false_iff {kind : Kind} : kind.alwaysReady = false ↔ kind = .other := by
  cases kind <;> decide

/-- The name of a kind. -/
def name : Kind → String
  | .regular => "regular"
  | .directory => "directory"
  | .other => "other"

end Kind

end BufferedChannels
