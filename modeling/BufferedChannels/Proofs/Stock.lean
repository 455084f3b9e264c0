import BufferedChannels.Error
import BufferedChannels.Proofs.Material

/-!
# Proofs/Stock — descriptors on materials, and what there is of them

A `Handle` is an open descriptor with the material that it stands on: it `Gives` what can be read
from where it stands, and `Takes` so much and no more.  A `Stock` says what there is under each name
and behind each descriptor.
-/

namespace BufferedChannels.Simulation

/-! ## Descriptors on materials -/

/-- **An open descriptor** on a material. -/
structure Handle where
  file : OpenFile
  material : Material

namespace Handle

/-- **What a descriptor gives** from where it stands, or the error of reading it. -/
inductive Gives : Handle → Except ChannelError Bytes → Prop
  | rest {file : OpenFile} {bytes : Bytes} (reads : file.flags.access ≠ .writeOnly) :
      Gives ⟨file, .file bytes⟩ (.ok (bytes.drop file.offset))
  | flow {file : OpenFile} {bytes : Bytes} (reads : file.flags.access ≠ .writeOnly) :
      Gives ⟨file, .inflow bytes⟩ (.ok bytes)
  | directory {file : OpenFile} (reads : file.flags.access ≠ .writeOnly) :
      Gives ⟨file, .directory⟩ (.error (.ofErrno .isDirectory))
  | closed {file : OpenFile} {bytes : Bytes} (blind : file.flags.access = .writeOnly) :
      Gives ⟨file, .file bytes⟩ (.error (.ofErrno .badDescriptor))

/-- A descriptor after so many bytes were read. -/
def skip (h : Handle) (n : Nat) : Handle :=
  match h.material with
  | .inflow bytes => { h with material := .inflow (bytes.drop n) }
  | _ => { h with file := { h.file with offset := h.file.offset + n } }

/-- **What a descriptor takes**: it took bytes, and takes so many in all. -/
structure Takes (h : Handle) (out : Bytes) (most : Nat) : Prop where
  writes : h.file.flags.access ≠ .readOnly
  here : h.file.flags.append = false
  kept : h.material = .file out ∧ h.file.offset = out.length ∧ most ≤ Descriptor.maxOffset ∨
    h.material = .outflow out most

/-- A descriptor after bytes were written. -/
def pour (h : Handle) (data : Bytes) : Handle :=
  match h.material with
  | .file bytes =>
    ⟨{ h.file with offset := h.file.offset + data.length }, .file (bytes ++ data)⟩
  | .outflow taken most => { h with material := .outflow (taken ++ data) most }
  | _ => h

/-- A descriptor with other flags; how it was opened stays. -/
def withFlags (h : Handle) (flags : Flags) : Handle :=
  { h with file := { h.file with
    flags := { h.file.flags with append := flags.append, nonblock := flags.nonblock } } }

/-- A descriptor that never blocks. -/
def nonblocking (h : Handle) : Handle :=
  h.withFlags { h.file.flags.status with nonblock := true }

variable {h : Handle} {share : Except ChannelError Bytes} {out : Bytes} {most : Nat}

@[simp] theorem node_skip (h : Handle) (n : Nat) : (h.skip n).file.node = h.file.node := by
  unfold skip
  split <;> rfl

@[simp] theorem node_pour (h : Handle) (data : Bytes) : (h.pour data).file.node = h.file.node := by
  unfold pour
  split <;> rfl

theorem isStored_skip (h : Handle) (n : Nat) :
    (h.skip n).material.isStored = h.material.isStored := by
  unfold skip
  split
  · next is => rw [is]; rfl
  · rfl

theorem isStored_pour (h : Handle) (data : Bytes) :
    (h.pour data).material.isStored = h.material.isStored := by
  unfold pour
  split
  · next is => rw [is]; rfl
  · next is => rw [is]; rfl
  · rfl

@[simp] theorem skip_zero (h : Handle) : h.skip 0 = h := by
  obtain ⟨file, material⟩ := h
  cases material <;> rfl

theorem skip_skip (h : Handle) (m n : Nat) : (h.skip m).skip n = h.skip (m + n) := by
  obtain ⟨file, material⟩ := h
  cases material with
  | inflow bytes =>
    unfold skip
    dsimp only
    rw [List.drop_drop]
  | _ =>
    unfold skip
    dsimp only
    rw [Nat.add_assoc]

@[simp] theorem pour_nil (h : Handle) : h.pour [] = h := by
  obtain ⟨file, material⟩ := h
  cases material <;> simp [pour]

theorem pour_pour (h : Handle) (first data : Bytes) :
    (h.pour first).pour data = h.pour (first ++ data) := by
  obtain ⟨file, material⟩ := h
  cases material with
  | file bytes =>
    unfold pour
    dsimp only
    rw [List.append_assoc, List.length_append, Nat.add_assoc]
  | outflow taken most =>
    unfold pour
    dsimp only
    rw [List.append_assoc]
  | _ => rfl

/-- **What was read is behind**, and the rest is left. -/
theorem Gives.skip (gives : h.Gives share) (n : Nat) :
    (h.skip n).Gives (share.map fun bytes => bytes.drop n) := by
  cases gives with
  | @rest file bytes reads =>
    have later : Gives ⟨{ file with offset := file.offset + n }, .file bytes⟩
        (.ok (bytes.drop (file.offset + n))) := .rest reads
    rwa [← List.drop_drop] at later
  | flow reads => exact .flow reads
  | directory reads => exact .directory reads
  | closed blind => exact .closed blind

theorem Gives.withFlags (gives : h.Gives share) (flags : Flags) :
    (h.withFlags flags).Gives share := by
  cases gives with
  | rest reads => exact .rest reads
  | flow reads => exact .flow reads
  | directory reads => exact .directory reads
  | closed blind => exact .closed blind

/-- Reading does not wait for ever. -/
theorem Gives.live (gives : h.Gives share) : h.material.Live .readable := by
  cases gives with
  | flow => exact Material.live_inflow _
  | _ => exact Material.live_of_stored rfl _

/-- **What was written is taken.** -/
theorem Takes.pour (takes : h.Takes out most) (data : Bytes) :
    (h.pour data).Takes (out ++ data) most := by
  obtain ⟨file, material⟩ := h
  obtain ⟨writes, here, ⟨rfl, offset, room⟩ | rfl⟩ := takes
  · refine ⟨writes, here, .inl ⟨rfl, ?_, room⟩⟩
    exact (congrArg (· + data.length) offset).trans List.length_append.symm
  · exact ⟨writes, here, .inr rfl⟩

theorem Takes.withFlags (takes : h.Takes out most) {flags : Flags} (here : flags.append = false) :
    (h.withFlags flags).Takes out most :=
  ⟨takes.writes, here, takes.kept⟩

/-- Writing does not wait for ever while there is more to take. -/
theorem Takes.live (takes : h.Takes out most) (less : out.length < most) :
    h.material.Live .writable := by
  obtain ⟨is, _⟩ | is := takes.kept
  · rw [is]
    exact Material.live_of_stored rfl _
  · rw [is]
    exact Material.live_outflow less

end Handle

/-! ## Stocks -/

/-- **What is to be found under a name.** -/
inductive Prospect where
  | nowhere
  /-- So many openings of the name fail with an error. -/
  | refused (e : Errno) (times : Nat)
  | carried (m : Material)

/-- **What there is** under each name and behind each descriptor. -/
structure Stock where
  prospects : String → Prospect
  files : Int → Option OpenFile

namespace Stock

/-- **A descriptor of the stock.** -/
structure Has (x : Stock) (fd : Int) (h : Handle) : Prop where
  opened : x.files fd = some h.file
  carried : x.prospects h.file.node = .carried h.material

/-- A descriptor is put into the stock, with the material that it stands on. -/
def put (x : Stock) (fd : Int) (h : Handle) : Stock where
  prospects := Function.update x.prospects h.file.node (.carried h.material)
  files := Function.update x.files fd (some h.file)

/-- A descriptor is taken out of the stock. -/
def drop (x : Stock) (fd : Int) : Stock := { x with files := Function.update x.files fd none }

/-- Something else is to be found under a name. -/
def expect (x : Stock) (name : String) (p : Prospect) : Stock :=
  { x with prospects := Function.update x.prospects name p }

variable {x : Stock} {fd fd' : Int} {h h' : Handle}

theorem prospects_put (x : Stock) (fd : Int) (h : Handle) (name : String) :
    (x.put fd h).prospects name =
      if name = h.file.node then .carried h.material else x.prospects name :=
  Function.update_apply ..

theorem files_put (x : Stock) (fd : Int) (h : Handle) (fd' : Int) :
    (x.put fd h).files fd' = if fd' = fd then some h.file else x.files fd' :=
  Function.update_apply ..

theorem files_drop (x : Stock) (fd fd' : Int) :
    (x.drop fd).files fd' = if fd' = fd then none else x.files fd' :=
  Function.update_apply ..

theorem prospects_expect (x : Stock) (name : String) (p : Prospect) (other : String) :
    (x.expect name p).prospects other = if other = name then p else x.prospects other :=
  Function.update_apply ..

theorem put_of_has (has : x.Has fd h) : x.put fd h = x := by
  unfold put
  rw [← has.carried, ← has.opened, Function.update_eq_self, Function.update_eq_self]

theorem has_put (x : Stock) (fd : Int) (h : Handle) : (x.put fd h).Has fd h :=
  ⟨Function.update_self .., Function.update_self ..⟩

/-- What is put elsewhere leaves a descriptor in the stock. -/
theorem Has.put_other (has : x.Has fd h) (other : fd ≠ fd')
    (apart : h.file.node ≠ h'.file.node) : (x.put fd' h').Has fd h :=
  ⟨(Function.update_of_ne other ..).trans has.opened,
    (Function.update_of_ne apart ..).trans has.carried⟩

theorem put_put (x : Stock) (fd : Int) (same : h'.file.node = h.file.node) :
    (x.put fd h).put fd h' = x.put fd h' := by
  unfold put
  dsimp only
  rw [same, Function.update_idem, Function.update_idem]

/-- **A descriptor that was free**, put in and taken out again, leaves the stock as it was. -/
theorem drop_put_self (carried : x.prospects h.file.node = .carried h.material)
    (free : x.files fd = none) : (x.put fd h).drop fd = x := by
  unfold put drop
  dsimp only
  rw [← carried, Function.update_eq_self, Function.update_idem, ← free, Function.update_eq_self]

theorem drop_put_other (x : Stock) (other : fd ≠ fd') (h : Handle) :
    (x.put fd' h).drop fd = (x.drop fd).put fd' h := by
  unfold put drop
  dsimp only
  rw [Function.update_comm other]

theorem put_comm (x : Stock) (other : fd ≠ fd') (apart : h.file.node ≠ h'.file.node) :
    (x.put fd h).put fd' h' = (x.put fd' h').put fd h := by
  unfold put
  dsimp only
  rw [Function.update_comm apart, Function.update_comm other]

end Stock

end BufferedChannels.Simulation
