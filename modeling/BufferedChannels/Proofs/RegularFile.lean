import BufferedChannels.Proofs.CalmPath
import BufferedChannels.Proofs.Lifecycle
import BufferedChannels.Proofs.Medium

/-!
# Proofs/RegularFile — a regular file of the simulated kernel

`Kernel.Holds` says that a kernel keeps a given `Medium` behind a descriptor of a calm path.  Every
call on the descriptor is then answered as the medium replies, **whatever the script of the file
says** about reads and writes, and so is every dialogue (`Holds.converses`).  A channel that was
opened there stands at the beginning of such a file.  The descriptor is one that reads; if it does
not write, then its writes fail for good.
-/

namespace BufferedChannels.Simulation.Kernel

variable {k k' : Kernel} {fd : Int} {path : String} {m : Medium}

/-! ## The file behind a descriptor -/

/-- **Flags that let a descriptor read**, and write where it stands if they let it write. -/
structure Readable (flags : Flags) : Prop where
  reads : flags.access ≠ .writeOnly
  here : flags.access = .readOnly ∨ flags.append = false

/-- **A descriptor stands in a calm path**, open for reading and perhaps for writing. -/
structure Stands (k : Kernel) (fd : Int) (path : String) (offset : Nat) : Prop
    extends k.Calm path where
  opened : ∃ file, k.descriptors.lookup fd = some file ∧ file.node = path ∧
    Readable file.flags ∧ file.offset = offset
  numbered : fd ≠ standardError
  offset_le : offset ≤ Descriptor.maxOffset

theorem Stands.stay {offset : Nat} (h : k.Stands fd path offset) (calm : k'.Calm path)
    (same : k'.descriptors.lookup fd = k.descriptors.lookup fd) : k'.Stands fd path offset where
  toCalm := calm
  opened := by
    rw [same]
    exact h.opened
  numbered := h.numbered
  offset_le := h.offset_le

/-- **A kernel keeps a regular file behind a descriptor** and nobody else touches it; its patience
is as long as its script. -/
structure Holds (k : Kernel) (fd : Int) (path : String) (m : Medium) : Prop
    extends k.Stands fd path m.offset where
  stored : ∃ contents script, k.node? path = some { body := .file contents, script } ∧
    contents.toBytes = m.contents ∧ script.length = m.patience

theorem Holds.length_le (h : k.Holds fd path m) : m.contents.length ≤ Descriptor.maxOffset := by
  obtain ⟨contents, script, found, bytes, _⟩ := h.stored
  exact bytes ▸ h.short contents script found

/-- **Whatever happens elsewhere**, the file stays held. -/
theorem Holds.elsewhere (h : k.Holds fd path m) (other : Elsewhere fd path k k') :
    k'.Holds fd path m where
  toStands := h.toStands.stay (h.toCalm.elsewhere other) other.descriptor
  stored := by
    rw [other.node]
    exact h.stored

theorem Stands.allocate {offset : Nat} (h : k.Stands fd path offset) :
    k.allocate.2.Stands fd path offset :=
  h.stay h.toCalm.allocate rfl

theorem Holds.allocate (h : k.Holds fd path m) : k.allocate.2.Holds fd path m :=
  h.elsewhere ⟨rfl, rfl, fun alone => alone, rfl⟩

/-- A descriptor that is moved. -/
theorem Holds.setDescriptor (h : k.Holds fd path m) {file : OpenFile}
    (found : k.descriptors.lookup fd = some file) {offset : Nat}
    (le : offset ≤ Descriptor.maxOffset) :
    (k.setDescriptor fd { file with offset }).Holds fd path { m with offset } where
  toCalm := ⟨h.alone, h.fair, h.short, h.largest⟩
  opened := by
    obtain ⟨file', found', node, readable, _⟩ := h.opened
    obtain rfl := Option.some.inj (found.symm.trans found')
    exact ⟨_, (lookup_assign ..).trans (if_pos rfl), node, readable, rfl⟩
  numbered := h.numbered
  offset_le := le
  stored := h.stored

/-- A file whose bytes or script change. -/
theorem Holds.setNode (h : k.Holds fd path m) (contents : Contents)
    {script : List (CallKind × Adjustment)} (fair : Fair script)
    (le : contents.toBytes.length ≤ Descriptor.maxOffset) :
    (k.setNode path { body := .file contents, script }).Holds fd path
      ⟨contents.toBytes, m.offset, script.length⟩ where
  toStands := h.toStands.stay (h.toCalm.setNode fair fun _ is => Body.file.inj is ▸ le) rfl
  stored := ⟨contents, script, by rw [node?_setNode, if_pos rfl], rfl, rfl⟩

/-- **The script has its word**, which takes patience unless it is none. -/
theorem Holds.consult (h : k.Holds fd path m) (kind : CallKind) :
    ∃ patience, (k.consult path kind).2.Holds fd path ⟨m.contents, m.offset, patience⟩ ∧
      patience ≤ m.patience ∧
      ((k.consult path kind).1 ≠ {} → patience < m.patience) ∧
      (kind = .seek → (k.consult path kind).1 = {} ∧ patience = m.patience) ∧
      (kind = .read → (k.consult path kind).1.max? ≠ some 0) := by
  obtain ⟨contents, script, found, bytes, count⟩ := h.stored
  have fair : Fair script := h.fair _ found
  obtain ⟨left, consulted⟩ := k.consulted found h.alone kind
  have fairLeft : Fair left := fun item hi => fair item (consulted.subset item hi)
  have before := h.setNode contents fairLeft (bytes ▸ h.length_le)
  have held := before.elsewhere (consulted.elsewhere fd)
  rw [bytes] at held
  obtain ⟨le, less⟩ := consulted.length_le
  rw [← count]
  refine ⟨_, held, le, less, fun seeks => ?_, fun reads => ?_⟩
  · obtain ⟨none, same⟩ | ⟨mem, _⟩ := consulted.word
    · exact ⟨none, congrArg List.length same⟩
    · exact absurd seeks (fair _ mem).1
  · obtain ⟨none, _⟩ | ⟨mem, _⟩ := consulted.word
    · rw [none]
      exact nofun
    · exact (fair _ mem).2 reads

/-- **The bytes of the file** at a path. -/
def bytes? (k : Kernel) (path : String) : Option Bytes :=
  match k.node? path with
  | some { body := .file contents, .. } => some contents.toBytes
  | _ => none

theorem Holds.bytes?_eq (h : k.Holds fd path m) : k.bytes? path = some m.contents := by
  obtain ⟨contents, script, found, bytes, _⟩ := h.stored
  rw [bytes?, found, ← bytes]

/-! ## Calls on the descriptor -/

/-- **A call on the descriptor** of a held file: the script has it fail, or it does what it does to
the file. -/
theorem Holds.onDescriptor {α : Type} (h : k.Holds fd path m) (kind : CallKind)
    (act : Kernel → OpenFile → Body → Option Nat → Except Errno α × Kernel) :
    ∃ k₁ patience, k₁.Holds fd path ⟨m.contents, m.offset, patience⟩ ∧ patience ≤ m.patience ∧
      ((∃ e, k.onDescriptor fd kind act = (.error e, k₁) ∧ kind ≠ .seek ∧ patience < m.patience) ∨
        ∃ file contents max?, k₁.descriptors.lookup fd = some file ∧ file.node = path ∧
          Readable file.flags ∧ file.offset = m.offset ∧ contents.toBytes = m.contents ∧
          k.onDescriptor fd kind act = act k₁ file (.file contents) max? ∧
          (max? ≠ none → patience < m.patience) ∧ (kind = .seek → patience = m.patience) ∧
          (kind = .read → max? ≠ some 0)) := by
  obtain ⟨file, found, rfl, readable, offset⟩ := h.opened
  obtain ⟨patience, held, le, less, seeks, reads⟩ := h.consult kind
  refine ⟨(k.consult file.node kind).2, patience, held, le, ?_⟩
  unfold Kernel.onDescriptor
  rw [found]
  dsimp only
  cases errno : (k.consult file.node kind).1.errno? with
  | some e =>
    have word := Adjustment.ne_none errno
    exact .inl ⟨e, rfl, fun is => word (seeks is).1, less word⟩
  | none =>
    obtain ⟨contents, script, stored, bytes, _⟩ := held.stored
    have same := (h.toCalm.consult kind).2 fd
    rw [stored]
    refine .inr ⟨file, contents, _, same.trans found, rfl, readable, offset, bytes, rfl,
      fun limit => ?_, fun is => (seeks is).2, reads⟩
    exact less fun none => limit (by rw [none])

theorem Holds.read (h : k.Holds fd path m) (len : Nat) :
    ∃ m', m.Replies fd (Descriptor.reading fd len (k.read fd len).1) m' ∧
      (k.read fd len).2.Holds fd path m' := by
  unfold Kernel.read
  obtain ⟨k₁, patience, held, le, ⟨e, run, _, less⟩ |
    ⟨file, contents, max?, found, _, readable, offset, bytes, run, _, _, some⟩⟩ :=
    h.onDescriptor .read _
  · rw [run]
    exact ⟨_, .readFailed less, held⟩
  rw [run, if_neg readable.reads]
  have slice : contents.read file.offset (limited len max?) =
      m.contents.slice m.offset (limited len max?) := by
    rw [Contents.read_eq_slice, bytes, offset]
  have within : (m.contents.slice m.offset (limited len max?)).length ≤
      m.contents.length - m.offset := by
    rw [Bytes.slice, List.length_take, List.length_drop]
    exact Nat.min_le_right _ _
  have pos : 0 < len → 0 < limited len max? := by
    intro pos
    cases max? with
    | none => exact Nat.lt_min.2 ⟨pos, pos⟩
    | some n => exact Nat.lt_min.2 ⟨pos, Nat.pos_of_ne_zero fun zero => some rfl (congrArg _ zero)⟩
  dsimp only
  rw [slice, offset]
  refine ⟨_, .read le pos, held.setDescriptor found ?_⟩
  have := h.length_le
  have := h.offset_le
  omega

theorem toBytes_write (contents : Contents) (offset : Nat) {data : Bytes} (some : data ≠ []) :
    (contents.write offset data).toBytes = contents.toBytes.storeAt offset data := by
  rw [Bytes.storeAt_eq some, Bytes.upTo, Contents.length_toBytes]
  by_cases behind : contents.size ≤ offset
  · have short : contents.toBytes.length ≤ offset := contents.length_toBytes ▸ behind
    rw [Contents.toBytes_write_of_size_le behind, List.take_of_length_le short,
      List.drop_eq_nil_of_le (Nat.le_add_right_of_le short), List.append_nil]
  · have within := Nat.not_le.1 behind
    rw [Contents.toBytes_write_of_lt_size within, Nat.sub_eq_zero_of_le (Nat.le_of_lt within),
      List.replicate_zero, List.append_nil, Bytes.overwrite]

/-- What is written to a held file stands there, unless the file would grow too large. -/
theorem Holds.writeAt (h : k.Holds fd path m) {file : OpenFile} {contents : Contents}
    (found : k.descriptors.lookup fd = some file) (node : file.node = path)
    (append : file.flags.append = false) (offset : file.offset = m.offset)
    (bytes : contents.toBytes = m.contents) (data : Bytes) :
    ∃ k₁, (k.writeAt fd file contents .file data = (.error .tooLarge, k₁) ∧ k₁.Holds fd path m) ∨
      k.writeAt fd file contents .file data = (.ok data.length, k₁) ∧
        k₁.Holds fd path
          ⟨m.contents.storeAt m.offset data, m.offset + data.length, m.patience⟩ := by
  have stays := h.setDescriptor found h.offset_le
  unfold Kernel.writeAt
  rw [append, if_neg Bool.false_ne_true, offset]
  dsimp only
  by_cases none : data = []
  · rw [none, Bytes.storeAt_nil]
    exact ⟨_, .inr ⟨rfl, stays⟩⟩
  rw [if_neg (mt List.isEmpty_iff.1 none)]
  by_cases beyond : m.offset + data.length > k.largestFile
  · rw [if_pos beyond]
    exact ⟨_, .inl ⟨rfl, stays⟩⟩
  rw [if_neg beyond]
  refine ⟨_, .inr ⟨rfl, ?_⟩⟩
  obtain ⟨_, script, stored, _, count⟩ := h.stored
  have fair : Fair script := h.fair _ stored
  have fits : m.offset + data.length ≤ Descriptor.maxOffset :=
    Nat.le_trans (Nat.not_lt.1 beyond) h.largest
  have view : (contents.write m.offset data).toBytes = m.contents.storeAt m.offset data := by
    rw [toBytes_write contents m.offset none, bytes]
  have le : (contents.write m.offset data).toBytes.length ≤ Descriptor.maxOffset := by
    rw [view]
    exact Nat.le_trans (Bytes.length_storeAt_le _ _ _) (Nat.max_le.2 ⟨h.length_le, fits⟩)
  subst node
  rw [setBody_of_node stored]
  have held := (h.setNode _ fair le).setDescriptor found fits
  rw [view, count] at held
  exact held

theorem Holds.write (h : k.Holds fd path m) (data : Bytes) :
    ∃ m', m.Replies fd (Descriptor.writing fd data (k.write fd data).1) m' ∧
      (k.write fd data).2.Holds fd path m' := by
  rw [Kernel.write, if_neg h.numbered]
  unfold Kernel.writeNode
  obtain ⟨k₁, patience, held, le, ⟨e, run, _, less⟩ |
    ⟨file, contents, max?, found, node, readable, offset, bytes, run, limit, _⟩⟩ :=
    h.onDescriptor .write _
  · rw [run]
    exact ⟨_, .writeFailed le fun _ => less, held⟩
  by_cases closed : file.flags.access = .readOnly
  · rw [run, if_pos closed]
    exact ⟨_, .writeFailed le nofun, held⟩
  have append : file.flags.append = false := readable.here.resolve_left closed
  have fits : limited data.length max? ≤ data.length := Nat.min_le_left _ _
  have count : (data.take (limited data.length max?)).length = limited data.length max? :=
    List.length_take_of_le fits
  rw [run, if_neg closed]
  dsimp only
  obtain ⟨k₂, ⟨wrote, held⟩ | ⟨wrote, held⟩⟩ :=
    held.writeAt found node append offset bytes (data.take (limited data.length max?))
  · rw [wrote]
    exact ⟨_, .writeFailed le nofun, held⟩
  · rw [wrote]
    rw [count] at held ⊢
    refine ⟨_, .wrote fits le fun some zero => limit fun none => ?_, held⟩
    -- Without a limit nothing is cut off.
    rw [none] at zero
    exact some (List.length_eq_zero_iff.1 ((Nat.min_self _).symm.trans zero))

/-- **A move of the descriptor** of a held file succeeds when its position can be named. -/
theorem Holds.seek (h : k.Holds fd path m) {offset : Int} (whence : Whence) {target : Nat}
    (goes : (match whence with
      | .start => (0 : Int)
      | .current => m.offset
      | .finish => m.contents.length) + offset = target) (le : target ≤ Descriptor.maxOffset) :
    ∃ k₁, k.seek fd offset whence = (.ok target, k₁) ∧
      k₁.Holds fd path { m with offset := target } := by
  unfold Kernel.seek
  obtain ⟨k₁, patience, held, _, ⟨_, _, no, _⟩ |
    ⟨file, contents, max?, found, _, _, here, bytes, run, _, same, _⟩⟩ :=
    h.onDescriptor .seek _
  · exact absurd rfl no
  have size : contents.size = m.contents.length := by rw [← Contents.length_toBytes, bytes]
  have named : ¬((target : Int) < 0 || (target : Int) > 0x7fffffffffffffff) := by
    rw [Bool.or_eq_true, decide_eq_true_iff, decide_eq_true_iff]
    rw [Descriptor.maxOffset] at le
    omega
  refine ⟨k₁.setDescriptor fd { file with offset := target }, ?_, ?_⟩
  · rw [run]
    dsimp only [Body.extent?]
    rw [size, here]
    cases whence <;> (dsimp only at goes ⊢; rw [goes, if_neg named, Int.toNat_natCast])
  · obtain rfl := same rfl
    exact held.setDescriptor found le

/-! ## Dialogues -/

/-- **Whatever a channel asks**, a held file replies as its medium. -/
theorem Holds.answer (h : k.Holds fd path m) {r : Request}
    (asks : Exchange.Asks fd ⟨r, (k.answer r).1⟩) :
    ∃ m', m.Replies fd ⟨r, (k.answer r).1⟩ m' ∧ (k.answer r).2.Holds fd path m' := by
  generalize whole : (⟨r, (k.answer r).1⟩ : Exchange) = e at asks
  cases asks with
  | read len reply =>
    cases whole
    exact h.read len
  | write data reply =>
    cases whole
    exact h.write data
  | seek seeks =>
    cases seeks with
    | here reply =>
      cases whole
      obtain ⟨k₁, run, held⟩ := h.seek .current (Int.add_zero _) h.offset_le
      have answer : k.answer (.seek fd 0 .current) = (.ok m.offset, k₁) := run
      rw [answer]
      exact ⟨m, .here h.offset_le, held⟩
    | finish reply =>
      cases whole
      obtain ⟨k₁, run, held⟩ := h.seek .finish (Int.add_zero _) h.length_le
      have answer : k.answer (.seek fd 0 .finish) = (.ok m.contents.length, k₁) := run
      rw [answer]
      exact ⟨_, .finish, held⟩
    | @start position reply le =>
      cases whole
      obtain ⟨k₁, run, held⟩ := h.seek .start (Int.zero_add _) le
      have answer : k.answer (.seek fd position .start) = (.ok position, k₁) := run
      rw [answer]
      exact ⟨_, .start le, held⟩

/-- **A dialogue with a held file** is one with its medium. -/
theorem Holds.converses {es : Dialogue} (h : k.Holds fd path m) (leads : Host.Leads k es k')
    (asks : es.Asks fd) : ∃ m', m.Converses fd es m' ∧ k'.Holds fd path m' := by
  induction leads generalizing m with
  | nil k => exact ⟨m, .nil m, h⟩
  | cons r _ ih =>
    obtain ⟨first, rest⟩ := List.forall_mem_cons.1 asks
    obtain ⟨m₁, reply, held⟩ := h.answer first
    obtain ⟨m', converses, held'⟩ := ih held rest
    exact ⟨m', .cons reply converses, held'⟩
  | allocate _ ih =>
    exact ih h.allocate asks

/-! ## Opening -/

theorem le_freeFrom (k : Kernel) (fuel n : Nat) : n ≤ k.freeFrom fuel n := by
  induction fuel generalizing n with
  | zero => exact Nat.le_refl n
  | succ fuel ih =>
    rw [freeFrom]
    split
    · exact Nat.le_of_succ_le (ih (n + 1))
    · exact Nat.le_refl n

theorem Calm.newDescriptor (h : k.Calm path) {flags : Flags} (readable : Readable flags) :
    ∃ fd k₁, k.newDescriptor path flags = (.ok fd, k₁) ∧ k₁.Stands fd path 0 :=
  ⟨_, _, rfl,
    { toCalm := ⟨h.alone, h.fair, h.short, h.largest⟩
      opened := ⟨_, (lookup_assign ..).trans (if_pos rfl), rfl,
        ⟨readable.reads, readable.here⟩, rfl⟩
      numbered := by
        intro same
        have := k.le_freeFrom k.descriptors.length 3
        have : (k.freeFrom k.descriptors.length 3 : Int) = 2 := same
        omega
      offset_le := Nat.zero_le _ }⟩

/-- **Opening a calm path** gives a descriptor that stands at its beginning, if it gives one. -/
theorem Calm.openPath (h : k.Calm path) (flags : Flags) (readable : Readable flags)
    (opened : k.openPath path flags = (.ok fd, k')) :
    k'.Stands fd path 0 := by
  have calm := (h.consult .openPath).1
  have short (contents : Contents) (is : Body.file {} = .file contents) :
      contents.toBytes.length ≤ Descriptor.maxOffset := Body.file.inj is ▸ Nat.zero_le _
  have done {k₁ : Kernel} (calm : k₁.Calm path)
      (opened : k₁.newDescriptor path flags = (.ok fd, k')) : k'.Stands fd path 0 := by
    obtain ⟨fd', k₂, run, stands⟩ := calm.newDescriptor readable
    obtain ⟨same, rfl⟩ := Prod.mk.inj (run.symm.trans opened)
    exact Except.ok.inj same ▸ stands
  unfold Kernel.openPath at opened
  dsimp only at opened
  split at opened
  · cases opened
  split at opened
  · split at opened
    · exact done (calm.setNode (fun _ no => absurd no List.not_mem_nil) short) opened
    · cases opened
  · split at opened
    · cases opened
    split at opened
    · cases opened
    split at opened
    · cases opened
    refine done ?_ opened
    split
    · split
      · exact calm.setBody short
      · exact calm
    · exact calm

/-- **Only files have the mode** of a regular file. -/
theorem eq_file_of_mode {body : Body} (regular : Kind.ofMode body.mode = .regular) :
    ∃ contents, body = .file contents := by
  have others : ∀ mode ∈ [0o040755, 0o010600, 0o020600, 0o140600, 0o020666],
      Kind.ofMode mode ≠ .regular := by decide
  rcases body with contents | _ | ⟨⟨_ | _ | _, _, _, _, _, _⟩⟩ | _
  · exact ⟨contents, rfl⟩
  all_goals exact absurd regular (others _ (by simp [Body.mode]))

/-- **Asking for the kind** tells of a file only where one is. -/
theorem Stands.stat (h : k.Stands fd path 0) {bits : Nat} (regular : Kind.ofMode bits = .regular)
    (told : k.onDescriptor fd .stat (fun k _ body _ => (.ok body.mode, k)) = (.ok bits, k')) :
    ∃ contents patience, k'.Holds fd path ⟨contents, 0, patience⟩ := by
  obtain ⟨file, found, rfl, _⟩ := h.opened
  obtain ⟨calm, same⟩ := h.toCalm.consult .stat
  have stands := h.stay calm (same fd)
  unfold Kernel.onDescriptor at told
  rw [found] at told
  dsimp only at told
  cases errno : (k.consult file.node .stat).1.errno? with
  | some e =>
    simp [errno] at told
  | none =>
    rw [errno] at told
    dsimp only at told
    cases stored : (k.consult file.node .stat).2.node? file.node with
    | none =>
      simp [stored] at told
    | some node =>
      rw [stored] at told
      obtain ⟨mode, rfl⟩ := Prod.mk.inj told
      obtain ⟨body, script⟩ := node
      obtain ⟨contents, rfl⟩ := eq_file_of_mode (Except.ok.inj mode ▸ regular)
      exact ⟨_, _, { stands with stored := ⟨contents, script, stored, rfl, rfl⟩ }⟩

/-- **A channel that was opened for reading**, and perhaps for writing, stands at the beginning of a
file that is held. -/
theorem Calm.holds_of_readable (h : k.Calm path) {flags : Flags} {mode : Nat} {config : Config}
    {waiter : Waiter} {es : Dialogue} {c : Channel} (readable : Readable flags)
    (opened : Channel.Opened path flags mode config waiter es c)
    (regular : c.kind = .regular) (leads : Host.Leads k es k') :
    ∃ contents patience, k'.Holds c.fd path ⟨contents, 0, patience⟩ := by
  obtain ⟨claims, bits, told, kind, rfl⟩ := opened.exchanges
  obtain ⟨k₁, r, calm, first, rest⟩ := leads.next (P := (·.Calm path)) (fun _ => Calm.allocate) h
  obtain ⟨rfl, reply⟩ := Exchange.mk.inj first
  have stands := calm.openPath (Channel.openFlags flags config) ⟨readable.reads, readable.here⟩
    (Prod.ext (eq_of_heq reply).symm rfl)
  obtain ⟨k₂, stands, last⟩ :=
    told.leads (P := (·.Stands c.fd path 0)) (fun _ => Stands.allocate) (fun _ h => h) rest stands
  obtain ⟨k₃, r, stands, second, rest⟩ :=
    last.next (P := (·.Stands c.fd path 0)) (fun _ => Stands.allocate) stands
  obtain ⟨rfl, reply⟩ := Exchange.mk.inj second
  obtain ⟨contents, patience, held⟩ := stands.stat (kind.symm.trans regular)
    (Prod.ext (eq_of_heq reply).symm rfl)
  exact ⟨contents, patience, rest.stays (P := (·.Holds c.fd path ⟨contents, 0, patience⟩))
    (fun _ => Holds.allocate) held⟩

/-- **A channel that was opened for reading and writing** stands there too. -/
theorem Calm.holds_of_opened (h : k.Calm path) {flags : Flags} {mode : Nat} {config : Config}
    {waiter : Waiter} {es : Dialogue} {c : Channel} (access : flags.access = .readWrite)
    (append : flags.append = false) (opened : Channel.Opened path flags mode config waiter es c)
    (regular : c.kind = .regular) (leads : Host.Leads k es k') :
    ∃ contents patience, k'.Holds c.fd path ⟨contents, 0, patience⟩ :=
  h.holds_of_readable ⟨by rw [access]; exact nofun, .inr append⟩ opened regular leads

end BufferedChannels.Simulation.Kernel
