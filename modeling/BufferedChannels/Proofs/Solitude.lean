import BufferedChannels.Proofs.Ahead
import BufferedChannels.Proofs.Confinement

/-!
# Proofs/Solitude — a descriptor and a node that nobody else uses

Where no event is about a node, and its script leaves moves alone, a move does **just what it is to
do**: no time passes, and the kernel differs in the position at most (`Lone.seek_ok`).  So a
question for the position leaves the whole kernel as it was, and so does a move to the end and back.
Everything that a channel asks of its descriptor keeps it alone (`Lone.leads`).
-/

namespace BufferedChannels

namespace Simulation

/-- The bytes that a node keeps in place. -/
def Body.bulk : Body → Nat
  | .file contents | .directory contents => contents.size
  | .stream _ => 0

/-- **A script that leaves moves alone.** -/
def Unsought (script : List (CallKind × Adjustment)) : Prop := ∀ item ∈ script, item.1 ≠ .seek

namespace Kernel

variable {k k' : Kernel} {fd : Int} {file : OpenFile} {body : Body}

/-- Where nothing is overdue, **a script without a word on a call** leaves everything as it is. -/
theorem Settled.consult_of_silent (h : k.Settled) {name : String} (kind : CallKind)
    (silent : ∀ node, k.node? name = some node → ∀ item ∈ node.script, item.1 ≠ kind) :
    k.consult name kind = ({}, k) := by
  cases found : k.node? name with
  | none => rw [Kernel.consult, found]
  | some node =>
    obtain ⟨none | ⟨word, _⟩, _⟩ := takeAdjustment_spec kind node.script
    · have same : k.setNode name node = k := by rw [setNode, assign_of_lookup found]
      rw [consult_of_node found, none]
      show (({}, (k.setNode name node).sleep 0) : Adjustment × Kernel) = ({}, k)
      rw [same, h.sleep_zero]
    · exact absurd rfl (silent node found _ word)

/-- **A descriptor and its node in one hand.**  No event is about the node, its script leaves moves
alone, and the position and the end can be told. -/
structure Lone (k : Kernel) (fd : Int) (file : OpenFile) (body : Body) : Prop where
  opened : k.descriptors.lookup fd = some file
  stored : k.body? file.node = some body
  unsought : ∀ node, k.node? file.node = some node → Unsought node.script
  alone : ∀ event ∈ k.events, event.2.node ≠ file.node
  settled : k.Settled
  largest : k.largestFile ≤ Descriptor.maxOffset
  place : file.offset ≤ Descriptor.maxOffset
  short : body.bulk ≤ Descriptor.maxOffset

/-- **What becomes of it** in the hands of a channel: the descriptor stays on its node, which is
still nobody else's, and nothing is taken away from what is there. -/
def Stays (k : Kernel) (fd : Int) (name : String) (body : Body) : Prop :=
  ∃ file' body', k.Lone fd file' body' ∧ file'.node = name ∧ body.Grows body'

namespace Lone

theorem stays (h : k.Lone fd file body) : k.Stays fd file.node body :=
  ⟨file, body, h, rfl, .refl body⟩

theorem standing (h : k.Lone fd file body) : k.standing? fd = some (file, body) :=
  standing?_of_lookup h.opened h.stored

/-- **Whatever happens to others.** -/
theorem passes (h : k.Lone fd file body) (passes : Passes k k') : k'.Lone fd file body where
  opened := passes.table.1 ▸ h.opened
  stored := (passes.alone file.node h.alone).trans h.stored
  unsought := by
    intro node' found
    obtain ⟨node, there, words⟩ := passes.unwritten file.node node' found
    exact fun item mem => h.unsought node there item (words item mem)
  alone event mem := h.alone event (passes.events event mem)
  settled := passes.settled h.settled
  largest := passes.largestFile ▸ h.largest
  place := h.place
  short := h.short

/-- **What happens elsewhere**, if nothing is overdue then. -/
theorem elsewhere (h : k.Lone fd file body) (other : Elsewhere fd file.node k k')
    (settled : k'.Settled) : k'.Lone fd file body where
  opened := other.descriptor.trans h.opened
  stored := by rw [body?, other.node]; exact h.stored
  unsought := other.node ▸ h.unsought
  alone := other.alone h.alone
  settled := settled
  largest := other.largestFile ▸ h.largest
  place := h.place
  short := h.short

/-- An allocation does not touch it. -/
theorem allocate (h : k.Lone fd file body) : k.allocate.2.Lone fd file body :=
  ⟨h.opened, h.stored, h.unsought, h.alone, h.settled, h.largest, h.place, h.short⟩

/-- A descriptor that is put in place on the same node. -/
theorem setDescriptor (h : k.Lone fd file body) {file' : OpenFile} (node : file'.node = file.node)
    (place : file'.offset ≤ Descriptor.maxOffset) :
    (k.setDescriptor fd file').Lone fd file' body where
  opened := (lookup_assign ..).trans (if_pos rfl)
  stored := node ▸ h.stored
  unsought := node ▸ h.unsought
  alone := node ▸ h.alone
  settled := h.settled
  largest := h.largest
  place := place
  short := h.short

/-- A body that is put in place in the node. -/
theorem setBody (h : k.Lone fd file body) {body' : Body}
    (short : body'.bulk ≤ Descriptor.maxOffset) :
    (k.setBody file.node body').Lone fd file body' := by
  obtain ⟨node, found, rfl⟩ := Option.map_eq_some_iff.1 h.stored
  have after : k.setBody file.node body' = k.setNode file.node { node with body := body' } := by
    rw [Kernel.setBody, found]
  rw [after]
  refine ⟨h.opened, (body?_setNode ..).trans (if_pos rfl), fun node' there => ?_, h.alone,
    h.settled, h.largest, h.place, short⟩
  rw [node?_setNode, if_pos rfl] at there
  obtain rfl := Option.some.inj there
  exact h.unsought node found

/-! ## Moves -/

/-- **A move is made on the spot.** -/
theorem seek_eq (h : k.Lone fd file body) (offset : Int) (whence : Whence) :
    k.seek fd offset whence = match body.extent? with
      | none => (.error .notSeekable, k)
      | some size =>
        let target := (origin file.offset size whence : Int) + offset
        if target < 0 ∨ target > Descriptor.maxOffset then (.error .invalid, k)
        else (.ok target.toNat, k.setDescriptor fd { file with offset := target.toNat }) := by
  obtain ⟨node, found, rfl⟩ := Option.map_eq_some_iff.1 h.stored
  have silent := h.settled.consult_of_silent .seek h.unsought
  rw [Kernel.seek, onDescriptor, h.opened]
  dsimp only
  rw [silent]
  dsimp only
  rw [found]
  dsimp only
  cases node.body.extent? with
  | none => rfl
  | some size =>
    cases whence
    all_goals
      simp only [Bool.or_eq_true, decide_eq_true_eq]
      rfl

/-- **A move to a position that can be told** changes the position. -/
theorem seek_ok (h : k.Lone fd file body) {offset : Int} {whence : Whence} {size target : Nat}
    (extent : body.extent? = some size)
    (is : (origin file.offset size whence : Int) + offset = target)
    (le : target ≤ Descriptor.maxOffset) : k.seek fd offset whence =
      (.ok target, k.setDescriptor fd { file with offset := target }) := by
  rw [h.seek_eq, extent]
  dsimp only
  rw [is, if_neg (by omega)]
  rfl

theorem setDescriptor_self (h : k.Lone fd file body) : k.setDescriptor fd file = k := by
  rw [Kernel.setDescriptor, assign_of_lookup h.opened]

/-- **A question for the position** leaves everything as it is. -/
theorem seek_current (h : k.Lone fd file body) : (k.seek fd 0 .current).2 = k ∧
    ∀ here, (k.seek fd 0 .current).1 = .ok here → here = file.offset := by
  rw [h.seek_eq]
  split
  · exact ⟨rfl, nofun⟩
  · dsimp only
    rw [origin, Int.add_zero]
    split
    · exact ⟨rfl, nofun⟩
    · exact ⟨h.setDescriptor_self, fun here is => (Except.ok.inj is).symm⟩

section File

variable {contents : Contents}

/-- **The position of a file** can be told. -/
theorem seek_here (h : k.Lone fd file (.file contents)) :
    k.seek fd 0 .current = (.ok file.offset, k) := by
  have here : (origin file.offset contents.size .current : Int) + 0 = file.offset := Int.add_zero _
  rw [h.seek_ok rfl here h.place]
  exact congrArg _ h.setDescriptor_self

/-- **The end of a file** is where it can be told. -/
theorem seek_finish (h : k.Lone fd file (.file contents)) : k.seek fd 0 .finish =
    (.ok contents.size, k.setDescriptor fd { file with offset := contents.size }) :=
  h.seek_ok rfl (Int.add_zero _) h.short

/-- **The way back from the end** leads to where everything was. -/
theorem seek_back (h : k.Lone fd file (.file contents)) :
    (k.setDescriptor fd { file with offset := contents.size }).seek fd file.offset .start =
      (.ok file.offset, k) := by
  have atEnd : (k.setDescriptor fd { file with offset := contents.size }).Lone fd
      { file with offset := contents.size } (.file contents) := h.setDescriptor rfl h.short
  rw [atEnd.seek_ok rfl (Int.zero_add _) h.place]
  have home : (k.setDescriptor fd { file with offset := contents.size }).setDescriptor fd file =
      k := by
    rw [Kernel.setDescriptor, Kernel.setDescriptor, assign_assign, assign_of_lookup h.opened]
  exact congrArg _ home

end File

/-! ## Everything that a channel asks -/

/-- **A call on the descriptor** that is not refused finds it as it was. -/
theorem onDescriptor {α : Type} (h : k.Lone fd file body) {kind : CallKind}
    {act : Kernel → OpenFile → Body → Option Nat → Except Errno α × Kernel}
    (acts : ∀ k max?, k.Lone fd file body → (act k file body max?).2.Stays fd file.node body) :
    (k.onDescriptor fd kind act).2.Stays fd file.node body := by
  obtain ⟨k₁, passes, ⟨e, run⟩ | ⟨file', body', max?, opened, found, run⟩⟩ :=
    k.onDescriptor_ways fd kind act
  all_goals
    have lone := h.passes passes
    rw [run]
  · exact lone.stays
  · obtain rfl := Option.some.inj (opened.symm.trans lone.opened)
    obtain rfl := Option.some.inj (found.symm.trans lone.stored)
    exact acts k₁ max? lone

theorem stays_setDescriptor (h : k.Lone fd file body) {offset : Nat}
    (place : offset ≤ Descriptor.maxOffset) :
    (k.setDescriptor fd { file with offset }).Stays fd file.node body :=
  ⟨_, body, h.setDescriptor rfl place, rfl, .refl body⟩

theorem stays_setBody (h : k.Lone fd file body) {body' : Body}
    (short : body'.bulk ≤ Descriptor.maxOffset) (grows : body.Grows body') :
    (k.setBody file.node body').Stays fd file.node body :=
  ⟨file, body', h.setBody short, rfl, grows⟩

/-- A part of a file that begins where a descriptor stands ends where a descriptor may stand. -/
theorem slice_within {contents : Contents} (h : k.Lone fd file (.file contents)) (count : Nat) :
    file.offset + (contents.toBytes.slice file.offset count).length ≤ Descriptor.maxOffset := by
  have place := h.place
  have short : contents.size ≤ Descriptor.maxOffset := h.short
  rw [Bytes.slice, List.length_take, List.length_drop, Contents.length_toBytes]
  omega

theorem read (h : k.Lone fd file body) (len : Nat) :
    (k.read fd len).2.Stays fd file.node body := by
  refine h.onDescriptor fun k max? h => ?_
  dsimp only
  split
  · exact h.stays
  rcases body with contents | contents | stream
  · refine h.stays_setDescriptor ?_
    rw [Contents.read_eq_slice]
    exact h.slice_within _
  · exact h.stays
  · dsimp only
    split
    · split
      · exact h.stays
      · exact h.stays
    · exact h.stays_setBody (Nat.zero_le _) (.stream _ _)

/-- **A write** reaches no farther than a file may. -/
theorem writeAt {contents : Contents} {rebuild : Contents → Body}
    (h : k.Lone fd file (rebuild contents)) (bulk : ∀ c, (rebuild c).bulk = c.size)
    (grows : ∀ c : Contents, contents.size ≤ c.size → (rebuild contents).Grows (rebuild c))
    (data : Bytes) :
    (k.writeAt fd file contents rebuild data).2.Stays fd file.node (rebuild contents) := by
  have short : contents.size ≤ Descriptor.maxOffset := bulk contents ▸ h.short
  have place : (if file.flags.append then contents.size else file.offset) ≤
      Descriptor.maxOffset := by
    split
    · exact short
    · exact h.place
  unfold Kernel.writeAt
  generalize (if file.flags.append then contents.size else file.offset) = offset at place ⊢
  dsimp only
  split
  · exact h.stays_setDescriptor place
  split
  · exact h.stays_setDescriptor place
  · next fits =>
    have reach : offset + data.length ≤ Descriptor.maxOffset :=
      Nat.le_trans (Nat.not_lt.1 fits) h.largest
    have size := contents.size_write offset data
    have bounded : (rebuild (contents.write offset data)).bulk ≤ Descriptor.maxOffset := by
      rw [bulk, size]
      exact Nat.max_le.2 ⟨short, reach⟩
    have written := h.setBody bounded
    exact ⟨_, _, written.setDescriptor rfl reach, rfl,
      grows _ (size ▸ Nat.le_max_left _ _)⟩

theorem write (h : k.Lone fd file body) (data : Bytes) :
    (k.write fd data).2.Stays fd file.node body := by
  unfold Kernel.write
  split
  · exact h.stays
  refine h.onDescriptor fun k max? h => ?_
  dsimp only
  split
  · exact h.stays
  rcases body with contents | contents | stream
  · exact h.writeAt (fun _ => rfl) (fun _ => .file) _
  · exact h.writeAt (fun _ => rfl) (fun _ _ => .directory _ _) _
  · dsimp only
    split
    · exact h.stays
    split
    · exact h.stays
    · exact h.stays_setBody (Nat.zero_le _) (.stream _ _)

theorem seek (h : k.Lone fd file body) (offset : Int) (whence : Whence) :
    (k.seek fd offset whence).2.Stays fd file.node body := by
  rw [h.seek_eq]
  split
  · exact h.stays
  · dsimp only
    split
    · exact h.stays
    · exact h.stays_setDescriptor (by omega)

/-- **Whatever a channel asks of its descriptor**, it keeps it alone. -/
theorem answer (h : k.Lone fd file body) {r : Request} {reply : r.Reply}
    (uses : Exchange.Uses fd ⟨r, reply⟩) : (k.answer r).2.Stays fd file.node body := by
  cases r with
  | read target len =>
    obtain rfl : target = fd := uses
    exact h.read len
  | write target data =>
    obtain rfl : target = fd := uses
    exact h.write data
  | seek target offset whence =>
    obtain rfl : target = fd := uses
    exact h.seek offset whence
  | stat target =>
    obtain rfl : target = fd := uses
    exact h.onDescriptor fun _ _ h => h.stays
  | poll target direction timeout => exact (h.passes (k.passes_poll target direction timeout)).stays
  | wait target direction left => exact (h.passes (k.passes_wait direction)).stays
  | _ => exact absurd uses id

/-- **However long a channel talks to its descriptor**, it keeps it alone. -/
theorem leads {es : Dialogue} (leads : Host.Leads k es k') (uses : ∀ e ∈ es, e.Uses fd)
    (h : k.Lone fd file body) : k'.Stays fd file.node body := by
  induction leads generalizing file body with
  | nil => exact h.stays
  | allocate _ ih => exact ih uses h.allocate
  | cons r _ ih =>
    obtain ⟨first, rest⟩ := List.forall_mem_cons.1 uses
    obtain ⟨file₁, body₁, h₁, node, grows⟩ := h.answer first
    obtain ⟨file₂, body₂, h₂, node', grows'⟩ := ih rest h₁
    exact ⟨file₂, body₂, h₂, node'.trans node, grows.trans grows'⟩

end Lone

end Kernel

end Simulation

/-! ## Questions -/

open Simulation

/-- One move, and the kernel after it. -/
theorem Descriptor.seek_asks (fd : Int) (offset : Int) (whence : Whence) (s : System Kernel) :
    (do return settle (← Act.call (.seek fd offset whence)) : Act Kernel _).Ensures s
      (fun es r s' => es.length = 1 ∧ r = settle (s.host.seek fd offset whence).1 ∧
        s'.host = (s.host.seek fd offset whence).2 ∧ s'.ownership = s.ownership)
      (fun es _ s' => es = [] ∧ s'.budget = 0) := by
  refine Act.ensures_bind (M := fun es reply s' => es.length = 1 ∧
    reply = (s.host.seek fd offset whence).1 ∧ s'.host = (s.host.seek fd offset whence).2 ∧
      s'.ownership = s.ownership)
    (Act.ensures_exchange (.seek fd offset whence) (fun s' _ host owned => ⟨rfl, rfl, host, owned⟩)
      fun spent => ⟨rfl, spent⟩) fun es reply s' _ ⟨one, is, host, owned⟩ => ?_
  exact Act.ensures_pure ⟨by rw [List.append_nil, one], congrArg settle is, host, owned⟩

namespace Channel

variable {c : Channel} {s : System Kernel} {file : OpenFile} {body : Body}

/-- **A system that was only asked**: the host and the owners are as they were. -/
def Asked (s s' : System Kernel) : Prop := s'.host = s.host ∧ s'.ownership = s.ownership

/-- **`tell` changes nothing**, and tells the position of the descriptor, if it has one, less the
bytes read ahead.  It breaks a rule where these are too many, and leaves everything as it was. -/
theorem tell_still (h : s.host.Lone c.fd file body) :
    c.tell.Ensures s
      (fun _ r s' => Asked s s' ∧ (body.extent?.isSome = true → c.liveCount ≤ file.offset ∧
        r = .ok (file.offset - c.liveCount)))
      (fun es halt s' => (s'.budget = 0 ∧ es.length ≤ 3) ∨ Asked s s' ∧
        halt = .faulted "attempt to subtract with overflow" (some c) ∧
        file.offset < c.liveCount) := by
  unfold tell Descriptor.position
  refine Act.ensures_bind ((Descriptor.seek_asks c.fd 0 .current s).mono (fun _ _ _ _ h => h)
    fun es _ _ _ ⟨silent, spent⟩ => .inl ⟨spent, by rw [silent]; exact Nat.zero_le _⟩)
    fun es r s' _ ⟨_, is, host, owned⟩ => ?_
  obtain ⟨still, position⟩ := h.seek_current
  have asked : Asked s s' := ⟨host.trans still, owned⟩
  rcases told : (s.host.seek c.fd 0 .current).1 with e | physical
  all_goals rw [told] at is
  all_goals subst is
  · refine Act.ensures_pure ⟨asked, fun seekable => ?_⟩
    obtain ⟨size, extent⟩ := Option.isSome_iff_exists.1 seekable
    have here : (Kernel.origin file.offset size .current : Int) + 0 = file.offset := Int.add_zero _
    rw [h.seek_ok extent here h.place] at told
    cases told
  · obtain rfl := position physical told
    dsimp only [Descriptor.settle]
    split
    · next behind =>
      exact Act.ensures_bind (M := fun _ _ _ => False) (Act.ensures_leaving c
        (Act.ensures_throw (.inr ⟨asked, rfl, behind⟩))) fun _ _ _ _ no => no.elim
    · next enough => exact Act.ensures_pure ⟨asked, fun _ => ⟨Nat.not_lt.1 enough, rfl⟩⟩

/-- **`size` changes nothing** either, and counts the pending bytes to the file, wherever the
position is. -/
theorem size_still {contents : Contents} (h : s.host.Lone c.fd file (.file contents))
    (regular : c.kind.isRegular = true) :
    c.size.Ensures s
      (fun _ r s' => Asked s s' ∧ r = .ok (contents.size + c.pendingCount))
      (fun es _ s' => s'.budget = 0 ∧ es.length ≤ 3) := by
  have halts {spent : Nat} {es es' : Dialogue} {t : System Kernel} (few : es.length ≤ spent)
      (silent : es' = [] ∧ t.budget = 0) (le : spent ≤ 3) :
      t.budget = 0 ∧ (es ++ es').length ≤ 3 := by
    rw [silent.1, List.append_nil]
    exact ⟨silent.2, Nat.le_trans few le⟩
  unfold size Descriptor.position Descriptor.seekEnd
  rw [if_neg (by rw [regular]; exact Bool.false_ne_true)]
  -- Where the position is,
  refine Act.ensures_bind ((Descriptor.seek_asks c.fd 0 .current s).mono (fun _ _ _ _ h => h)
    fun es _ _ _ ⟨silent, spent⟩ => ⟨spent, by rw [silent]; exact Nat.zero_le 3⟩)
    fun es r s₁ _ ⟨one, is, host, owned⟩ => ?_
  rw [h.seek_here] at is host
  subst is
  -- …where the end is,
  refine Act.ensures_bind ((Descriptor.seek_asks c.fd 0 .finish s₁).mono (fun _ _ _ _ h => h)
    fun es' _ _ _ silent => halts (Nat.le_of_eq one) silent (by decide))
    fun es' r s₂ _ ⟨one', is, host', owned'⟩ => ?_
  rw [host, h.seek_finish] at is host'
  subst is
  have two : (es ++ es').length = 2 := by rw [List.length_append, one, one']
  -- …and back.
  unfold Descriptor.seekTo Descriptor.offset?
  rw [if_pos h.place]
  refine Act.ensures_bind ((Descriptor.seek_asks c.fd file.offset .start s₂).mono
    (fun _ _ _ _ h => h) fun es'' _ _ _ silent => ?_) fun es'' r s₃ _ ⟨_, is, host'', owned''⟩ => ?_
  · rw [← List.append_assoc]
    exact halts (Nat.le_of_eq two) silent (by decide)
  · rw [host', h.seek_back] at is host''
    subst is
    exact Act.ensures_pure ⟨⟨host'', owned''.trans (owned'.trans owned)⟩, rfl⟩

/-- **`size` asks nothing** of what is no regular file. -/
theorem size_unsupported (other : c.kind.isRegular = false) (s : System Kernel) :
    c.size.Ensures s (fun es r s' => es = [] ∧ Asked s s' ∧ r = .error .unsupported)
      (fun _ _ _ => False) := by
  unfold size
  rw [if_pos (show (!c.kind.isRegular) = true by rw [other]; rfl)]
  exact Act.ensures_log _ _ fun j => Act.ensures_pure ⟨rfl, ⟨rfl, rfl⟩, rfl⟩

end Channel

end BufferedChannels
