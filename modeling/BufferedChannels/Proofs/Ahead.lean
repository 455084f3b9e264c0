import BufferedChannels.Proofs.Clock
import BufferedChannels.Proofs.Passage
import BufferedChannels.Descriptor

/-!
# Proofs/Ahead — how many bytes lie before the position of a descriptor

A descriptor `Covers` a number of bytes when so many lie before its position, **in the file**: the
position alone would not do, because a write that appends takes it to the end, and so does a
question for the length that cannot come back.  A read covers the bytes that it delivers besides,
and no other use of the descriptor covers less (`Covers.forward`), unless it moves the position to a
place of its own choice.
-/

namespace BufferedChannels

open Simulation

/-! ## Positions in a body -/

namespace Simulation

namespace Body

/-- **Whether bytes have a place** in a body. -/
def isSeekable : Body → Bool
  | .file _ | .directory _ => true
  | .stream _ => false

/-- **So many bytes lie before a position.**  No bytes are ever read from a directory, and a stream
has no positions. -/
def Covers (offset n : Nat) : Body → Prop
  | .file contents => n ≤ offset ∧ n ≤ contents.size
  | .directory _ => n = 0
  | .stream _ => True

theorem covers_zero (offset : Nat) (body : Body) : body.Covers offset 0 := by
  cases body
  · exact ⟨Nat.zero_le _, Nat.zero_le _⟩
  · exact rfl
  · trivial

theorem Covers.mono {body : Body} {offset n m : Nat} (h : body.Covers offset n)
    (le : m ≤ n) : body.Covers offset m := by
  cases body with
  | file contents => exact ⟨Nat.le_trans le h.1, Nat.le_trans le h.2⟩
  | directory contents => exact Nat.eq_zero_of_le_zero (h ▸ le)
  | stream stream => trivial

/-- Nothing is covered by any position. -/
theorem Covers.nothing {body : Body} {offset n : Nat} (h : body.Covers offset n)
    (position : Nat) : body.Covers position 0 := by
  cases body with
  | file contents => exact ⟨Nat.zero_le _, Nat.zero_le _⟩
  | directory contents => exact rfl
  | stream stream => trivial

/-- **Where bytes have a place**, no fewer than are covered lie before the position. -/
theorem Covers.le {body : Body} {offset n : Nat} (h : body.Covers offset n)
    (seekable : body.isSeekable = true) : n ≤ offset := by
  cases body with
  | file contents => exact h.1
  | directory contents => exact h ▸ Nat.zero_le offset
  | stream stream => cases seekable

/-- A body that grows covers as much. -/
theorem Covers.grows {body body' : Body} {offset n : Nat} (h : body.Covers offset n)
    (grows : body.Grows body') : body'.Covers offset n := by
  cases grows with
  | file le => exact ⟨h.1, Nat.le_trans h.2 le⟩
  | directory => exact h
  | stream => trivial

/-- **The end** covers what any position does. -/
theorem Covers.atEnd {body : Body} {offset n size : Nat} (h : body.Covers offset n)
    (extent : body.extent? = some size) : body.Covers size n := by
  cases body with
  | file contents =>
    obtain rfl : contents.size = size := Option.some.inj extent
    exact ⟨h.2, h.2⟩
  | directory contents => exact h
  | stream stream => trivial

end Body

namespace Kernel

variable {k k' : Kernel} {fd : Int} {n : Nat}

/-- **What stands behind a descriptor**: its state, and the body of its node. -/
def standing? (k : Kernel) (fd : Int) : Option (OpenFile × Body) :=
  (k.descriptors.lookup fd).bind fun file => (k.body? file.node).map fun body => (file, body)

theorem standing?_of_lookup {file : OpenFile} {body : Body}
    (opened : k.descriptors.lookup fd = some file) (found : k.body? file.node = some body) :
    k.standing? fd = some (file, body) := by
  rw [standing?, opened, Option.bind_some, found]
  rfl

theorem lookup_of_standing? {file : OpenFile} {body : Body}
    (stands : k.standing? fd = some (file, body)) :
    k.descriptors.lookup fd = some file ∧ k.body? file.node = some body := by
  obtain ⟨file', opened, found⟩ := Option.bind_eq_some_iff.1 stands
  obtain ⟨body', there, same⟩ := Option.map_eq_some_iff.1 found
  obtain ⟨rfl, rfl⟩ := Prod.mk.inj same
  exact ⟨opened, there⟩

/-- **A descriptor covers bytes** when so many lie before its position. -/
def Covers (k : Kernel) (fd : Int) (n : Nat) : Prop :=
  ∀ file body, k.standing? fd = some (file, body) → body.Covers file.offset n

theorem covers_zero (k : Kernel) (fd : Int) : Covers k fd 0 := fun file body _ =>
  body.covers_zero file.offset

theorem Covers.mono (h : Covers k fd n) {m : Nat} (le : m ≤ n) : Covers k fd m :=
  fun file body stands => (h file body stands).mono le

/-- **What others may do** while a channel has a descriptor for itself: the descriptor stays where
it is, and nobody truncates what stands behind it. -/
def Spares (fd : Int) (k k' : Kernel) : Prop :=
  ∀ file body', k'.standing? fd = some (file, body') →
    ∃ body, k.standing? fd = some (file, body) ∧ body.Grows body'

theorem Passes.spares (h : Passes k k') (fd : Int) : Spares fd k k' := by
  intro file body' stands
  obtain ⟨opened, found⟩ := lookup_of_standing? stands
  obtain ⟨body, found, grows⟩ := h.grown file.node body' found
  exact ⟨body, standing?_of_lookup (h.table.1 ▸ opened) found, grows⟩

theorem Covers.spared (h : Covers k fd n) (spares : Spares fd k k') :
    Covers k' fd n := by
  intro file body' stands
  obtain ⟨body, stood, grows⟩ := spares file body' stands
  exact (h file body stood).grows grows

/-! ## What a call does to it -/

theorem standing?_setDescriptor (fd : Int) {file : OpenFile} {body : Body}
    (found : k.body? file.node = some body) :
    (k.setDescriptor fd file).standing? fd = some (file, body) :=
  standing?_of_lookup ((lookup_assign ..).trans (if_pos rfl)) found

theorem body?_setBody {name : String} {body : Body} (found : k.body? name = some body)
    (body' : Body) :
    (k.setBody name body').body? name = some body' := by
  obtain ⟨node, there, rfl⟩ := Option.map_eq_some_iff.1 found
  rw [setBody, there]
  exact (body?_setNode ..).trans (if_pos rfl)

/-- A descriptor that is put in place covers what its position does. -/
theorem covers_setDescriptor {file : OpenFile} {body : Body} (found : k.body? file.node = some body)
    (covers : body.Covers file.offset n) :
    Covers (k.setDescriptor fd file) fd n := by
  intro file' body' stands
  have after := standing?_setDescriptor fd found
  obtain ⟨rfl, rfl⟩ := Prod.mk.inj (Option.some.inj (after.symm.trans stands))
  exact covers

/-- A body that is put in place covers what the position does. -/
theorem covers_setBody {file : OpenFile} {body body' : Body}
    (stands : k.standing? fd = some (file, body)) (covers : body'.Covers file.offset n) :
    Covers (k.setBody file.node body') fd n := by
  obtain ⟨opened, found⟩ := lookup_of_standing? stands
  have after : (k.setBody file.node body').standing? fd = some (file, body') :=
    standing?_of_lookup ((sameTable_setBody k file.node body').1 ▸ opened)
      (body?_setBody found body')
  intro file₁ body₁ stands₁
  obtain ⟨rfl, rfl⟩ := Prod.mk.inj (Option.some.inj (after.symm.trans stands₁))
  exact covers

/-- **A call that keeps a descriptor covering**: refused, it only lets time pass. -/
theorem Covers.onDescriptor {α : Type} (h : Covers k fd n) {kind : CallKind}
    {act : Kernel → OpenFile → Body → Option Nat → Except Errno α × Kernel}
    (gain : Except Errno α → Nat) (none : ∀ e, gain (.error e) = 0)
    (acts : ∀ k file body max?, k.standing? fd = some (file, body) → Covers k fd n →
      Covers (act k file body max?).2 fd (n + gain (act k file body max?).1)) :
    Covers (k.onDescriptor fd kind act).2 fd (n + gain (k.onDescriptor fd kind act).1) := by
  obtain ⟨k₁, passes, ⟨e, run⟩ | ⟨file, body, max?, opened, found, run⟩⟩ :=
    k.onDescriptor_ways fd kind act
  all_goals
    have covers := h.spared (passes.spares fd)
    rw [run]
  · rw [none]
    exact covers
  · exact acts k₁ file body max? (standing?_of_lookup opened found) covers

/-- The bytes that a reply to a read brings. -/
def brought : Except Errno Bytes → Nat
  | .ok bytes => bytes.length
  | .error _ => 0

/-- **A read covers what it brings.** -/
theorem Covers.read (h : Covers k fd n) (len : Nat) :
    Covers (k.read fd len).2 fd (n + brought (k.read fd len).1) := by
  refine h.onDescriptor brought (fun _ => rfl) fun k file body max? stands covers => ?_
  have here := covers file body stands
  have found := (lookup_of_standing? stands).2
  dsimp only
  split
  · exact covers
  rcases body with contents | contents | stream
  · -- What is read lies in the file, behind the position.
    refine covers_setDescriptor found ⟨Nat.add_le_add_right here.1 _, ?_⟩
    show n + (contents.read file.offset (limited len max?)).length ≤ contents.size
    rw [Contents.read_eq_slice, Bytes.slice, List.length_take, List.length_drop,
      Contents.length_toBytes]
    have := here.1
    have := here.2
    omega
  · exact covers
  · dsimp only
    split
    · split
      · exact covers
      · exact covers
    · exact covers_setBody stands trivial

/-- A write covers what was covered, **wherever it takes the position** from: nothing is told of the
bytes but that they do not get fewer. -/
theorem Covers.writeAt {file : OpenFile} {contents : Contents} {rebuild : Contents → Body}
    (stands : k.standing? fd = some (file, rebuild contents))
    (onward : ∀ offset contents', file.offset ≤ offset ∨ contents.size ≤ offset →
      contents.size ≤ Contents.size contents' → (rebuild contents').Covers offset n)
    (data : Bytes) : Covers (k.writeAt fd file contents rebuild data).2 fd n := by
  have found := (lookup_of_standing? stands).2
  have reached : file.offset ≤ (if file.flags.append then contents.size else file.offset) ∨
      contents.size ≤ (if file.flags.append then contents.size else file.offset) := by
    split
    · exact .inr (Nat.le_refl _)
    · exact .inl (Nat.le_refl _)
  unfold Kernel.writeAt
  generalize (if file.flags.append then contents.size else file.offset) = offset at reached ⊢
  have moved : Covers (k.setDescriptor fd { file with offset }) fd n :=
    covers_setDescriptor found (onward offset contents reached (Nat.le_refl _))
  dsimp only
  split
  · exact moved
  split
  · exact moved
  · refine covers_setDescriptor (body?_setBody found _) (onward _ _ ?_ ?_)
    · exact reached.imp (Nat.le_trans · (Nat.le_add_right _ _))
        (Nat.le_trans · (Nat.le_add_right _ _))
    · rw [Contents.size_write]
      exact Nat.le_max_left _ _

/-- **A write** covers what was covered. -/
theorem Covers.write (h : Covers k fd n) (data : Bytes) :
    Covers (k.write fd data).2 fd n := by
  unfold Kernel.write
  split
  · exact h
  refine h.onDescriptor (fun _ => 0) (fun _ => rfl)
    fun k file body max? stands covers => ?_
  dsimp only
  split
  · exact covers
  rcases body with contents | contents | stream
  · obtain ⟨before, inside⟩ : n ≤ file.offset ∧ n ≤ contents.size := covers file _ stands
    exact Covers.writeAt stands (fun offset contents' reached grows =>
      ⟨reached.elim (Nat.le_trans before) (Nat.le_trans inside), Nat.le_trans inside grows⟩) _
  · -- Nothing was ever read from a directory.
    have nothing : n = 0 := covers file _ stands
    exact Covers.writeAt stands (fun _ _ _ _ => nothing) _
  · dsimp only
    split
    · exact covers
    split
    · exact covers
    · exact covers_setBody stands trivial

/-- The position that a move counts from. -/
def origin (offset size : Nat) : Whence → Nat
  | .start => 0
  | .current => offset
  | .finish => size

/-- **The ways of a move**: it is refused, or it takes the position where it was to go and tells it;
in both cases the script had its word before. -/
theorem seek_ways (k : Kernel) (fd : Int) (offset : Int) (whence : Whence) :
    ∃ k₁, Passes k k₁ ∧ ((∃ e, k.seek fd offset whence = (.error e, k₁)) ∨
      ∃ (file : OpenFile) (body : Body) (size target : Nat),
        k₁.standing? fd = some (file, body) ∧ body.extent? = some size ∧
          (target : Int) = origin file.offset size whence + offset ∧
          target ≤ Descriptor.maxOffset ∧ k.seek fd offset whence =
            (.ok target, k₁.setDescriptor fd { file with offset := target })) := by
  unfold seek
  obtain ⟨k₁, passes, ⟨e, run⟩ | ⟨file, body, max?, opened, found, run⟩⟩ :=
    k.onDescriptor_ways fd .seek _
  · exact ⟨k₁, passes, .inl ⟨e, run⟩⟩
  refine ⟨k₁, passes, ?_⟩
  rw [run]
  dsimp only
  cases extent : body.extent? with
  | none => exact .inl ⟨_, rfl⟩
  | some size =>
    cases whence
    all_goals
      dsimp only
      split
      · exact .inl ⟨_, rfl⟩
      · next within =>
        rw [Bool.or_eq_true, decide_eq_true_eq, decide_eq_true_eq, not_or] at within
        exact .inr ⟨file, body, size, _, standing?_of_lookup opened found, extent,
          Int.toNat_of_nonneg (Int.not_lt.1 within.1), Int.toNat_le.2 (Int.not_lt.1 within.2), rfl⟩

/-- **So many bytes lie before a position** in what stands behind a descriptor. -/
def CoversAt (k : Kernel) (fd : Int) (position n : Nat) : Prop :=
  ∀ file body, k.standing? fd = some (file, body) → body.Covers position n

theorem CoversAt.spared {position : Nat} (h : CoversAt k fd position n)
    (spares : Spares fd k k') :
    CoversAt k' fd position n := by
  intro file body' stands
  obtain ⟨body, stood, grows⟩ := spares file body' stands
  exact (h file body stood).grows grows

/-- A move leaves the bytes where they are. -/
theorem CoversAt.seek {position : Nat} (h : CoversAt k fd position n) (offset : Int)
    (whence : Whence) : CoversAt (k.seek fd offset whence).2 fd position n := by
  obtain ⟨k₁, passes, ⟨e, run⟩ | ⟨file, body, size, target, stands, _, _, _, run⟩⟩ :=
    k.seek_ways fd offset whence
  all_goals
    have covers := h.spared (passes.spares fd)
    rw [run]
  · exact covers
  · intro file' body' stands'
    have after : (k₁.setDescriptor fd { file with offset := target }).standing? fd =
        some ({ file with offset := target }, body) :=
      standing?_setDescriptor fd (lookup_of_standing? stands).2
    obtain ⟨rfl, rfl⟩ := Prod.mk.inj (Option.some.inj (after.symm.trans stands'))
    exact covers file body stands

/-- **A question for the position or the end** keeps a descriptor covering. -/
theorem Covers.ask (h : Covers k fd n) (whence : Whence) (asks : whence ≠ .start) :
    Covers (k.seek fd 0 whence).2 fd n := by
  obtain ⟨k₁, passes, ⟨e, run⟩ | ⟨file, body, size, target, stands, extent, is, _, run⟩⟩ :=
    k.seek_ways fd 0 whence
  all_goals
    have covers := h.spared (passes.spares fd)
    rw [run]
  · exact covers
  refine covers_setDescriptor (lookup_of_standing? stands).2 ?_
  rw [Int.add_zero] at is
  obtain rfl := Int.ofNat_inj.1 is
  cases whence with
  | start => exact absurd rfl asks
  | current => exact covers file body stands
  | finish => exact (covers file body stands).atEnd extent

/-- **The position that is told** covers what the descriptor does, and no less lies before it. -/
theorem Covers.told (h : Covers k fd n) {here : Nat} (told : (k.seek fd 0 .current).1 = .ok here) :
    CoversAt (k.seek fd 0 .current).2 fd here n ∧ n ≤ here := by
  obtain ⟨k₁, passes, ⟨e, run⟩ | ⟨file, body, size, target, stands, extent, is, _, run⟩⟩ :=
    k.seek_ways fd 0 .current
  all_goals rw [run] at told ⊢
  · cases told
  obtain rfl := Except.ok.inj told
  obtain rfl : target = file.offset := by
    have : (target : Int) = file.offset + 0 := is
    omega
  have covers := h.spared (passes.spares fd) file body stands
  refine ⟨fun file' body' stands' => ?_, ?_⟩
  · have after := standing?_setDescriptor fd (lookup_of_standing? stands).2
    obtain ⟨rfl, rfl⟩ := Prod.mk.inj (Option.some.inj (after.symm.trans stands'))
    exact covers
  · cases body with
    | file contents => exact covers.1
    | directory contents => exact covers ▸ Nat.zero_le _
    | stream stream => cases extent

/-- **A move to a place that covers enough** keeps a descriptor covering. -/
theorem Covers.back (h : Covers k fd n) {position : Nat}
    (place : CoversAt k fd position n) :
    Covers (k.seek fd position .start).2 fd n := by
  obtain ⟨k₁, passes, ⟨e, run⟩ | ⟨file, body, size, target, stands, extent, is, _, run⟩⟩ :=
    k.seek_ways fd position .start
  all_goals rw [run]
  · exact h.spared (passes.spares fd)
  · obtain rfl : target = position := by
      have : (target : Int) = (0 : Nat) + position := is
      omega
    exact covers_setDescriptor (lookup_of_standing? stands).2
      (place.spared (passes.spares fd) file body stands)

end Kernel

end Simulation

/-! ## Dialogues -/

/-- **An exchange that takes a descriptor no way back**: a wait, a read, a write, or a question for
the position or the end. -/
inductive Exchange.Onward (fd : Int) : Exchange → Prop
  | suspends {e : Exchange} : e.isSuspension = true → Onward fd e
  | reads (len : Nat) (reply : Except Errno Bytes) : Onward fd ⟨.read fd len, reply⟩
  | writes (data : Bytes) (reply : Except Errno Nat) : Onward fd ⟨.write fd data, reply⟩
  | here (reply : Except Errno Nat) : Onward fd ⟨.seek fd 0 .current, reply⟩
  | finish (reply : Except Errno Nat) : Onward fd ⟨.seek fd 0 .finish, reply⟩

/-- **No exchange takes a descriptor back.** -/
def Dialogue.Onward (fd : Int) (es : Dialogue) : Prop := ∀ e ∈ es, e.Onward fd

namespace Simulation.Kernel

variable {k k' : Kernel} {fd : Int} {n : Nat}

/-- **An onward exchange** covers what it delivers besides. -/
theorem Covers.answer (h : Covers k fd n) {r : Request}
    (onward : Exchange.Onward fd ⟨r, (Host.answer k r).1⟩) :
    Covers (Host.answer k r).2 fd
      (n + (Exchange.deliveredOn fd ⟨r, (Host.answer k r).1⟩).length) := by
  have still (none : Exchange.isStill ⟨r, (Host.answer k r).1⟩ = true)
      (covers : Covers (Host.answer k r).2 fd n) : Covers (Host.answer k r).2 fd
        (n + (Exchange.deliveredOn fd ⟨r, (Host.answer k r).1⟩).length) := by
    rw [Exchange.deliveredOn_of_isStill none]
    exact covers
  cases r with
  | read source len =>
    cases onward with
    | suspends waits => cases waits
    | reads =>
      refine (h.read len).mono (Nat.add_le_add_left (Nat.le_of_eq ?_) n)
      show (Exchange.deliveredOn fd ⟨.read fd len, (k.read fd len).1⟩).length = _
      rcases (k.read fd len).1 with e | bytes
      · rfl
      · rw [Exchange.deliveredOn_read_ok]
        rfl
  | write target data =>
    cases onward with
    | suspends waits => cases waits
    | writes => exact h.write data
  | seek target offset whence =>
    refine still rfl ?_
    cases onward with
    | suspends waits => cases waits
    | here => exact h.ask .current nofun
    | finish => exact h.ask .finish nofun
  | poll target direction timeout =>
    exact still rfl (h.spared ((k.passes_poll target direction timeout).spares fd))
  | wait target direction left =>
    exact still rfl (h.spared ((k.passes_wait direction).spares fd))
  | _ =>
    cases onward with
    | suspends waits => cases waits

/-- **An onward dialogue** covers what it delivers besides. -/
theorem Covers.onward {es : Dialogue} (leads : Host.Leads k es k') (onward : es.Onward fd)
    (h : Covers k fd n) : Covers k' fd (n + (es.delivered fd).length) := by
  induction leads generalizing n with
  | nil => exact h
  | allocate _ ih => exact ih onward h
  | cons r _ ih =>
    obtain ⟨first, rest⟩ := List.forall_mem_cons.1 onward
    rw [Dialogue.delivered_cons, List.length_append, ← Nat.add_assoc]
    exact ih rest (h.answer first)

end Simulation.Kernel

end BufferedChannels
