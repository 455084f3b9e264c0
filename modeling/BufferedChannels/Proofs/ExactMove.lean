import Mathlib
import BufferedChannels.Proofs.AlwaysReady
import BufferedChannels.Proofs.FailedMove
import BufferedChannels.Proofs.ReadingPosition
import BufferedChannels.Proofs.Solitude
import BufferedChannels.Proofs.SoleUse

/-!
# Proofs/ExactMove — a move to exactly where it was to go

`reposition` flushes, finds out where the target lies, and moves.  On a regular file that nobody
else uses each of the three does just one thing.  The flush leaves a channel that is `Poised`; the
target lies at an **exact number** (`SeekTarget.aim`), which no step of the computation wraps; and
the move goes there if there is such a position, or leaves everything as the flush left it
(`reposition_exact`).
-/

namespace BufferedChannels

open Simulation Simulation.Kernel

/-! ## Reading on from the position -/

namespace Simulation.Kernel.Lone

variable {k k' : Kernel} {fd : Int} {file : OpenFile} {contents : Contents}

/-- **A read brings the bytes from the position on**, and moves it behind them. -/
theorem read_from (h : k.Lone fd file (.file contents)) (len : Nat) :
    let got := Exchange.deliveredOn fd ⟨.read fd len, (k.read fd len).1⟩
    got = contents.toBytes.slice file.offset got.length ∧
      (k.read fd len).2.Lone fd { file with offset := file.offset + got.length }
        (.file contents) := by
  unfold Kernel.read
  obtain ⟨k₁, passes, ⟨e, run⟩ | ⟨file', body', max?, opened, found, run⟩⟩ :=
    k.onDescriptor_ways fd .read _
  all_goals
    have lone := h.passes passes
    rw [run]
  · exact ⟨rfl, lone⟩
  · obtain rfl := Option.some.inj (opened.symm.trans lone.opened)
    obtain rfl := Option.some.inj (found.symm.trans lone.stored)
    dsimp only
    split
    · exact ⟨rfl, lone⟩
    · rw [Exchange.deliveredOn_read_ok, Contents.read_eq_slice, Bytes.slice_length_slice]
      exact ⟨rfl, lone.setDescriptor rfl (lone.slice_within _)⟩

/-- **Whatever is read one after another** are the bytes from the position on. -/
theorem delivered_from {es : Dialogue} (h : k.Lone fd file (.file contents))
    (leads : Host.Leads k es k')
    (reads : ∀ e ∈ es, ∃ len reply, e = Descriptor.reading fd len reply) :
    es.delivered fd = contents.toBytes.slice file.offset (es.delivered fd).length := by
  induction leads generalizing file with
  | nil => rfl
  | allocate _ ih => exact ih h.allocate reads
  | cons r _ ih =>
    obtain ⟨first, rest⟩ := List.forall_mem_cons.1 reads
    obtain ⟨len, reply, is⟩ := first
    obtain ⟨rfl, _⟩ := Exchange.mk.inj is
    obtain ⟨here, lone⟩ := h.read_from len
    have later := ih lone rest
    rw [Dialogue.delivered_cons, List.length_append, ← Bytes.slice_append_slice]
    exact congrArg₂ _ here later

/-- A file keeps the pledge that nothing blocks there. -/
theorem keeps (h : k.Lone fd file (.file contents)) : k.Keeps .solid fd file.node := by
  obtain ⟨node, found, is⟩ := Option.map_eq_some_iff.1 h.stored
  refine ⟨⟨⟨node, found, ?_⟩, fun event mem about => absurd about (h.alone event mem)⟩,
    file, h.opened, rfl⟩
  rw [is]
  exact .inl rfl

end Simulation.Kernel.Lone

/-! ## Where a target lies -/

/-- **Where a target lies**, as an exact number, for one who stands at `here` where the file ends at
`stop`. -/
def SeekTarget.aim (here stop : Nat) : SeekTarget → Int
  | .start position => position
  | .current delta => here + delta
  | .finish delta => stop + delta

/-- **Whether a position that was computed is the one aimed at**; there is none only where no 64-bit
number is. -/
def Channel.Hits (aim : Int) : Option Nat → Prop
  | some position => position = aim
  | none => aim < 0 ∨ UInt64.size ≤ aim

theorem Channel.hits_shifted (position : Nat) (delta : Int) :
    Hits (position + delta) (shifted? position delta) := by
  cases is : shifted? position delta with
  | some n => exact eq_of_shifted is
  | none =>
    unfold shifted? at is
    dsimp only at is
    split at is
    · cases is
    · show _ < 0 ∨ _
      omega

namespace Channel

variable {c c' : Channel} {s : System Kernel} {file : OpenFile} {contents : Contents}

/-! ## The parts of a move -/

/-- **A channel on a regular file that nobody else uses**, whose descriptor covers what is read
ahead. -/
structure Poised (c : Channel) (k : Kernel) (file : OpenFile) (contents : Contents) : Prop where
  wellFormed : c.WellFormed
  regular : c.kind.isRegular = true
  lone : k.Lone c.fd file (.file contents)
  covers : Covers k c.fd c.liveCount

namespace Poised

theorem liveCount_le (h : c.Poised s.host file contents) : c.liveCount ≤ file.offset :=
  (h.covers _ _ h.lone.standing).1

theorem ready (h : c.Poised s.host file contents) : c.kind.alwaysReady = true := by
  rw [Kind.isRegular_iff.1 h.regular]
  rfl

theorem tell (h : c.Poised s.host file contents) :
    c.tell.Ensures s (fun _ r s' => Asked s s' ∧ r = .ok (file.offset - c.liveCount))
      (fun es _ s' => s'.budget = 0 ∧ es.length ≤ 3) := by
  refine (tell_still h.lone).mono (fun _ _ _ _ told => ⟨told.1, (told.2 rfl).2⟩)
    fun _ _ _ _ halts => halts.resolve_right fun behind => ?_
  exact Nat.not_lt.2 h.liveCount_le behind.2.2

/-- **The target is found where it lies**, and nothing is changed by finding it. -/
theorem target (h : c.Poised s.host file contents) (target : SeekTarget) :
    (c.targetPosition target).Ensures s
      (fun _ r s' => Asked s s' ∧ ∃ position?, r = .ok position? ∧
        Hits (target.aim (file.offset - c.liveCount) (contents.size + c.pendingCount)) position?)
      (fun es _ s' => s'.budget = 0 ∧ es.length ≤ 3) := by
  rcases target with position | delta | delta
  · exact Act.ensures_pure ⟨⟨rfl, rfl⟩, _, rfl, rfl⟩
  · refine Act.ensures_bind (h.tell.mono (fun _ _ _ _ h => h) fun _ _ _ _ halts => halts)
      fun es r s' _ ⟨asked, told⟩ => ?_
    subst told
    exact Act.ensures_pure ⟨asked, _, rfl, hits_shifted _ _⟩
  · refine Act.ensures_bind ((size_still h.lone h.regular).mono (fun _ _ _ _ h => h)
      fun _ _ _ _ halts => halts) fun es r s' _ ⟨asked, told⟩ => ?_
    subst told
    exact Act.ensures_pure ⟨asked, _, rfl, hits_shifted _ _⟩

/-- **A move to a position that there is** goes there, and forgets both buffers. -/
theorem seek (h : c.Poised s.host file contents) {position : Nat}
    (within : position ≤ Descriptor.maxOffset) :
    (c.seek position).Ensures s
      (fun _ r s' => r = (.ok position, c.emptied) ∧
        s'.host = s.host.setDescriptor c.fd { file with offset := position })
      (fun es _ s' => s'.budget = 0 ∧ es.length ≤ 0) := by
  have named : Descriptor.offset? position = .ok position := if_pos within
  unfold Channel.seek Descriptor.seekTo
  rw [named]
  refine Act.ensures_logLoss c "seek" fun j => ?_
  refine Act.ensures_bind ((Descriptor.seek_asks c.fd position .start _).mono (fun _ _ _ _ h => h)
    fun _ _ _ _ silent => ⟨silent.2, Nat.le_of_eq (congrArg List.length silent.1)⟩)
    fun es r s' _ ⟨_, is, host, _⟩ => ?_
  have start : (Kernel.origin file.offset contents.size .start : Int) + position = position :=
    Int.zero_add _
  have moved := h.lone.seek_ok rfl start within
  have is : r = Descriptor.settle (s.host.seek c.fd position .start).1 := is
  have host : s'.host = (s.host.seek c.fd position .start).2 := host
  rw [moved] at is host
  subst is
  exact Act.ensures_pure ⟨rfl, host⟩

/-- **A flush comes to an end**, and leaves a channel that is poised. -/
theorem flush (h : c.Poised s.host file contents)
    (enough : 3 * s.host.inStore file.node + c.pendingCount < s.budget) :
    ∃ es r c' s' file' contents', (c.flush .never).runOn s = (.ok (r, c'), s') ∧
      s.Reaches es s' ∧ es.length ≤ 3 * s.host.inStore file.node + c.pendingCount + 2 ∧
      c.Flushed es r c' ∧ c'.Poised s'.host file' contents' := by
  have endures : (Kernel.meter .solid c.fd file.node).Endures c .writable .never :=
    ⟨rfl, fun _ _ keeps => not_blocks_of_solid keeps _,
      fun slow => absurd (slow.symm.trans h.ready) Bool.false_ne_true⟩
  obtain ⟨es, outcome, s', run, reaches, post⟩ :=
    ((Meter.flush_pays h.wellFormed endures s h.lone.keeps).and
      (flush_ensures h.wellFormed .never s)).and (confined_flush rfl .never s)
  rcases outcome with halt | ⟨r, c'⟩
  · obtain ⟨⟨halts, sending⟩, _⟩ := post
    have broken : BrokenOff (.flush .never) c es halt s' := sending.brokenOff
    obtain endless | ⟨slow, _⟩ :=
      broken.endless_or_noDescriptor rfl (.inl h.ready) reaches.host.moderate
    · exact absurd endless (halts.not_endless enough reaches)
    · exact absurd (slow.symm.trans h.ready) Bool.false_ne_true
  · obtain ⟨⟨⟨_, paid⟩, flushed⟩, used, _⟩ := post
    dsimp only at paid flushed
    have fd : c'.fd = c.fd := flushed.rewritten.fd
    obtain ⟨file', body', lone, _, grows⟩ := h.lone.leads reaches.host used.uses
    cases grows with
    | @file _ contents' =>
      refine ⟨es, r, c', s', file', contents', run, reaches, ?_, flushed,
        flushed.rewritten.toWellFormed h.wellFormed, flushed.rewritten.kind ▸ h.regular,
        fd ▸ lone, ?_⟩
      · have slack : (Kernel.meter .solid c.fd file.node).slack s.host =
          s.host.inStore file.node := rfl
        omega
      · exact fd ▸ (flushed.rewritten.affords flushed.writes).covers reaches.host h.covers

/-! ### What is read next -/

/-- **A read into an empty buffer** hands on the bytes from the position on. -/
theorem handed (h : c.Poised s.host file contents) (empty : c.input.live = []) {es : Dialogue}
    {r : Reading} {c' : Channel} {k' : Kernel} (handsOn : c.HandsOn es r c')
    (leads : Host.Leads s.host es k') :
    r.handed = contents.toBytes.slice file.offset r.handed.length := by
  have reads : ∀ e ∈ es, ∃ len reply, e = Descriptor.reading c.fd len reply := by
    intro e mem
    obtain ⟨slow, _⟩ | ⟨len, reply, _, is⟩ := handsOn.reads e mem
    · exact absurd (slow.symm.trans h.ready) Bool.false_ne_true
    · exact ⟨len, reply, is⟩
  have delivered := h.lone.delivered_from leads reads
  have conserved : es.delivered c.fd = r.handed ++ c'.input.live := by
    rw [handsOn.handed, ← handsOn.conserved, empty, List.nil_append]
  rw [conserved, List.length_append] at delivered
  exact (Bytes.slice_split delivered).1

end Poised

end Channel

/-- Whether an operation reads. -/
def Operation.reads : Operation → Bool
  | .read .. | .readBetween .. | .readSome _ => true
  | _ => false

namespace Channel

variable {c : Channel} {s : System Kernel} {file : OpenFile} {contents : Contents}

/-- **Every read into an empty buffer** hands on the bytes from the position on. -/
theorem Poised.run_handed (h : c.Poised s.host file contents) (empty : c.input.live = [])
    {operation : Operation} (reads : operation.reads = true) :
    (operation.run c).Ensures s
      (fun _ r _ => r.1.handed = contents.toBytes.slice file.offset r.1.handed.length)
      (fun _ _ _ => True) := by
  have wf := h.wellFormed
  rcases operation with ⟨len, source⟩ | ⟨len, low, high, source⟩ | _ | _ | _ | _ | _ | _ | len |
    _ | _ | _
  any_goals cases reads
  · -- `read`
    exact ensures_resolve source fun deadline => ensures_answer
      ((Channel.read_ensures wf len deadline s).mono (fun _ _ _ reaches received =>
        h.handed empty received.toHandsOn reaches.host) fun _ _ _ _ _ => trivial)
  · -- `readBetween`
    refine ensures_resolve source fun deadline => ensures_answer
      ((Channel.readBetween_ensures wf len low high deadline s).mono (fun _ _ _ reaches done => ?_)
        fun _ _ _ _ _ => trivial)
    obtain ⟨_, _, received⟩ | ⟨_, refused⟩ := done
    · exact h.handed empty received.toHandsOn reaches.host
    · exact h.handed empty (refused.handsOn wf) reaches.host
  · -- `readSome`
    refine ensures_answer ((Channel.readSome_ensures wf len s).mono (fun _ r _ reaches done => ?_)
      fun _ _ _ _ _ => trivial)
    obtain ⟨r, c'⟩ := r
    obtain ⟨_, rfl, same⟩ | ⟨reading, received, rfl⟩ := done
    · obtain ⟨rfl, rfl⟩ := Prod.mk.inj same
      rfl
    · rw [received.handed_plainResult]
      exact h.handed empty received.toHandsOn reaches.host

/-- **A channel that starts at a position**: nothing is buffered, no end was seen, and whatever is
read next are the bytes of the file from there on. -/
structure StartsAt (c : Channel) (k : Kernel) (contents : Contents) (position : Nat) : Prop where
  live : c.liveCount = 0
  pending : c.pendingCount = 0
  unmarked : c.ended = false
  stands : ∃ file, k.Lone c.fd file (.file contents) ∧ file.offset = position
  reads : ∀ operation : Operation, operation.reads = true → ∀ (s s' : System Kernel)
    (answer : Answer) (c' : Channel), s.host = k →
      (operation.run c).runOn s = (.ok (answer, c'), s') →
      answer.handed = contents.toBytes.slice position answer.handed.length

/-- A channel that forgot both buffers starts where its descriptor is put. -/
theorem Poised.startsAt (h : c.Poised s.host file contents) {position : Nat}
    (within : position ≤ Descriptor.maxOffset) :
    c.emptied.StartsAt (s.host.setDescriptor c.fd { file with offset := position }) contents
      position := by
  have lone : (s.host.setDescriptor c.fd { file with offset := position }).Lone c.fd
      { file with offset := position } (.file contents) := h.lone.setDescriptor rfl within
  refine ⟨rfl, rfl, rfl, ⟨_, lone, rfl⟩, ?_⟩
  rintro operation reads t t' answer c' host run
  have poised : c.emptied.Poised t.host { file with offset := position } contents :=
    ⟨c.wellFormed_emptied, h.regular, host ▸ lone, covers_zero _ _⟩
  obtain ⟨_, _, handed⟩ := (poised.run_handed (ReadAhead.live_clear _) reads).of_ok run
  exact handed

/-! ## The whole move -/

/-- **What a move comes to** when nothing is pending any more: it goes where it was to go, or it is
refused and leaves everything as it was. -/
structure Lands (c : Channel) (k : Kernel) (contents : Contents) (aim : Int)
    (r : Except StandardError Nat) (c' : Channel) (k' : Kernel) : Prop where
  within : ∀ position : Nat, aim = position → position ≤ Descriptor.maxOffset →
    r = .ok position ∧ c'.StartsAt k' contents position
  outside : aim < 0 ∨ Descriptor.maxOffset < aim →
    (∃ message, r = .error (.classified .invalidInput message)) ∧ c' = c ∧ k' = k

variable {c₁ : Channel} {s₁ : System Kernel}

/-- **After the flush** the target is found and the move is made, or refused. -/
theorem Poised.reposition (h : c₁.Poised s₁.host file contents)
    (flushed : (c.flush .never).runOn s = (.ok (.ok (), c₁), s₁)) (enough : 4 < s₁.budget)
    (target : SeekTarget) :
    ∃ r c₂ s₂, (c.reposition target).runOn s = (.ok (r, c₂), s₂) ∧
      c₁.Lands s₁.host contents
        (target.aim (file.offset - c₁.liveCount) (contents.size + c₁.pendingCount)) r c₂
        s₂.host := by
  have small : Descriptor.maxOffset < UInt64.size := by decide
  have finds := ((h.target target).and (c₁.targetPosition_ensures target s₁)).mono
    (fun _ _ _ _ h => h) fun _ _ _ _ halts => halts.1
  obtain ⟨es, _, t, found, reaches, ⟨asked, position?, rfl, hits⟩, targeted⟩ :=
    finds.of_enough (Nat.lt_of_succ_lt enough)
  have few := targeted.seeks.2
  have paid := reaches.budget
  generalize target.aim _ _ = aim at hits ⊢
  unfold Channel.reposition
  rw [Act.runOn_bind, flushed]
  dsimp only
  rw [Act.runOn_bind, found]
  dsimp only
  cases position? with
  | none =>
    refine ⟨_, _, t, rfl, fun position is le => ?_, fun _ => ⟨⟨_, rfl⟩, rfl, asked.1⟩⟩
    have nowhere : aim < 0 ∨ UInt64.size ≤ aim := hits
    omega
  | some position =>
    have is : (position : Int) = aim := hits
    dsimp only
    rw [Act.runOn_bind]
    rcases Nat.lt_or_ge Descriptor.maxOffset position with beyond | within
    · rw [runOn_seek_of_beyond beyond]
      refine ⟨_, _, t, rfl, fun position' is' le => ?_, fun _ => ⟨⟨_, rfl⟩, rfl, asked.1⟩⟩
      omega
    · have poised : c₁.Poised t.host file contents := asked.1 ▸ h
      obtain ⟨_, _, s₂, moved, _, rfl, host⟩ := (poised.seek within).of_enough (by omega)
      rw [moved]
      refine ⟨_, _, s₂, rfl, fun position' is' le => ?_, fun outside => ?_⟩
      · obtain rfl : position = position' := by omega
        rw [host, asked.1]
        exact ⟨rfl, h.startsAt within⟩
      · omega

/-- A channel that nobody disturbed, on a regular file that nobody else uses. -/
theorem Sole.poised {k : Kernel} (sole : c.Sole k) (regular : c.kind = .regular)
    (lone : k.Lone c.fd file (.file contents)) : c.Poised k file contents :=
  ⟨sole.reachable.wellFormed, Kind.isRegular_iff.2 regular, lone, sole.covers⟩

/-- **A move goes exactly where it was to go.**  Take a channel that was opened on a regular file
and that nobody disturbed, whatever is in its buffers, and any target.  What is pending is flushed
first.  Where that fails, the failure is returned, the unsent tail is still pending, and what was
read ahead and the mark of the end are as they were.  Otherwise the target lies at an exact number,
and nothing on the way to it wraps: the caller stands as far before the descriptor as bytes are read
ahead, and the file and what is pending are a 64-bit length.  If the number is a position, the
channel starts there, with empty buffers and without the mark of the end; if not, the move is
refused as invalid, and the channel and the kernel are as the flush left them. -/
theorem reposition_exact (sole : c.Sole s.host) (regular : c.kind = .regular)
    (lone : s.host.Lone c.fd file (.file contents)) (target : SeekTarget)
    (enough : 3 * s.host.inStore file.node + c.pendingCount + 6 < s.budget) :
    ∃ flushed c₁ s₁, (c.flush .never).runOn s = (.ok (flushed, c₁), s₁) ∧
      c₁.input = c.input ∧ c₁.ended = c.ended ∧
      (∀ e, flushed = .error e →
        c₁.output.pending ≠ [] ∧ c₁.output.pending = c.output.pending.drop e.transferred ∧
        (c.reposition target).runOn s = (.ok (.error e.toStandard, c₁), s₁)) ∧
      (flushed = .ok () → ∃ file₁ contents₁ here,
        c₁.pendingCount = 0 ∧ s₁.host.Lone c.fd file₁ (.file contents₁) ∧
        (∃ t, c₁.tell.runOn s₁ = (.ok (.ok here), t)) ∧
        here + c₁.liveCount = file₁.offset ∧ file₁.offset < UInt64.size ∧
        contents₁.size + c₁.pendingCount < UInt64.size ∧
        ∃ r c₂ s₂, (c.reposition target).runOn s = (.ok (r, c₂), s₂) ∧
          c₁.Lands s₁.host contents₁ (target.aim here contents₁.size) r c₂ s₂.host) := by
  have poised := sole.poised regular lone
  obtain ⟨es, r, c₁, s₁, file₁, contents₁, run, reaches, few, flushed, after⟩ :=
    poised.flush (by omega)
  have paid := reaches.budget
  refine ⟨r, c₁, s₁, run, flushed.rewritten.input, flushed.rewritten.ended, ?_, ?_⟩
  · rintro e rfl
    obtain ⟨some, transferred⟩ := flushed.failed e rfl
    refine ⟨some, ?_, ?_⟩
    · rw [transferred, ← flushed.conserved, List.drop_left]
    · unfold Channel.reposition
      rw [Act.runOn_bind, run]
      rfl
  · rintro rfl
    have none : c₁.pendingCount = 0 := by
      rw [pendingCount, ← WriteBehind.length_pending after.wellFormed.output, (flushed.done rfl).1]
      rfl
    obtain ⟨_, _, t, told, _, _, rfl⟩ := after.tell.of_enough (by omega)
    have moves := after.reposition run (by omega) target
    have small : Descriptor.maxOffset < UInt64.size := by decide
    have place := after.lone.place
    have short : contents₁.size ≤ Descriptor.maxOffset := after.lone.short
    rw [none, Nat.add_zero] at moves
    exact ⟨file₁, contents₁, file₁.offset - c₁.liveCount, none,
      flushed.rewritten.fd ▸ after.lone, ⟨t, told⟩, Nat.sub_add_cancel after.liveCount_le,
      by omega, by omega, moves⟩

/-! A file of which a byte was read and three are read ahead, with one more to be sent. -/

/-- The kernel of the file. -/
def bookmarked : System Kernel where
  host := { nodes := [("f", {
    body := .file (.ofBytes [1, 2, 3, 4, 5, 6])
    script := [(.write, { errno? := some .interrupted })] })] }
  budget := 60
  bufferLength := 4

/-- The opening of the file. -/
def bookmarkedOpening : Opening :=
  .openConfigured "f" { access := .readWrite } 0 {} (.scheduled false)

/-- Its channel. -/
def bookmarkedChannel (input : ReadAhead) (output : WriteBehind) : Channel :=
  { fd := 3, kind := .regular, input, output, verbose := false, waiter := .scheduled false }

/-- The channel as it was opened, -/
def bookmarkedNew : Channel := bookmarkedChannel ⟨[0, 0, 0, 0], 0, 0⟩ ⟨[0, 0, 0, 0], 0⟩

/-- …after the read, -/
def bookmarkedRead : Channel := bookmarkedChannel ⟨[1, 2, 3, 4], 1, 3⟩ ⟨[0, 0, 0, 0], 0⟩

/-- …with a byte pending, -/
def bookmarkedFull : Channel := bookmarkedChannel ⟨[1, 2, 3, 4], 1, 3⟩ ⟨[9, 0, 0, 0], 1⟩

/-- …and with the byte sent. -/
def bookmarkedSent : Channel := bookmarkedChannel ⟨[1, 2, 3, 4], 1, 3⟩ ⟨[9, 0, 0, 0], 0⟩

/-- The system with the file opened, -/
def bookmarkedOpened : System Kernel := (bookmarkedOpening.run.runOn bookmarked).2

/-- …after the read, -/
def bookmarkedAhead : System Kernel :=
  (((Operation.read 1 .never).run bookmarkedNew).runOn bookmarkedOpened).2

/-- …with a byte pending. -/
def bookmarkedPending : System Kernel :=
  (((Operation.write [9] .never).run bookmarkedRead).runOn bookmarkedAhead).2

theorem reposition_exact_bookmarked :
    bookmarkedFull.Sole bookmarkedPending.host ∧
      ∃ c₂ s₂, (bookmarkedFull.reposition (.current 2)).runOn bookmarkedPending =
        (.ok (.ok 4, c₂), s₂) ∧ c₂.liveCount = 0 ∧ c₂.pendingCount = 0 := by
  have opened : bookmarkedOpening.run.runOn bookmarked =
      (.ok (.ok bookmarkedNew), bookmarkedOpened) := rfl
  have read : ((Operation.read 1 .never).run bookmarkedNew).runOn bookmarkedOpened =
      (.ok (.reading ⟨[1], none⟩, bookmarkedRead), bookmarkedAhead) := by cbv
  have written : ((Operation.write [9] .never).run bookmarkedRead).runOn bookmarkedAhead =
      (.ok (.count (.ok 1), bookmarkedFull), bookmarkedPending) := by cbv
  have sole : bookmarkedFull.Sole bookmarkedPending.host :=
    .operated (.operated (.begun opened) read) written
  have lone : bookmarkedPending.host.Lone 3
      { node := "f", flags := { access := .readWrite, nonblock := true }, offset := 4 }
      (.file (.ofBytes [1, 2, 3, 4, 5, 6])) := by
    have node : bookmarkedPending.host.node? "f" = some {
        body := .file (.ofBytes [1, 2, 3, 4, 5, 6])
        script := [(.write, { errno? := some .interrupted })] } := by cbv
    have events : bookmarkedPending.host.events = [] := by cbv
    have largest : bookmarkedPending.host.largestFile ≤ Descriptor.maxOffset := by decide +kernel
    refine ⟨by cbv, congrArg (Option.map Node.body) node, ?_, ?_, ?_, largest, by decide, by decide⟩
    · rintro node' there item mem
      obtain rfl := Option.some.inj (node.symm.trans there)
      obtain rfl := List.mem_singleton.1 mem
      exact CallKind.noConfusion
    · rw [events]
      exact List.forall_mem_nil _
    · rw [Settled, events]
      rfl
  obtain ⟨flushed, c₁, s₁, run, _, _, _, done⟩ :=
    reposition_exact sole rfl lone (.current 2) (by decide +kernel)
  -- The flush sends the byte, and the caller stands at 2 then.
  have flushes : ∃ t, (bookmarkedFull.flush .never).runOn bookmarkedPending =
      (.ok (.ok (), bookmarkedSent), t) ∧ (bookmarkedSent.tell.runOn t).1 = .ok (.ok 2) := by
    refine ⟨((bookmarkedFull.flush .never).runOn bookmarkedPending).2, ?_, ?_⟩
    · cbv
    · cbv
  obtain ⟨t, flushes, tells⟩ := flushes
  obtain ⟨same, rfl⟩ := Prod.mk.inj (run.symm.trans flushes)
  obtain ⟨rfl, rfl⟩ := Prod.mk.inj (Except.ok.inj same)
  obtain ⟨_, _, here, _, _, ⟨_, told⟩, _, _, _, r, c₂, s₂, moved, lands⟩ := done rfl
  rw [told] at tells
  obtain rfl := Except.ok.inj (Except.ok.inj tells)
  obtain ⟨rfl, starts⟩ := lands.within 4 rfl (by decide)
  exact ⟨sole, c₂, s₂, moved, starts.live, starts.pending⟩

end Channel

end BufferedChannels
