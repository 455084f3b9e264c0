import Mathlib
import BufferedChannels.Proofs.Ahead
import BufferedChannels.Proofs.Confinement
import BufferedChannels.Proofs.EndOfStream

/-!
# Proofs/SoleUse — a channel that has its descriptor for itself

While nobody else moves the descriptor or truncates what stands behind it, the descriptor covers the
bytes that the channel has read ahead: `tell` can subtract them.  Each operation `Affords` what it
leaves in the buffer, whatever the script makes of its calls, a run of operations keeps the
invariant (`Sole.covers`), and **no operation halts because it would subtract too much**
(`Sole.never_behind`).
-/

namespace BufferedChannels

open Simulation Simulation.Kernel

variable {c c' c'' : Channel} {es es' : Dialogue}

/-! ## Dialogues that go on -/

theorem Dialogue.Onward.nil {fd : Int} : Dialogue.Onward fd [] := List.forall_mem_nil _

theorem Dialogue.Onward.append {fd : Int} (h : es.Onward fd) (h' : es'.Onward fd) :
    (es ++ es').Onward fd := fun e he => (List.mem_append.1 he).elim (h e) (h' e)

theorem Dialogue.Reads.onward (h : es.Reads c) : es.Onward c.fd := by
  intro e he
  obtain ⟨_, waits⟩ | ⟨len, reply, _, rfl⟩ := h e he
  · exact .suspends waits
  · exact .reads len reply

theorem Dialogue.Writes.onward (h : es.Writes c) : es.Onward c.fd := by
  intro e he
  obtain ⟨_, waits⟩ | ⟨data, reply, _, rfl⟩ := h e he
  · exact .suspends waits
  · exact .writes data reply

namespace Channel

/-- **A dialogue affords a channel** of the same kind when the descriptor covers the bytes buffered
after it, if it covered those buffered before. -/
structure Affords (c : Channel) (es : Dialogue) (c' : Channel) : Prop where
  kind : c'.kind = c.kind
  covers : ∀ ⦃k k' : Kernel⦄, Host.Leads k es k' →
    Covers k c.fd c.liveCount → Covers k' c.fd c'.liveCount

theorem Affords.trans (h : c.Affords es c') (fd : c'.fd = c.fd) (h' : c'.Affords es' c'') :
    c.Affords (es ++ es') c'' where
  kind := h'.kind.trans h.kind
  covers := by
    intro k k'' leads covers
    obtain ⟨k', first, rest⟩ := leads.split
    exact fd ▸ h'.covers rest (fd ▸ h.covers first covers)

/-- **Onward dialogues** afford what was buffered and what they deliver. -/
theorem affords_of_onward (onward : es.Onward c.fd) (kind : c'.kind = c.kind)
    (le : c'.liveCount ≤ c.liveCount + (es.delivered c.fd).length) : c.Affords es c' :=
  ⟨kind, fun _ _ leads covers => (covers.onward leads onward).mono le⟩

theorem affords_same (onward : es.Onward c.fd) (kind : c'.kind = c.kind)
    (input : c'.input = c.input) : c.Affords es c' :=
  affords_of_onward onward kind
    (Nat.le_add_right_of_le (Nat.le_of_eq (congrArg ReadAhead.len input)))

/-! ## What operations afford -/

/-- **A read** keeps no more than what was buffered and what came. -/
theorem HandsOn.affords {r : Reading} (h : c.HandsOn es r c') (wf : c.WellFormed) :
    c.Affords es c' := by
  refine affords_of_onward h.reads.onward h.reread.kind ?_
  have conserved := congrArg List.length h.conserved
  have before : c.input.live.length = c.liveCount := ReadAhead.length_live wf.input
  have after : c'.input.live.length = c'.liveCount := ReadAhead.length_live h.reread.wellFormed
  rw [List.length_append, List.length_append, before, after] at conserved
  omega

/-- A write leaves the reading side alone. -/
theorem Rewritten.affords (h : c.Rewritten c') (writes : es.Writes c) : c.Affords es c' :=
  affords_same writes.onward h.kind h.input

theorem Told.affords {r : Except ChannelError Nat} (h : c.Told es r) : c.Affords es c := by
  refine affords_same (fun e he => ?_) rfl rfl
  rcases h with _ | _
  all_goals
    rw [List.mem_singleton.1 he]
    exact .here _

/-- **A question for the length** affords what was buffered, also when it cannot come back: the end
lies no farther to the front than the position did. -/
theorem Sized.affords {r : Except ChannelError Nat} (h : c.Sized es r) : c.Affords es c := by
  have asked (here stop : Except Errno Nat) : c.Affords
      [Descriptor.seeking c.fd 0 .current here, Descriptor.seeking c.fd 0 .finish stop] c := by
    refine affords_same (fun e he => ?_) rfl rfl
    rcases List.mem_cons.1 he with rfl | he
    · exact .here _
    · exact List.mem_singleton.1 he ▸ .finish _
  have returned (here stop : Nat) (back : Except Errno Nat) : c.Affords
      [Descriptor.seeking c.fd 0 .current (.ok here), Descriptor.seeking c.fd 0 .finish (.ok stop),
        Descriptor.seeking c.fd here .start back] c := by
    refine ⟨rfl, fun k k' leads covers => ?_⟩
    obtain ⟨k₁, _, covers, first, leads⟩ := leads.next
      (P := fun k => Covers k c.fd c.liveCount) (fun _ covers => covers) covers
    obtain ⟨rfl, told⟩ := Exchange.mk.inj first
    have place := (covers.told (eq_of_heq told).symm).1
    obtain ⟨k₂, _, ⟨covers, place⟩, second, leads⟩ := leads.next
      (P := fun k => Covers k c.fd c.liveCount ∧ CoversAt k c.fd here c.liveCount)
      (fun _ both => both) ⟨covers.ask .current nofun, place⟩
    obtain ⟨rfl, _⟩ := Exchange.mk.inj second
    obtain ⟨k₃, _, ⟨covers, place⟩, third, leads⟩ := leads.next
      (P := fun k => Covers k c.fd c.liveCount ∧ CoversAt k c.fd here c.liveCount)
      (fun _ both => both) ⟨covers.ask .finish nofun, place.seek 0 .finish⟩
    obtain ⟨rfl, _⟩ := Exchange.mk.inj third
    exact leads.stays (P := fun k => Covers k c.fd c.liveCount) (fun _ covers => covers)
      (covers.back place)
  rcases h with _ | e | ⟨here, e⟩ | ⟨here, stop, e, _⟩ | ⟨here, stop, _⟩ | ⟨here, stop, back, _⟩
  · exact affords_same .nil rfl rfl
  · exact affords_same (fun e he => List.mem_singleton.1 he ▸ .here _) rfl rfl
  · exact asked _ _
  · exact returned here stop _
  · exact asked _ _
  · exact returned here stop _

theorem Sought.affords {position : Nat} {r : Except ChannelError Nat}
    (h : c.Sought position es r c') : c.Affords es c' := by
  rcases h with _ | ⟨reply, _⟩
  · exact affords_same .nil rfl rfl
  -- A move may go anywhere, but it leaves nothing in the buffer.
  refine ⟨rfl, fun k k' leads covers => ?_⟩
  obtain ⟨k₁, _, covers, first, leads⟩ := leads.next
    (P := fun k => Covers k c.fd 0) (fun _ covers => covers) (covers.mono (Nat.zero_le _))
  obtain ⟨rfl, _⟩ := Exchange.mk.inj first
  exact leads.stays (P := fun k => Covers k c.fd 0) (fun _ covers => covers)
    (covers.back fun file body stands => (covers file body stands).nothing position)

theorem Targeted.affords {target : SeekTarget} {r : Except ChannelError (Option Nat)}
    (h : c.Targeted target es r) : c.Affords es c := by
  rcases h with _ | ⟨_, told⟩ | ⟨_, sized⟩
  · exact affords_same .nil rfl rfl
  · exact told.affords
  · exact sized.affords

theorem Repositioned.affords {target : SeekTarget} {r : Except StandardError Nat}
    (h : c.Repositioned target es r c') : c.Affords es c' := by
  rcases h with flushed | ⟨flushed, targeted⟩ | ⟨flushed, targeted⟩ | ⟨flushed, targeted, sought⟩
  all_goals have flushes := flushed.rewritten.affords flushed.writes
  all_goals have fd := flushed.rewritten.fd
  · exact flushes
  · exact flushes.trans fd targeted.affords
  · exact flushes.trans fd targeted.affords
  · exact flushes.trans fd (targeted.affords.trans rfl sought.affords)

/-! ## What operations leave that break a rule -/

/-- **The channel that a halt leaves** is of the same kind and has no more buffered than before. -/
def LeavesNoMore (c : Channel) (h : Halt) : Prop :=
  ∀ message left, h = .faulted message (some left) →
    left.kind = c.kind ∧ left.liveCount ≤ c.liveCount

variable {κ : Type} [Host κ]

/-- A wait that breaks a rule leaves its channel as it was. -/
theorem mayRetry_leavesNoMore (c : Channel) (direction : Direction) (deadline : Deadline)
    (s : System κ) :
    (c.mayRetry direction deadline).Ensures s (fun _ _ _ => True)
      (fun _ h _ => c.LeavesNoMore h) := by
  unfold mayRetry
  cases c.kind.alwaysReady with
  | true => exact Act.ensures_pure trivial
  | false =>
    refine Act.ensures_bind (M := fun _ _ _ => True) (Act.ensures_leaving c ((wait_ensures c.waiter
      c.fd direction deadline s).mono (fun _ _ _ _ _ => trivial)
      fun es h s' _ ⟨_, halt⟩ message left is => ?_)) fun es outcome s' _ _ => ?_
    · obtain ⟨rfl, _⟩ | ⟨_, _, rfl⟩ := halt
      · cases is
      · cases is
        exact ⟨rfl, Nat.le_refl _⟩
    · cases outcome with
      | timedOut => exact Act.ensures_pure trivial
      | ready got => exact Act.ensures_require (fun _ => Act.ensures_pure trivial) fun _ _ => nofun

/-- **A read has to wait** with an empty buffer only. -/
theorem receive_leavesNoMore (wf : c.WellFormed) {len low high : Nat} (marks : low ≤ high)
    (fits : high ≤ len) (deadline : Deadline) (s : System κ) :
    (c.receive len low high deadline).Ensures s (fun _ _ _ => True)
      (fun _ h _ => c.LeavesNoMore h) := by
  refine receive_ensures_of_turns wf marks fits (fun _ _ _ => True) (fun _ _ _ => trivial)
    (fun _ _ _ _ => trivial) fun es x s' _ h _ => ?_
  refine readTurn_ensures_of_attempt wf marks fits h (fun _ => (readToward_leavesNone x.2 _ s').mono
    (fun _ _ _ _ h => h) fun _ _ _ _ none message left is => absurd is (none message left))
    (fun _ => trivial) (fun _ _ _ _ _ _ => trivial) (fun _ _ _ _ _ _ _ _ => trivial)
    (fun _ _ _ _ _ _ _ => trivial) fun es' c' t _ before toward _ => ?_
  have next := h.toward marks before toward nofun
  have empty : c'.liveCount = 0 := by
    rw [liveCount, ← ReadAhead.length_live next.reread.wellFormed, next.drained (by
      rw [Attempt.bytes_mustWait, List.append_nil]
      exact before)]
    rfl
  exact (c'.mayRetry_leavesNoMore .readable deadline t).mono
    (fun _ _ _ _ _ => ⟨fun _ => trivial, fun _ => trivial⟩)
    fun _ _ _ _ leaves message left is => by
      obtain ⟨kind, none⟩ := leaves message left is
      exact ⟨kind.trans next.reread.kind, Nat.le_trans (empty ▸ none) (Nat.zero_le _)⟩

theorem readBetween_leavesNoMore (wf : c.WellFormed) (len low high : Nat) (deadline : Deadline)
    (s : System κ) :
    (c.readBetween len low high deadline).Ensures s (fun _ _ _ => True)
      (fun _ h _ => c.LeavesNoMore h) := by
  unfold readBetween
  split
  · exact Act.ensures_pure trivial
  split
  · exact Act.ensures_pure trivial
  · exact receive_leavesNoMore wf (by omega) (by omega) deadline s

theorem readSome_leavesNoMore (wf : c.WellFormed) (len : Nat) (s : System κ) :
    (c.readSome len).Ensures s (fun _ _ _ => True) (fun _ h _ => c.LeavesNoMore h) := by
  unfold readSome
  split
  · exact Act.ensures_pure trivial
  · refine Act.ensures_bind (readBetween_leavesNoMore wf len 1 len .never s) fun _ r _ _ _ => ?_
    obtain ⟨⟨bytes, error?⟩, c'⟩ := r
    rcases error? with _ | e
    all_goals exact Act.ensures_pure trivial

theorem send_leavesNoMore (c : Channel) (data : Bytes) (deadline : Deadline) (s : System κ) :
    (c.send data deadline).Ensures s (fun _ _ _ => True) (fun _ h _ => c.LeavesNoMore h) := by
  refine Act.ensures_loop (fun _ _ _ => True) trivial fun es sent s' _ _ => ?_
  refine sendTurn_ensures_of_attempt (fun _ => (Descriptor.write_ensures c.fd _ s').mono
    (fun _ _ _ _ h => h) fun _ _ _ _ ⟨_, spent⟩ => spent.1 ▸ nofun) (fun _ => trivial)
    (fun _ _ _ _ _ _ => trivial) (fun _ _ _ _ _ _ => trivial) fun es' s₁ _ _ _ _ => ?_
  exact (c.mayRetry_leavesNoMore .writable deadline s₁).mono
    (fun _ _ _ _ _ => ⟨fun _ => trivial, fun _ => trivial⟩) fun _ _ _ _ leaves => leaves

theorem flush_leavesNoMore (wf : c.WellFormed) (deadline : Deadline) (s : System κ) :
    (c.flush deadline).Ensures s (fun _ _ _ => True) (fun _ h _ => c.LeavesNoMore h) :=
  flush_ensures_of_send wf (c.send_leavesNoMore _ deadline s) (fun _ => trivial)
    (fun _ _ _ _ _ _ _ _ _ _ => trivial) fun _ _ _ _ _ _ _ _ _ _ => trivial

theorem write_leavesNoMore (wf : c.WellFormed) (data : Bytes) (deadline : Deadline) (s : System κ) :
    (c.write data deadline).Ensures s (fun _ _ _ => True) (fun _ h _ => c.LeavesNoMore h) := by
  refine write_ensures_of_ways wf (flush_leavesNoMore wf deadline s) (fun _ _ _ _ => trivial)
    (fun _ _ _ _ _ _ _ => trivial) (fun _ _ _ _ _ _ _ _ _ _ => trivial)
    fun es c₁ s' j _ _ flushed _ _ => ?_
  refine (c₁.send_leavesNoMore data deadline _).mono (fun _ _ _ _ _ => trivial)
    fun _ _ _ _ leaves message left is => ?_
  have same : c₁.liveCount = c.liveCount := congrArg ReadAhead.len flushed.rewritten.input
  obtain ⟨kind, none⟩ := leaves message left is
  exact ⟨kind.trans flushed.rewritten.kind, same ▸ none⟩

omit [Host κ] in
theorem HaltsAsking.leavesNoMore {h : Halt} {s : System κ} (halts : c'.HaltsAsking es h s) :
    c.LeavesNoMore h := by
  obtain ⟨_, _, rfl, _⟩ := halts
  exact nofun

theorem reposition_leavesNoMore (wf : c.WellFormed) (target : SeekTarget) (s : System κ) :
    (c.reposition target).Ensures s (fun _ _ _ => True) (fun _ h _ => c.LeavesNoMore h) := by
  refine Act.ensures_bind (((flush_ensures wf .never s).and (flush_leavesNoMore wf .never s)).mono
    (fun _ _ _ _ h => h) fun _ _ _ _ halts => halts.2) fun _ r s' _ flushed => ?_
  obtain ⟨result, c'⟩ := r
  rcases result with e | _
  · exact Act.ensures_pure trivial
  refine Act.ensures_bind ((c'.targetPosition_ensures target s').mono (fun _ _ _ _ h => h)
    fun _ _ _ _ halts => ?_) fun _ r t _ _ => ?_
  · obtain asking | ⟨_, _, physical, _, _, rfl⟩ := halts
    · exact asking.leavesNoMore
    · intro message left is
      cases is
      exact ⟨flushed.1.rewritten.kind,
        Nat.le_of_eq (congrArg ReadAhead.len flushed.1.rewritten.input)⟩
  rcases r with e | _ | position
  · exact Act.ensures_pure trivial
  · exact Act.ensures_pure trivial
  · exact Act.ensures_bind ((c'.seek_ensures position t).mono (fun _ _ _ _ h => h)
      fun _ _ _ _ halts => halts.leavesNoMore) fun _ _ _ _ _ => Act.ensures_pure trivial

/-- **The subtraction of `tell` is about to go below zero**: the position is asked for after a
dialogue that goes on, and it lies before the bytes read ahead. -/
def Overruns (c : Channel) (es : Dialogue) : Prop :=
  ∃ before physical, es = before ++ [Descriptor.seeking c.fd 0 .current (.ok physical)] ∧
    before.Onward c.fd ∧ physical < c.liveCount

/-- **What is left of an operation that halts**: a channel that can be afforded, if any; and nothing
but a position before the bytes read ahead has the subtraction go below zero. -/
structure Leftover (c : Channel) (es : Dialogue) (h : Halt) : Prop where
  affords : ∀ message left, h = .faulted message (some left) → c.Affords es left
  overruns : ∀ left?, h = .faulted "attempt to subtract with overflow" left? → es.Moderate →
    c.Overruns es

omit [Host κ] in
/-- A transfer that halts leaves no more than was there, and subtracts nothing. -/
theorem MayHalt.leftover {h : Halt} {s : System κ} (halts : c.MayHalt es h s)
    (onward : es.Onward c.fd) (leaves : c.LeavesNoMore h) : c.Leftover es h where
  affords message left is :=
    affords_of_onward onward (leaves message left is).1
      (Nat.le_add_right_of_le (leaves message left is).2)
  overruns left? is moderate := by
    cases halts with
    | noDescriptor _ _ _ _ => simp at is
    | overfull mem excess => exact absurd (moderate _ mem) excess
    | _ => cases is

theorem leftover_of_endless : c.Leftover es .endless := ⟨nofun, nofun⟩

omit [Host κ] in
theorem HaltsReading.leftover {low : Nat} {h : Halt} {s : System κ}
    (halts : c.HaltsReading low es h s) (leaves : c.LeavesNoMore h) : c.Leftover es h :=
  halts.1.leftover halts.2.1.onward leaves

omit [Host κ] in
theorem HaltsWriting.leftover {most : Nat} {h : Halt} {s : System κ}
    (halts : c.HaltsWriting most es h s) (leaves : c.LeavesNoMore h) : c.Leftover es h :=
  halts.1.leftover halts.2.1.onward leaves

omit [Host κ] in
theorem HaltsAsking.leftover {h : Halt} {s : System κ} (halts : c.HaltsAsking es h s) :
    c.Leftover es h := by
  obtain ⟨_, _, rfl, _⟩ := halts
  exact leftover_of_endless

/-- A position before the bytes read ahead of a channel that made a dialogue that goes on. -/
theorem Behind.leftover {h : Halt} (behind : c'.Behind es' h) (onward : es.Onward c.fd)
    (fd : c'.fd = c.fd) (kind : c'.kind = c.kind) (input : c'.input = c.input) :
    c.Leftover (es ++ es') h := by
  obtain ⟨physical, rfl, before, rfl⟩ := behind
  rw [fd]
  refine ⟨fun message left is => ?_, fun _ _ _ => ⟨es, physical, rfl, onward, ?_⟩⟩
  · cases is
    refine affords_same (onward.append fun e he => ?_) kind input
    exact List.mem_singleton.1 he ▸ .here _
  · rw [liveCount, input] at before
    exact before

omit [Host κ] in
theorem HaltsMoving.leftover {target : SeekTarget} {h : Halt} {s : System κ}
    (halts : c.HaltsMoving target es h s)
    (leaves : c.LeavesNoMore h) : c.Leftover es h := by
  rcases halts with sending | ⟨_, _, _, rfl, _⟩ | ⟨flushed, _, behind⟩
  · exact sending.leftover leaves
  · exact leftover_of_endless
  · exact behind.leftover flushed.writes.onward flushed.rewritten.fd flushed.rewritten.kind
      flushed.rewritten.input

end Channel

/-- **What every operation affords**, and what it leaves when it halts. -/
theorem Operation.run_affords {κ : Type} [Host κ] (operation : Operation) (wf : c.WellFormed)
    (s : System κ) :
    (operation.run c).Ensures s (fun es r _ => c.Affords es r.2)
      (fun es h _ => c.Leftover es h) := by
  rcases operation with ⟨len, source⟩ | ⟨len, low, high, source⟩ | ⟨data, source⟩ | source |
    position | _ | _ | _ | len | data | _ | target
  · -- `read`
    refine ensures_resolve source fun deadline => ensures_answer ?_
    exact ((Channel.read_ensures wf len deadline s).and
      (Channel.receive_leavesNoMore wf (Nat.le_refl _) (Nat.le_refl _) deadline s)).mono
      (fun _ _ _ _ received => received.1.affords wf) fun _ _ _ _ halts => halts.1.leftover halts.2
  · -- `readBetween`
    refine ensures_resolve source fun deadline => ensures_answer ?_
    refine ((Channel.readBetween_ensures wf len low high deadline s).and
      (Channel.readBetween_leavesNoMore wf len low high deadline s)).mono
      (fun es r _ _ post => ?_) fun _ _ _ _ halts => halts.1.leftover halts.2
    obtain ⟨_, _, received⟩ | ⟨_, refused⟩ := post.1
    · exact received.affords wf
    · exact (refused.handsOn wf).affords wf
  · -- `write`
    refine ensures_resolve source fun deadline => ensures_answer ?_
    exact ((Channel.write_ensures wf data deadline s).and
      (Channel.write_leavesNoMore wf data deadline s)).mono
      (fun _ _ _ _ written => written.1.rewritten.affords written.1.writes)
      fun _ _ _ _ halts => halts.1.leftover halts.2
  · -- `flush`
    refine ensures_resolve source fun deadline => ensures_answer ?_
    exact ((Channel.flush_ensures wf deadline s).and
      (Channel.flush_leavesNoMore wf deadline s)).mono
      (fun _ _ _ _ flushed => flushed.1.rewritten.affords flushed.1.writes)
      fun _ _ _ _ halts => halts.1.leftover halts.2
  · -- `seek`
    exact ensures_answer ((c.seek_ensures position s).mono (fun _ _ _ _ sought => sought.affords)
      fun _ _ _ _ halts => halts.leftover)
  · -- `tell`
    refine ensures_answer_same ((c.tell_ensures s).mono (fun _ _ _ _ told => told.affords)
      fun _ _ _ _ halts => ?_)
    obtain asking | behind := halts
    · exact asking.leftover
    · have silent : Dialogue.Onward c.fd [] := .nil
      exact behind.leftover silent rfl rfl rfl
  · -- `size`
    exact ensures_answer_same ((c.size_ensures s).mono (fun _ _ _ _ sized => sized.affords)
      fun _ _ _ _ halts => halts.leftover)
  · -- `info`
    exact Act.ensures_pure (Channel.affords_same .nil rfl rfl)
  · -- `readSome`
    refine ensures_answer (((Channel.readSome_ensures wf len s).and
      (Channel.readSome_leavesNoMore wf len s)).mono (fun es r _ _ post => ?_)
      fun _ _ _ _ halts => halts.1.leftover halts.2)
    obtain ⟨result, c'⟩ := r
    rcases post.1 with ⟨_, rfl, same⟩ | ⟨reading, received, rfl⟩
    · obtain ⟨rfl, rfl⟩ := Prod.mk.inj same
      exact Channel.affords_same .nil rfl rfl
    · exact received.affords wf
  · -- `writeAll`
    refine ensures_answer (Act.ensures_bind (((Channel.write_ensures wf data .never s).and
      (Channel.write_leavesNoMore wf data .never s)).mono (fun _ _ _ _ h => h)
      fun _ _ _ _ halts => halts.1.leftover halts.2) fun es r _ _ written => Act.ensures_pure ?_)
    rw [List.append_nil]
    exact written.1.rewritten.affords written.1.writes
  · -- `flushAll`
    refine ensures_answer (Act.ensures_bind (((Channel.flush_ensures wf .never s).and
      (Channel.flush_leavesNoMore wf .never s)).mono (fun _ _ _ _ h => h)
      fun _ _ _ _ halts => halts.1.leftover halts.2) fun es r _ _ flushed => Act.ensures_pure ?_)
    rw [List.append_nil]
    exact flushed.1.rewritten.affords flushed.1.writes
  · -- `reposition`
    exact ensures_answer (((Channel.reposition_ensures wf target s).and
      (Channel.reposition_leavesNoMore wf target s)).mono
      (fun _ _ _ _ done => done.1.affords) fun _ _ _ _ halts => halts.1.leftover halts.2)

/-! ## Channels that have their descriptors for themselves -/

namespace Channel

/-- **A channel that nobody disturbs**, with the kernel that it has come to.  It was begun in any
way, and any operations were run on it, also after one that broke a rule; what happened elsewhere in
between, to the scripts, the clock or other nodes, **spared its descriptor**. -/
inductive Sole : Channel → Kernel → Prop
  | begun {c : Channel} {opening : Opening} {s s' : System Kernel} :
      opening.run.runOn s = (.ok (.ok c), s') → Sole c s'.host
  | elsewhere {c : Channel} {k k' : Kernel} : Sole c k → Spares c.fd k k' → Sole c k'
  | operated {c c' : Channel} {operation : Operation} {answer : Answer} {s s' : System Kernel} :
      Sole c s.host → (operation.run c).runOn s = (.ok (answer, c'), s') → Sole c' s'.host
  | broken {c left : Channel} {operation : Operation} {message : String} {s s' : System Kernel} :
      Sole c s.host → (operation.run c).runOn s = (.error (.faulted message (some left)), s') →
        Sole left s'.host

namespace Sole

variable {k : Kernel}

theorem reachable (sole : c.Sole k) : c.Reachable Kernel := by
  induction sole with
  | begun run => exact .begun run
  | elsewhere _ _ ih => exact ih
  | operated _ run ih => exact .operated ih run
  | broken _ run ih => exact .broken ih run

/-- **The descriptor covers what is buffered.** -/
theorem covers (sole : c.Sole k) : Covers k c.fd c.liveCount := by
  induction sole with
  | @begun c opening s s' run =>
    obtain ⟨_, _, blank⟩ := (opening.run_ensures s).of_ok run
    have blank := blank c rfl
    have empty : c.liveCount = 0 := by
      rw [liveCount, ← ReadAhead.length_live blank.input, blank.live]
      rfl
    exact empty ▸ Kernel.covers_zero s'.host c.fd
  | elsewhere _ spares ih => exact ih.spared spares
  | @operated c c' operation answer s s' before run ih =>
    obtain ⟨_, reaches, affords⟩ := (operation.run_affords before.reachable.wellFormed s).of_ok run
    obtain ⟨_, _, _, same⟩ := (operation.confined_run rfl s).of_ok run
    have fd : c'.fd = c.fd := congrArg Hold.fd same
    exact fd ▸ affords.covers reaches.host ih
  | @broken c left operation message s s' before run ih =>
    obtain ⟨_, reaches, leaves⟩ :=
      (operation.run_affords before.reachable.wellFormed s).of_error run
    obtain ⟨_, _, _, same⟩ := (operation.confined_run rfl s).of_error run
    have fd : left.fd = c.fd := congrArg Hold.fd (same message left rfl)
    exact fd ▸ (leaves.affords message left rfl).covers reaches.host ih

end Sole

/-- **A descriptor that covers what is buffered is not overrun.** -/
theorem not_overruns {k k' : Kernel} (covers : Covers k c.fd c.liveCount)
    (leads : Host.Leads k es k') : ¬ c.Overruns es := by
  rintro ⟨before, physical, rfl, onward, less⟩
  obtain ⟨k₁, first, last⟩ := leads.split
  obtain ⟨k₂, r, covers, told, _⟩ := last.next (P := fun k => Covers k c.fd c.liveCount)
    (fun _ covers => covers) ((covers.onward first onward).mono (Nat.le_add_right _ _))
  obtain ⟨rfl, told⟩ := Exchange.mk.inj told
  have enough := (covers.told (eq_of_heq told).symm).2
  omega

end Channel

end BufferedChannels
