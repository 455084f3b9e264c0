import BufferedChannels.Proofs.Medium

/-!
# Proofs/Mirror — a channel that mirrors a plain file

A channel on a regular file `Mirrors` a plain file when the bytes read ahead are those before the
descriptor, and the plain file is the regular one **with the pending bytes stored where the caller
stands**.  Every transfer and every move that is in order leaves a channel that mirrors the plain
file after the operation, however short the replies of the medium fell and whether or not the
operation failed.
-/

namespace BufferedChannels

/-- **Where the caller of a channel stands in a file**: before the bytes read ahead. -/
def Medium.under (m : Medium) (c : Channel) : PlainFile where
  contents := m.contents
  position := m.offset - c.input.live.length

/-- **A channel mirrors a plain file.** -/
structure Mirrors (c : Channel) (m : Medium) (f : PlainFile) : Prop where
  wellFormed : c.WellFormed
  regular : c.kind = .regular
  ahead : c.input.live.length ≤ m.offset
  live : c.input.live = m.contents.slice (m.offset - c.input.live.length) c.input.live.length
  file : f = (m.under c).store c.output.pending

/-- **What a phase leaves in the buffers**: reading leaves no pending bytes, writing none read
ahead, and a move neither. -/
structure Phase.Fits (phase : Phase) (c : Channel) : Prop where
  live : phase ≠ .reading → c.input.live = []
  pending : phase ≠ .writing → c.output.pending = []

theorem Bytes.slice_split {contents a b : Bytes} {start : Nat}
    (h : a ++ b = contents.slice start (a.length + b.length)) :
    a = contents.slice start a.length ∧ b = contents.slice (start + a.length) b.length := by
  rw [← slice_append_slice] at h
  have whole := congrArg List.length h
  have front : (contents.slice start a.length).length ≤ a.length := List.length_take_le _ _
  have back : (contents.slice (start + a.length) b.length).length ≤ b.length :=
    List.length_take_le _ _
  rw [List.length_append, List.length_append] at whole
  exact List.append_inj h (by omega)

theorem Channel.eq_of_shifted {here n : Nat} {delta : Int} (is : shifted? here delta = some n) :
    (n : Int) = here + delta := by
  unfold shifted? at is
  dsimp only at is
  split at is
  · next fits =>
    rw [← Option.some.inj is, Int.toNat_of_nonneg fits.1]
  · cases is

namespace Mirrors

variable {c c' : Channel} {m m' : Medium} {f : PlainFile} {es : Dialogue}

theorem ready (h : Mirrors c m f) : c.kind.alwaysReady = true := by
  rw [h.regular]
  rfl

/-- With nothing pending the plain file is the regular one. -/
theorem file_of_idle (h : Mirrors c m f) (none : c.output.pending = []) : f = m.under c := by
  rw [h.file, none, PlainFile.store_nil]

/-! ## Reads -/

/-- **A read hands on the bytes at the position.** -/
theorem read (h : Mirrors c m f) (none : c.output.pending = []) {r : Reading}
    (done : c.HandsOn es r c') (converses : m.Converses c.fd es m') :
    Mirrors c' m' (f.advance r.bytes.length) ∧
      r.bytes = f.contents.slice f.position r.bytes.length := by
  have hasRead := converses.hasRead done.reads h.ready
  have count : c.input.live.length + (es.delivered c.fd).length =
      r.bytes.length + c'.input.live.length := by
    rw [← List.length_append, done.conserved, List.length_append]
  have whole : r.bytes ++ c'.input.live = m.contents.slice (m.offset - c.input.live.length)
      (r.bytes.length + c'.input.live.length) := by
    rw [← done.conserved, ← count, ← Bytes.slice_append_slice, ← h.live, Nat.sub_add_cancel h.ahead,
      ← hasRead.delivered]
  obtain ⟨bytes, live⟩ := Bytes.slice_split whole
  have ahead := h.ahead
  have offset := hasRead.offset
  have place : m'.offset - c'.input.live.length =
      m.offset - c.input.live.length + r.bytes.length := by omega
  rw [h.file_of_idle none]
  refine ⟨⟨⟨done.reread.wellFormed, done.reread.output ▸ h.wellFormed.output⟩,
    done.reread.kind.trans h.regular, by omega, ?_, ?_⟩, bytes⟩
  · rw [place, hasRead.contents]
    exact live
  · rw [done.reread.output, none, PlainFile.store_nil, Medium.under, Medium.under, place,
      hasRead.contents]
    rfl

/-- **A read that does not fail** is short only where the file ends. -/
theorem read_short (h : Mirrors c m f) (idle : c.output.pending = []) {low high : Nat} {r : Reading}
    (done : c.Received low high es r c') (converses : m.Converses c.fd es m')
    (fine : r.error? = none) : min low f.remaining ≤ r.bytes.length := by
  by_cases enough : low ≤ r.bytes.length
  · exact Nat.le_trans (Nat.min_le_left _ _) enough
  obtain ⟨drained, ends⟩ := done.short fine (Nat.not_le.1 enough)
  have hasRead := converses.hasRead done.reads h.ready
  have stop := hasRead.sawEnd ends.sawEnd
  have count := congrArg List.length done.conserved
  rw [drained, List.append_nil, List.length_append] at count
  have offset := hasRead.offset
  have ahead := h.ahead
  rw [h.file_of_idle idle]
  refine Nat.le_trans (Nat.min_le_right _ _) ?_
  show m.contents.length - (m.offset - c.input.live.length) ≤ _
  omega

/-- **A read that halts** has made few exchanges. -/
theorem read_few (h : Mirrors c m f) {low : Nat} {κ : Type} {halt : Halt} {s : System κ}
    (halts : c.HaltsReading low es halt s) (converses : m.Converses c.fd es m')
    (moderate : es.Moderate) : Spent halt s ∧ es.length ≤ m.patience + low := by
  obtain ⟨mayHalt, reads, unseen⟩ := halts
  obtain ⟨noEnd, few⟩ := unseen moderate
  have le := (converses.hasRead reads h.ready).length_le noEnd
  exact ⟨mayHalt.spent_of_ready h.ready moderate, by omega⟩

/-! ## Writes and flushes -/

/-- **A write stores what it took at the position**, and a flush nothing. -/
theorem write (h : Mirrors c m f) (idle : c.input.live = []) (rewritten : c.Rewritten c')
    (writes : es.Writes c) {taken : Bytes}
    (conserved : es.accepted c.fd ++ c'.output.pending = c.output.pending ++ taken)
    (converses : m.Converses c.fd es m') : Mirrors c' m' (f.store taken) := by
  have hasWritten := converses.hasWritten writes h.ready
  have idle' : c'.input.live = [] := rewritten.input ▸ idle
  refine ⟨rewritten.toWellFormed h.wellFormed, rewritten.kind.trans h.regular, ?_, ?_, ?_⟩
  · rw [idle']
    exact Nat.zero_le _
  · rw [idle']
    rfl
  · have under : m'.under c' = (m.under c).store (es.accepted c.fd) := by
      rw [Medium.under, Medium.under, PlainFile.store, idle', idle, hasWritten.contents,
        hasWritten.offset]
      rfl
    rw [under, PlainFile.store_append, conserved, ← PlainFile.store_append, ← h.file]

/-- **A flush changes nothing** of the plain file. -/
theorem flush (h : Mirrors c m f) {phase : Phase} (fits : phase.Fits c)
    {result : Except ChannelError Unit} (done : c.Flushed es result c')
    (converses : m.Converses c.fd es m') : Mirrors c' m' f ∧ phase.Fits c' := by
  have accepted := done.conserved
  have emptied (none : c.output.pending = []) : c'.output.pending = [] := by
    rw [none] at accepted
    exact (List.append_eq_nil_iff.1 accepted).2
  refine ⟨?_, fun notReading => ?_, fun notWriting => emptied (fits.pending notWriting)⟩
  · by_cases writing : phase = .writing
    · have idle := fits.live (by rw [writing]; exact nofun)
      rw [← List.append_nil c.output.pending] at accepted
      rw [← PlainFile.store_nil f]
      exact h.write idle done.rewritten done.writes accepted converses
    · -- Nothing is pending, and the flush was silent.
      have none := fits.pending writing
      rw [done.idle none] at converses
      cases converses
      refine ⟨done.rewritten.toWellFormed h.wellFormed, done.rewritten.kind.trans h.regular, ?_, ?_,
        ?_⟩
      · rw [done.rewritten.input]
        exact h.ahead
      · rw [done.rewritten.input]
        exact h.live
      · rw [emptied none, ← none, Medium.under, done.rewritten.input]
        exact h.file
  · rw [done.rewritten.input]
    exact fits.live notReading

/-- **A write that halts** has made few exchanges. -/
theorem write_few (h : Mirrors c m f) {most : Nat} {κ : Type} {halt : Halt} {s : System κ}
    (halts : c.HaltsWriting most es halt s) (converses : m.Converses c.fd es m')
    (moderate : es.Moderate) : Spent halt s ∧ es.length ≤ m.patience + most := by
  obtain ⟨mayHalt, writes, fine, few⟩ := halts
  have few := few moderate
  have le := (converses.hasWritten writes h.ready).length_le fine
  exact ⟨mayHalt.spent_of_ready h.ready moderate, by omega⟩

/-- A flush that succeeds has made few exchanges. -/
theorem flush_few (h : Mirrors c m f) (done : c.Flushed es (.ok ()) c')
    (converses : m.Converses c.fd es m') :
    es.length ≤ m.patience + c.output.pending.length := by
  have le := (converses.hasWritten done.writes h.ready).length_le (done.done rfl).2
  rw [← done.conserved, List.length_append]
  omega

/-! ## Moves -/

/-- **`tell` tells where the caller stands.** -/
theorem tell (h : Mirrors c m f) {r : Except ChannelError Nat} (told : c.Told es r)
    (converses : m.Converses c.fd es m') : m' = m ∧ r = .ok (m.under c).position := by
  obtain ⟨same, _, rfl⟩ := converses.told told
  refine ⟨same, ?_⟩
  rw [Medium.under, ReadAhead.length_live h.wellFormed.input]
  rfl

/-- **A target is counted from the position or the end** of the plain file. -/
theorem target (h : Mirrors c m f) (none : c.output.pending = [])
    (bound : m.offset ≤ Descriptor.maxOffset) {target : SeekTarget}
    {r : Except ChannelError (Option Nat)} (done : c.Targeted target es r)
    (converses : m.Converses c.fd es m') :
    m' = m ∧ ∀ n, r = .ok (some n) → f.Gives (.reposition target) (.streamCount (.ok n)) := by
  rw [h.file_of_idle none]
  rcases done with position | ⟨delta, told⟩ | ⟨delta, sized⟩
  · cases converses
    exact ⟨rfl, fun n is => (Option.some.inj (Except.ok.inj is)).symm⟩
  · obtain ⟨same, rfl⟩ := h.tell told converses
    exact ⟨same, fun n is => Channel.eq_of_shifted (Except.ok.inj is)⟩
  · obtain ⟨same, rfl⟩ := converses.sized (by rw [h.regular]; rfl) bound sized
    refine ⟨same, fun n is => ?_⟩
    have pending : c.pendingCount = 0 := by
      rw [Channel.pendingCount, ← WriteBehind.length_pending h.wellFormed.output, none]
      rfl
    rw [pending] at is
    exact Channel.eq_of_shifted (Except.ok.inj is)

/-- **A move sets the position**, unless it is refused. -/
theorem seek (h : Mirrors c m f) (none : c.output.pending = []) {position : Nat}
    {r : Except ChannelError Nat} (sought : c.Sought position es r c')
    (converses : m.Converses c.fd es m') :
    (m' = m ∧ c' = c ∧ ∃ e, r = .error e) ∨
      (r = .ok position ∧ Mirrors c' m' { f with position } ∧ Phase.fresh.Fits c') := by
  obtain refused | ⟨rfl, _, rfl, done⟩ := converses.sought sought
  · exact .inl refused
  · have live : c.emptied.input.live = [] := ReadAhead.live_clear _
    have pending : c.emptied.output.pending = [] := rfl
    refine .inr ⟨done, ⟨c.wellFormed_emptied, h.regular, ?_, ?_, ?_⟩, fun _ => live,
      fun _ => pending⟩
    · rw [live]
      exact Nat.zero_le _
    · rw [live]
      rfl
    · rw [pending, PlainFile.store_nil, h.file_of_idle none, Medium.under, Medium.under, live]
      rfl

end Mirrors

end BufferedChannels
