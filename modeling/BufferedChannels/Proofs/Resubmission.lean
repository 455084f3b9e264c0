import BufferedChannels.Proofs.Conservation
import BufferedChannels.Proofs.CutShort

/-!
# Proofs/Resubmission — what a plain write that fails has done with the data

The plain interface drops the count of a failure.  Where the data fits a channel's buffers nothing
is lost by that, because a write that fails has **taken none of it**, and the caller may submit it
again.  Data that is larger is sent past the buffer: a failure may come after a first part of it,
and the error does not tell how long that part is.
-/

namespace BufferedChannels.Channel

variable {κ : Type} [Host κ] {c c' : Channel} {data : Bytes}

/-- **A write that fails after a part of the data** had sent what was pending, and the data was
larger than the buffer. -/
structure CutWrite (c : Channel) (data : Bytes) (e : ChannelError) (c' : Channel) : Prop where
  short : e.transferred < data.length
  direct : 0 < e.transferred → c.output.capacity < data.length ∧ c'.output.pending = []

/-- A channel with nothing pending has no room only for data that is larger than its buffer. -/
theorem capacity_lt_of_noRoom (wf : c.output.WellFormed) (none : c.output.pending = [])
    (full : ¬ c.output.hasRoom data.length = true) : c.output.capacity < data.length := by
  have empty := WriteBehind.length_pending wf
  rw [none, List.length_nil] at empty
  rw [WriteBehind.hasRoom_iff wf] at full
  omega

/-- **What a write that fails has done.** -/
theorem write_cutWrite (wf : c.WellFormed) (data : Bytes) (deadline : Deadline) (s : System κ) :
    (c.write data deadline).Ensures s
      (fun _ r _ => ∀ e, r.1 = .error e → c.CutWrite data e r.2) (fun _ _ _ => True) := by
  refine write_ensures_of_ways wf ((flush_ensures wf deadline s).mono (fun _ _ _ _ h => h)
    fun _ _ _ _ _ => trivial) (fun _ _ _ _ => nofun) (fun es e c' s' full _ _ e' is => ?_)
    (fun _ _ _ _ _ _ _ _ _ _ => nofun) fun es c₁ s' j _ _ flushed _ large => ?_
  · obtain rfl := Except.error.inj is
    have some : 0 < data.length := by
      rw [WriteBehind.hasRoom_iff wf.output] at full
      have := wf.output
      unfold WriteBehind.WellFormed at this
      omega
    exact ⟨by simpa using some, by simp⟩
  · have none := (flushed.done rfl).1
    have wf' := flushed.rewritten.toWellFormed wf
    refine (send_ensures wf' data deadline _).mono (fun es' r t _ sent e' is => ?_)
      fun _ _ _ _ _ => trivial
    obtain ⟨count, _ | e⟩ := r
    · cases is
    · obtain rfl := Except.error.inj is
      obtain ⟨before, transferred⟩ := sent.failed e rfl
      exact ⟨transferred ▸ before, fun _ =>
        ⟨flushed.rewritten.capacity ▸ capacity_lt_of_noRoom wf'.output none large, none⟩⟩

/-- A plain write that fails has done what the write did whose count it drops. -/
theorem writeAll_cutWrite (wf : c.WellFormed) (data : Bytes) (s : System κ) :
    (c.writeAll data).Ensures s
      (fun es r _ => ∀ e, r.1 = .error e → ∃ lost, e = lost.toStandard ∧
        c.CutWrite data lost r.2 ∧ c.Written data es (.error lost) r.2) (fun _ _ _ => True) := by
  unfold writeAll
  refine Act.ensures_bind (((write_ensures wf data .never s).and
    (write_cutWrite wf data .never s)).mono (fun _ _ _ _ h => h) fun _ _ _ _ _ => trivial)
    fun es r s' _ ⟨written, cut⟩ => ?_
  obtain ⟨lost | n, c'⟩ := r
  · refine Act.ensures_pure fun e is => ⟨lost, (Except.error.inj is).symm, cut lost rfl, ?_⟩
    rw [List.append_nil]
    exact written
  · exact Act.ensures_pure nofun

/-- **Data that fits may be submitted again.**  When a plain write fails, its error is that of a
write whose count it drops, and the bytes that the descriptor accepted and then those still pending
are the bytes that were pending and then as many bytes of the data.  That is never all of the data,
it is **nothing unless the data is larger than the buffer**, and none of it stays pending. -/
theorem writeAll_failed (wf : c.WellFormed) {es : Dialogue} {e : StandardError} {s s' : System κ}
    (run : (c.writeAll data).runOn s = (.ok (.error e, c'), s'))
    (noted : s'.trace = es.reverse ++ s.trace) :
    ∃ lost : ChannelError, e = lost.toStandard ∧ lost.transferred < data.length ∧
      es.accepted c.fd ++ c'.output.pending = c.output.pending ++ data.take lost.transferred ∧
      (0 < lost.transferred → c.output.capacity < data.length ∧ c'.output.pending = []) := by
  obtain ⟨_, reaches, failed⟩ := (writeAll_cutWrite wf data s).of_ok run
  obtain rfl := reaches.eq_of_trace noted
  obtain ⟨lost, cause, cut, written⟩ := failed e rfl
  exact ⟨lost, cause, cut.short, written.conserved, cut.direct⟩

/-! A pipe that takes three bytes and then fails. -/

/-- The kernel of the pipe, and its descriptor. -/
def choking : System Simulation.Kernel where
  host :=
    { nodes := [("p", {
        body := .stream {}
        script := [(.write, { max? := some 3 }), (.write, { errno? := some ⟨5⟩ })] })]
      descriptors := [(3, { node := "p", flags := { access := .readWrite } })] }
  budget := 40
  bufferLength := 4

/-- The pipe with its descriptor adopted. -/
def choked : System Simulation.Kernel := ((Opening.adopt 3).run.runOn choking).2

/-- The channel that adopted it. -/
def chokedChannel : Channel :=
  { fd := 3, kind := .unasked, input := ⟨[0, 0, 0, 0], 0, 0⟩, output := ⟨[0, 0, 0, 0], 0⟩,
    verbose := false, waiter := .polling .shared }

theorem reachable_choked : chokedChannel.Reachable Simulation.Kernel :=
  .begun (show (Opening.adopt 3).run.runOn choking = (.ok (.ok chokedChannel), choked) from rfl)

/-- What passes when five bytes are written. -/
def chokedExchanges : Dialogue :=
  [Descriptor.writing 3 [1, 2, 3, 4, 5] (.ok 3), Descriptor.writing 3 [4, 5] (.error ⟨5⟩)]

theorem choked_write : ((chokedChannel.writeAll [1, 2, 3, 4, 5]).runOn choked).1 =
      .ok (.error (.errno ⟨5⟩), chokedChannel) ∧
    ((chokedChannel.writeAll [1, 2, 3, 4, 5]).runOn choked).2.trace =
      chokedExchanges.reverse ++ choked.trace := ⟨rfl, rfl⟩

theorem writeAll_failed_choked :
    ∃ lost : ChannelError, StandardError.errno ⟨5⟩ = lost.toStandard ∧ lost.transferred < 5 ∧
      chokedExchanges.accepted 3 ++ [] = [] ++ [1, 2, 3, 4, 5].take lost.transferred ∧
      (0 < lost.transferred → 4 < 5 ∧ ([] : Bytes) = []) :=
  writeAll_failed reachable_choked.wellFormed (Prod.ext choked_write.1 rfl) choked_write.2

/-- **Larger data must not be submitted again**: the pipe took three of its bytes, and the error
does not say so. -/
theorem not_safe_to_resubmit : ¬ ∀ (c c' : Channel) (data : Bytes) (es : Dialogue)
    (e : StandardError) (s s' : System Simulation.Kernel), c.Reachable Simulation.Kernel →
      (c.writeAll data).runOn s = (.ok (.error e, c'), s') →
      s'.trace = es.reverse ++ s.trace →
        es.accepted c.fd ++ c'.output.pending = c.output.pending := fun safe =>
  absurd (safe chokedChannel chokedChannel [1, 2, 3, 4, 5] chokedExchanges _ choked _
    reachable_choked (Prod.ext choked_write.1 rfl) choked_write.2) (by decide)

end BufferedChannels.Channel
