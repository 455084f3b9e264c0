import Mathlib
import BufferedChannels.Proofs.Resubmission

/-!
# Proofs/Acceptance — where the bytes of a write and of a flush are

A flush that is cut short after some bytes has sent **exactly those** and keeps exactly the others.
A write goes by what room there is: data that fits is collected without a call, and any other waits
for a flush.  If that flush fails, none of the data is taken (`AfterFlush.refused`); if it succeeds,
data of up to the capacity is all that is pending then (`AfterFlush.collected`), and larger data
goes straight out, to its end (`AfterFlush.sent`) or to where it was cut (`AfterFlush.cut`).
-/

namespace BufferedChannels.Channel

variable {κ : Type} [Host κ] {c c' : Channel} {data : Bytes} {es : Dialogue}

/-! ## Flushing -/

/-- **How far a flush came**: it sent everything and keeps nothing, or it sent as many bytes as its
failure counts, which is not all of them, and keeps the others. -/
structure Drained (c : Channel) (es : Dialogue) (result : Except ChannelError Unit) (c' : Channel) :
    Prop where
  all : result = .ok () → es.accepted c.fd = c.output.pending ∧ c'.output.pending = []
  cut : ∀ e, result = .error e → e.transferred < c.output.pending.length ∧
    es.accepted c.fd = c.output.pending.take e.transferred ∧
      c'.output.pending = c.output.pending.drop e.transferred

theorem Flushed.drained {result : Except ChannelError Unit} (h : c.Flushed es result c') :
    c.Drained es result c' where
  all := fun fine => by
    have none := (h.done fine).1
    have sent := h.conserved
    rw [none, List.append_nil] at sent
    exact ⟨sent, none⟩
  cut := fun e failed => by
    obtain ⟨some, count⟩ := h.failed e failed
    have more : 0 < c'.output.pending.length := List.length_pos_iff.2 some
    rw [count, ← h.conserved, List.length_append, List.take_left, List.drop_left]
    exact ⟨Nat.lt_add_of_pos_right more, rfl, rfl⟩

/-- **With nothing pending a flush does nothing.** -/
theorem runOn_flush_of_idle (idle : c.pendingCount = 0) (deadline : Deadline) (s : System κ) :
    (c.flush deadline).runOn s = (.ok (.ok (), c), s) := by
  have empty : c.output.isEmpty = true := beq_iff_eq.2 idle
  rw [flush, if_pos empty]
  rfl

/-! ## Writing -/

/-- **How a write ends whose data did not fit**, told by the flush of the channel that it began
with, which left another channel: what passed since, the result, and the channel then. -/
inductive AfterFlush (c : Channel) (data : Bytes) :
    Except ChannelError Unit → Channel → Dialogue → Except ChannelError Nat → Channel → Prop
  /-- The flush failed, and so does the write, from the same cause and with none of the data. -/
  | refused {e : ChannelError} {c₁ : Channel} :
      AfterFlush c data (.error e) c₁ [] (.error (e.recount 0)) c₁
  /-- Data that an empty buffer holds is all that is pending. -/
  | collected {c₁ c' : Channel} : data.length ≤ c.capacity → c'.output.pending = data →
      AfterFlush c data (.ok ()) c₁ [] (.ok data.length) c'
  /-- Larger data was all sent, and counted right unless the host took more than it was given. -/
  | sent {c₁ : Channel} {rest : Dialogue} {n : Nat} : c.capacity < data.length →
      c₁.output.pending = [] → rest.accepted c.fd = data → (rest.Moderate → n = data.length) →
        AfterFlush c data (.ok ()) c₁ rest (.ok n) c₁
  /-- Larger data was sent up to where the failure says. -/
  | cut {c₁ : Channel} {rest : Dialogue} {e : ChannelError} : c.capacity < data.length →
      c₁.output.pending = [] → rest.accepted c.fd = data.take e.transferred →
        e.transferred < data.length → AfterFlush c data (.ok ()) c₁ rest (.error e) c₁

/-- Data sent past a buffer that was flushed. -/
theorem Sent.afterFlush {c₁ : Channel} {rest : Dialogue} {sent : Nat} {error? : Option ChannelError}
    (h : c₁.Sent data rest (sent, error?)) (large : c.capacity < data.length)
    (none : c₁.output.pending = []) (same : c₁.fd = c.fd) :
    c.AfterFlush data (.ok ()) c₁ rest (error?.elim (.ok sent) .error) c₁ := by
  have accepted : rest.accepted c.fd = data.take sent := same ▸ h.accepted
  rcases error? with _ | e
  · have all : data.length ≤ sent := (h.all rfl).1
    refine .sent large none (accepted.trans (List.take_of_length_le all)) fun moderate => ?_
    exact Nat.le_antisymm (h.le moderate) all
  · obtain ⟨before, count⟩ := h.failed e rfl
    exact .cut large none (count ▸ accepted) (count ▸ before)

/-- **A write whose data does not fit flushes first**, and goes by how that ends. -/
theorem write_afterFlush (wf : c.WellFormed) (data : Bytes) (deadline : Deadline) (s : System κ) :
    (c.write data deadline).Ensures s
      (fun es r _ => c.output.hasRoom data.length = false → ∃ flushed c₁ s₁ drained rest,
        (c.flush deadline).runOn s = (.ok (flushed, c₁), s₁) ∧
          s₁.trace = drained.reverse ++ s.trace ∧ es = drained ++ rest ∧
            c.Drained drained flushed c₁ ∧ c.AfterFlush data flushed c₁ rest r.1 r.2)
      (fun _ _ _ => True) := by
  refine write_ensures_of_ways wf ((flush_ensures wf deadline s).ran.mono
    (fun es r s₁ reaches ⟨run, _⟩ => And.intro run reaches.trace) fun _ _ _ _ _ => trivial)
    (fun c' room _ _ full => ?_) (fun es e c' s' _ flushed ⟨run, noted⟩ _ => ?_)
    (fun es c₁ c' s' _ flushed ⟨run, noted⟩ room _ more _ => ?_)
    fun es c₁ s' j _ _ flushed ⟨run, noted⟩ large => ?_
  · rw [room] at full
    cases full
  · exact ⟨_, c', s', es, [], run, noted, (List.append_nil es).symm, flushed.drained, .refused⟩
  · have fits : data.length ≤ c.capacity := by
      have total := (WriteBehind.hasRoom_iff flushed.rewritten.wellFormed).1 room
      rw [flushed.rewritten.capacity] at total
      exact Nat.le_of_add_left_le total
    rw [(flushed.done rfl).1, List.nil_append] at more
    exact ⟨_, c₁, s', es, [], run, noted, (List.append_nil es).symm, flushed.drained,
      .collected fits more⟩
  · have none := (flushed.done rfl).1
    have beyond : c₁.output.capacity < data.length :=
      capacity_lt_of_noRoom flushed.rewritten.wellFormed none large
    rw [flushed.rewritten.capacity] at beyond
    refine (send_ensures (flushed.rewritten.toWellFormed wf) data deadline _).mono
      (fun rest r t _ sent _ => ?_) fun _ _ _ _ _ => trivial
    exact ⟨_, c₁, s', es, rest, run, noted, rfl, flushed.drained,
      sent.afterFlush beyond none flushed.rewritten.fd⟩

/-- **Data that fits is collected** without a call. -/
theorem runOn_write_of_room (wf : c.WellFormed) (room : c.output.hasRoom data.length = true)
    (deadline : Deadline) (s : System κ) :
    ∃ c', (c.write data deadline).runOn s = (.ok (.ok data.length, c'), s) ∧
      c'.output.pending = c.output.pending ++ data := by
  obtain ⟨more, appended, pending, -⟩ := WriteBehind.append_eq wf.output room
  refine ⟨{ c with output := more }, ?_, pending⟩
  rw [write, if_pos room, collect, appended, Act.runOn_check]
  rfl

/-- **A write and a flush, told in full.**  Data that fits beside what is pending is put behind it,
and nothing else happens; any other write returns as told by the flush that it begins with.  A flush
of an empty buffer does nothing, and any flush that returns sent everything, or exactly as much as
its failure counts. -/
theorem write_flush_accounted (wf : c.WellFormed) (data : Bytes) (deadline : Deadline)
    (s : System κ) :
    (data.length ≤ c.capacity - c.pendingCount →
        ∃ c', (c.write data deadline).runOn s = (.ok (.ok data.length, c'), s) ∧
          c'.output.pending = c.output.pending ++ data) ∧
      (c.capacity - c.pendingCount < data.length →
        ∀ (es : Dialogue) r c' s', (c.write data deadline).runOn s = (.ok (r, c'), s') →
          s'.trace = es.reverse ++ s.trace → ∃ flushed c₁ s₁ drained rest,
            (c.flush deadline).runOn s = (.ok (flushed, c₁), s₁) ∧
              s₁.trace = drained.reverse ++ s.trace ∧ es = drained ++ rest ∧
                c.Drained drained flushed c₁ ∧ c.AfterFlush data flushed c₁ rest r c') ∧
      (c.pendingCount = 0 → (c.flush deadline).runOn s = (.ok (.ok (), c), s)) ∧
      ∀ (es : Dialogue) r c' s', (c.flush deadline).runOn s = (.ok (r, c'), s') →
        s'.trace = es.reverse ++ s.trace → c.Drained es r c' := by
  have room : c.output.hasRoom data.length = decide (data.length ≤ c.capacity - c.pendingCount) :=
    rfl
  refine ⟨fun fits => runOn_write_of_room wf (room.trans (decide_eq_true fits)) deadline s,
    fun full es r c' s' run noted => ?_, fun idle => runOn_flush_of_idle idle deadline s,
    fun es r c' s' run noted => ?_⟩
  · obtain ⟨_, reaches, told⟩ := (write_afterFlush wf data deadline s).of_ok run
    obtain rfl := reaches.eq_of_trace noted
    exact told (room.trans (decide_eq_false (Nat.not_le.2 full)))
  · obtain ⟨_, reaches, flushed⟩ := (flush_ensures wf deadline s).of_ok run
    obtain rfl := reaches.eq_of_trace noted
    exact flushed.drained

/-! The file on which a write is cut short and the next one fails, with three bytes pending. -/

/-- Its channel with nothing pending. -/
def unladen : Channel := History.patchyChannel ⟨[0, 0, 0, 0], 0, 0⟩ ⟨[0, 0, 0, 0], 0⟩

/-- Its channel. -/
def laden : Channel := History.patchyChannel ⟨[0, 0, 0, 0], 0, 0⟩ ⟨[7, 8, 9, 0], 3⟩

/-- Its channel after a flush that was cut short. -/
def halfUnladen : Channel := History.patchyChannel ⟨[0, 0, 0, 0], 0, 0⟩ ⟨[8, 9, 9, 0], 2⟩

theorem unladen_wellFormed : unladen.WellFormed := ⟨⟨by decide, by decide⟩, Nat.zero_le 4⟩

theorem laden_wellFormed : laden.WellFormed := ⟨⟨by decide, by decide⟩, Nat.le_succ 3⟩

/-- What passes in that flush. -/
def halfUnloading : Dialogue :=
  [Descriptor.writing 3 [7, 8, 9] (.ok 1), Descriptor.writing 3 [8, 9] (.error ⟨5⟩)]

theorem write_flush_accounted_laden :
    (∃ c', (laden.write [10] .never).runOn History.patchyOpened =
        (.ok (.ok 1, c'), History.patchyOpened) ∧ c'.output.pending = [7, 8, 9] ++ [10]) ∧
      (∃ flushed c₁ s₁ drained rest,
        (laden.flush .never).runOn History.patchyOpened = (.ok (flushed, c₁), s₁) ∧
          s₁.trace = drained.reverse ++ History.patchyOpened.trace ∧
            halfUnloading = drained ++ rest ∧ laden.Drained drained flushed c₁ ∧
              laden.AfterFlush [1, 2, 3, 4, 5] flushed c₁ rest (.error (.os ⟨5⟩ 0)) halfUnladen) ∧
      (unladen.flush .never).runOn History.patchyOpened =
        (.ok (.ok (), unladen), History.patchyOpened) ∧
      laden.Drained halfUnloading (.error (.os ⟨5⟩ 1)) halfUnladen := by
  have wrote : (laden.write [1, 2, 3, 4, 5] .never).runOn History.patchyOpened =
      (.ok (.error (.os ⟨5⟩ 0), halfUnladen),
        ((laden.write [1, 2, 3, 4, 5] .never).runOn History.patchyOpened).2) := by cbv
  have written : ((laden.write [1, 2, 3, 4, 5] .never).runOn History.patchyOpened).2.trace =
      halfUnloading.reverse ++ History.patchyOpened.trace := by cbv
  have flushed : (laden.flush .never).runOn History.patchyOpened =
      (.ok (.error (.os ⟨5⟩ 1), halfUnladen),
        ((laden.flush .never).runOn History.patchyOpened).2) := by cbv
  have noted : ((laden.flush .never).runOn History.patchyOpened).2.trace =
      halfUnloading.reverse ++ History.patchyOpened.trace := by cbv
  obtain ⟨_, told, _, drained⟩ :=
    write_flush_accounted laden_wellFormed [1, 2, 3, 4, 5] .never History.patchyOpened
  exact ⟨(write_flush_accounted laden_wellFormed [10] .never History.patchyOpened).1 (by decide),
    told (by decide) _ _ _ _ wrote written,
    (write_flush_accounted unladen_wellFormed [] .never History.patchyOpened).2.2.1 rfl,
    drained _ _ _ _ flushed noted⟩

end BufferedChannels.Channel
