import Mathlib
import BufferedChannels.Proofs.Pursuit
import BufferedChannels.Proofs.Timeliness

/-!
# Proofs/Causes — an error tells its cause

The error of a read, a write or a flush can be told from its **last transfer**, and the last
transfer from the error: a number is the one with which that call failed, and a timeout means that
the call would have had to wait and that the wait for it timed out.  Interruptions and the wish to
wait never show; the calls that met with them were made again (`Pursued`).  A number outside the
table is told as zero.
-/

namespace BufferedChannels

/-- **The direction of an operation**: writes and flushes go out, everything else comes in. -/
def Operation.direction : Operation → Direction
  | .write .. | .flush _ | .writeAll _ | .flushAll => .writable
  | _ => .readable

namespace Channel

variable {c : Channel} {direction : Direction} {deadline : Deadline} {es : Dialogue}
  {failure? : Option ChannelError}

/-- **How a transfer answers**, told by its last call and what came after it. -/
inductive Reported (c : Channel) (direction : Direction) (deadline : Deadline) (es : Dialogue) :
    Option ChannelError → Prop
  | fine : es.lastFailure? = none → Reported c direction deadline es none
  | refused {x : Errno} {n : Nat} : es.lastFailure? = some x → x.recognized ≠ .interrupted →
      x.recognized ≠ .wouldBlock → Reported c direction deadline es (some (.os x.recognized n))
  | late {x : Errno} {n : Nat} : c.kind.alwaysReady = false → es.lastFailure? = some x →
      x.recognized = .wouldBlock →
        c.waiter.Waited c.fd direction deadline es.afterLast .timedOut →
          Reported c direction deadline es (some (.timedOut n))
  | rejected {rule : String} : es = [] →
      Reported c direction deadline es (some (.invalidArgument rule))

/-- **What an error tells**, and which calls were made again before it. -/
structure TellsCause (c : Channel) (direction : Direction) (deadline : Deadline) (es : Dialogue)
    (failure? : Option ChannelError) : Prop where
  /-- No error is an interruption or the wish to wait. -/
  lasting : ∀ x n, failure? = some (.os x n) → x ≠ .interrupted ∧ x ≠ .wouldBlock
  /-- Any other number is told exactly when the last transfer failed with it. -/
  refused : ∀ x, x ≠ .interrupted → x ≠ .wouldBlock →
    ((∃ n, failure? = some (.os x n)) ↔ ∃ y, es.lastFailure? = some y ∧ y.recognized = x)
  /-- A timeout is told exactly when the last transfer would have had to wait, on what may have to
  be waited for, and the wait for its direction timed out. -/
  late : (∃ n, failure? = some (.timedOut n)) ↔
    c.kind = .other ∧ (∃ y, es.lastFailure? = some y ∧ y.recognized = .wouldBlock) ∧
      c.waiter.Waited c.fd direction deadline es.afterLast .timedOut
  /-- What was interrupted was made again next, and what would have had to wait after a pause. -/
  pursued : es.Pursued (c.PausesFor direction deadline)

theorem Reported.toTellsCause (h : c.Reported direction deadline es failure?)
    (pursued : es.Pursued (c.PausesFor direction deadline)) :
    c.TellsCause direction deadline es failure? := by
  cases h with
  | fine none => exact ⟨nofun, fun x _ _ => by simp [none], by simp [none], pursued⟩
  | @refused y n failed retried blocked =>
    refine ⟨fun x n is => ?_, fun x _ _ => ?_, ?_, pursued⟩
    · cases is
      exact ⟨retried, blocked⟩
    · simp [failed]
    · simp [failed, blocked]
  | @late y n slow failed blocked waited =>
    refine ⟨nofun, fun x _ other => ?_, ?_, pursued⟩
    · simp [failed, blocked, other.symm]
    · simp [failed, blocked, waited, Kind.alwaysReady_eq_false_iff.1 slow]
  | rejected silent =>
    subst silent
    exact ⟨nofun, fun x _ _ => by simp [Dialogue.lastFailure?, Dialogue.lastTransfer?],
      by simp [Dialogue.lastFailure?, Dialogue.lastTransfer?], pursued⟩

variable {κ : Type} [Host κ] {s s' : System κ}

/-- **What cuts a transfer short is reported.** -/
theorem CutShort.reported {e : ChannelError} (h : c.CutShort direction deadline s es e s') :
    c.Reported direction deadline es (some e) := by
  have split (before waits : Dialogue) (last : Exchange) :
      before ++ [last] ++ waits = before ++ last :: waits := by simp
  rcases timeout : e.isTimeout with _ | _
  · rcases h with ⟨fails, retried, blocked⟩ | _
    · refine .refused ?_ retried blocked
      rw [Dialogue.lastFailure?_eq fails.isStill (List.forall_mem_nil _)]
      exact fails.failure?
    · cases timeout
  · obtain ⟨before, last, waits, x, rfl, slow, fails, blocked, waited⟩ := h.waited timeout
    have still : ∀ e ∈ waits, e.isStill = true :=
      fun e he => Exchange.isStill_of_isSuspension (waited.suspends e he)
    obtain ⟨n, rfl⟩ : ∃ n, e = .timedOut n := by cases e <;> simp_all [ChannelError.isTimeout]
    rw [split]
    refine .late (x := x) slow ?_ blocked ?_
    · rw [Dialogue.lastFailure?_eq fails.isStill still]
      exact fails.failure?
    · rwa [Dialogue.afterLast_eq fails.isStill still]

/-- **A transfer that pursued what failed**, and was cut short if it failed, tells its cause. -/
theorem tellsCause_of_cut (concluded : es.Concluded (c.PausesFor direction deadline) failure?)
    (cut : ∀ e, failure? = some e → c.CutShort direction deadline s es e s') :
    c.TellsCause direction deadline es failure? := by
  cases failure? with
  | none => exact (Reported.fine (concluded.settled rfl).fine).toTellsCause concluded.pursued
  | some e => exact (cut e rfl).reported.toTellsCause concluded.pursued

theorem receive_tellsCause (wf : c.WellFormed) {len low high : Nat} (marks : low ≤ high)
    (fits : high ≤ len) (deadline : Deadline) (s : System κ) :
    (c.receive len low high deadline).Ensures s
      (fun es r _ => c.TellsCause .readable deadline es r.1.error?) (fun _ _ _ => True) :=
  ((receive_concluded wf marks fits deadline s).and
    (receive_endsReading wf marks fits deadline s)).mono
    (fun _ _ _ _ ⟨concluded, ends⟩ => tellsCause_of_cut concluded ends.cut) fun _ _ _ _ _ => trivial

theorem flush_tellsCause (wf : c.WellFormed) (deadline : Deadline) (s : System κ) :
    (c.flush deadline).Ensures s
      (fun es r _ => c.TellsCause .writable deadline es (failureOf r.1)) (fun _ _ _ => True) :=
  ((flush_concluded wf deadline s).and (flush_cutShort wf deadline s)).mono
    (fun _ _ _ _ ⟨concluded, cut⟩ =>
      tellsCause_of_cut concluded fun e is => cut e (failureOf_eq_some.1 is))
    fun _ _ _ _ _ => trivial

theorem write_tellsCause (wf : c.WellFormed) (data : Bytes) (deadline : Deadline) (s : System κ) :
    (c.write data deadline).Ensures s
      (fun es r _ => c.TellsCause .writable deadline es (failureOf r.1)) (fun _ _ _ => True) :=
  ((write_concluded wf data deadline s).and (write_cutShort wf data deadline s)).mono
    (fun _ _ _ _ ⟨concluded, cut⟩ =>
      tellsCause_of_cut concluded fun e is => cut e (failureOf_eq_some.1 is))
    fun _ _ _ _ _ => trivial

end Channel

/-! ## Operations -/

/-- The failure of a result is that of the answer that gives it. -/
theorem Answer.failure?_count (result : Except ChannelError Nat) :
    (Answer.count result).failure? = Channel.failureOf result := by cases result <;> rfl

theorem Answer.failure?_finished (result : Except ChannelError Unit) :
    (Answer.finished result).failure? = Channel.failureOf result := by cases result <;> rfl

variable {κ : Type} [Host κ]

theorem Operation.run_tellsCause {operation : Operation} {source : DeadlineSource}
    (has : operation.deadline? = some source) {c : Channel} (wf : c.WellFormed) (s : System κ) :
    (operation.run c).Ensures s
      (fun es r _ => c.TellsCause operation.direction (source.madeAt (Host.now s.host)) es
        r.1.failure?) (fun _ _ _ => True) := by
  have rejected (rule : String) : c.TellsCause .readable (source.madeAt (Host.now s.host)) []
      (some (.invalidArgument rule)) :=
    (Channel.Reported.rejected rfl).toTellsCause .nil
  rcases operation with ⟨len, source⟩ | ⟨len, low, high, source⟩ | ⟨data, source⟩ | source |
    _ | _ | _ | _ | _ | _ | _ | _
  all_goals cases has
  all_goals refine Act.ensures_bind_quiet (runOn_resolve _ s) (.refl s) (ensures_answer ?_)
  · -- `read`
    exact Channel.receive_tellsCause wf (Nat.le_refl _) (Nat.le_refl _) _ s
  · -- `readBetween`
    unfold Channel.readBetween
    split
    · exact Act.ensures_pure (rejected _)
    split
    · exact Act.ensures_pure (rejected _)
    · exact Channel.receive_tellsCause wf (by omega) (by omega) _ s
  · -- `write`
    simp only [Answer.failure?_count]
    exact Channel.write_tellsCause wf data _ s
  · -- `flush`
    simp only [Answer.failure?_finished]
    exact Channel.flush_tellsCause wf _ s

/-- **An error tells its cause.**  Whenever a read, a write or a flush returns, its error is no
interruption and no wish to wait.  It is any other number exactly when the last transfer failed with
that number, or with one outside the table where it is zero.  It is a timeout exactly when the last
transfer would have had to wait, the channel may have to be waited for, and the waiter, asked for
the direction of the operation, timed out.  Every transfer that was interrupted was made again next,
and every other that would have had to wait was made again after a wait, or at once where there is
nothing to wait for. -/
theorem Operation.tellsCause {operation : Operation} {source : DeadlineSource}
    (has : operation.deadline? = some source) {c c' : Channel} (wf : c.WellFormed)
    {answer : Answer} {es : Dialogue} {s s' : System κ}
    (run : (operation.run c).runOn s = (.ok (answer, c'), s'))
    (noted : s'.trace = es.reverse ++ s.trace) :
    c.TellsCause operation.direction (source.madeAt (Host.now s.host)) es answer.failure? :=
  (Operation.run_tellsCause has wf s).of_noted run noted

/-! Pipes whose reads fail. -/

/-- A pipe with some bytes and a script for its reads. -/
def failingPipe (unread : Bytes) (errors : List Errno) : System Simulation.Kernel where
  host :=
    { nodes := [("p", {
        body := .stream { unread }
        script := errors.map fun e => (.read, { errno? := some e }) })]
      descriptors := [(3, { node := "p", flags := { access := .readWrite } })] }
  budget := 40

/-- A read that is given seven milliseconds for three bytes. -/
def shortRead : Operation := .read 3 (.after 7000000)

/-- What passes in it on a pipe with two bytes that is interrupted and has to be waited for. -/
def shortReads : Dialogue :=
  [Descriptor.reading 3 4 (.error .interrupted), Descriptor.reading 3 4 (.error .wouldBlock),
    ⟨.poll 3 .readable (some 7), Polled.ready⟩, Descriptor.reading 3 4 (.ok [1, 2]),
    Descriptor.reading 3 4 (.error .wouldBlock), ⟨.poll 3 .readable (some 7), Polled.timedOut⟩]

/-- The pipe on which it passes. -/
def thornyPipe : System Simulation.Kernel := failingPipe [1, 2] [.interrupted, .wouldBlock]

theorem Operation.tellsCause_thornyPipe :
    idleChannel.TellsCause .readable (.after 0 7000000) shortReads (some (.timedOut 2)) := by
  have run : (shortRead.run idleChannel).runOn thornyPipe =
      (.ok (.reading ⟨[1, 2], some (.timedOut 2)⟩,
          { idleChannel with input := ⟨[1, 2, 0, 0], 0, 0⟩ }),
        ((shortRead.run idleChannel).runOn thornyPipe).2) := by cbv
  have limited : shortRead.deadline? = some (.after 7000000) := rfl
  exact Operation.tellsCause limited idleChannel_wellFormed run (by cbv)

/-- **A number outside the table is not told**: Linux uses 524 inside and lets calls fail with it,
but names it for no program, and the error says zero. -/
theorem Operation.not_tellsCause_verbatim : ¬ ∀ (operation : Operation) (source : DeadlineSource)
    (c c' : Channel) (answer : Answer) (es : Dialogue) (s s' : System Simulation.Kernel)
    (x : Errno), operation.deadline? = some source → c.WellFormed →
      (operation.run c).runOn s = (.ok (answer, c'), s') → s'.trace = es.reverse ++ s.trace →
      x ≠ .interrupted → x ≠ .wouldBlock →
        ((∃ n, answer.failure? = some (.os x n)) ↔ es.lastFailure? = some x) := by
  intro verbatim
  have run : (shortRead.run idleChannel).runOn (failingPipe [] [⟨524⟩]) =
      (.ok (.reading ⟨[], some (.os .unknown 0)⟩, idleChannel),
        ((shortRead.run idleChannel).runOn (failingPipe [] [⟨524⟩])).2) := by cbv
  obtain ⟨n, told⟩ := (verbatim shortRead _ _ _ _ [Descriptor.reading 3 4 (.error ⟨524⟩)] _ _
    ⟨524⟩ rfl idleChannel_wellFormed run (by cbv) (by decide) (by decide)).2 rfl
  cases told

end BufferedChannels
