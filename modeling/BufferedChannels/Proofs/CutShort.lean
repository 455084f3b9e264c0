import BufferedChannels.Proofs.Reading
import BufferedChannels.Proofs.Writing

/-!
# Proofs/CutShort — what cuts a transfer short

A read, a write or a flush that fails was cut short by **one last event**: a call on its descriptor
that failed for good, or a wait that timed out.  `CutShort` says which, and what the system was
before a wait, so whatever is known of calls and of waits is known of failing transfers.  A read
that does not fail is complete or has just seen the end of the stream.
-/

namespace BufferedChannels

/-- **A transfer that failed** in a direction, with the number that the host gave. -/
inductive Exchange.FailsWith (fd : Int) (x : Errno) : Direction → Exchange → Prop
  | read (len : Nat) : FailsWith fd x .readable (Descriptor.reading fd len (.error x))
  | write (data : Bytes) : FailsWith fd x .writable (Descriptor.writing fd data (.error x))

/-- **Outcomes of one kind**: both moved bytes, both would block, or both failed with one number. -/
inductive Attempt.Alike {α : Type} : Attempt α → Attempt α → Prop
  | moved {a b : α} : Alike (.moved a) (.moved b)
  | mustWait : Alike .mustWait .mustWait
  | failed {e : Errno} : Alike (.failed e) (.failed e)

variable {κ : Type} [Host κ]

namespace Channel

/-- **What cuts a transfer short**: its last call was refused for good, or it would have blocked and
the wait for it timed out. -/
inductive CutShort (c : Channel) (direction : Direction) (deadline : Deadline) (s : System κ) :
    Dialogue → ChannelError → System κ → Prop
  | refused {before : Dialogue} {last : Exchange} {x : Errno} {n : Nat} {s' : System κ} :
      last.FailsWith c.fd x direction → x.recognized ≠ .interrupted → x.recognized ≠ .wouldBlock →
        CutShort c direction deadline s (before ++ [last]) (.os x.recognized n) s'
  | late {before waits : Dialogue} {last : Exchange} {x : Errno} {n : Nat} {s₀ s' : System κ} :
      c.kind.alwaysReady = false → last.FailsWith c.fd x direction → x.recognized = .wouldBlock →
        s.Reaches (before ++ [last]) s₀ → s₀.Reaches waits s' →
        (c.waiter.wait c.fd direction deadline).runOn s₀ = (.ok .timedOut, s') →
        CutShort c direction deadline s (before ++ [last] ++ waits) (.timedOut n) s'

namespace CutShort

variable {c c' : Channel} {direction : Direction} {deadline : Deadline} {s s₁ s' : System κ}
  {es es' : Dialogue} {e : ChannelError}

/-- What came before a transfer does not change what cut it short. -/
theorem after (h : c.CutShort direction deadline s₁ es' e s') (reaches : s.Reaches es s₁) :
    c.CutShort direction deadline s (es ++ es') e s' := by
  cases h with
  | refused fails retried blocked =>
    rw [← List.append_assoc]
    exact .refused fails retried blocked
  | late slow fails blocked before waits timedOut =>
    rw [← List.append_assoc, ← List.append_assoc]
    exact .late slow fails blocked (List.append_assoc es _ _ ▸ reaches.trans before) waits timedOut

/-- Only descriptor, kind and waiter of the channel count. -/
theorem congr (h : c'.CutShort direction deadline s es e s') (fd : c'.fd = c.fd)
    (kind : c'.kind = c.kind) (waiter : c'.waiter = c.waiter) :
    c.CutShort direction deadline s es e s' := by
  cases h with
  | refused fails retried blocked => exact .refused (fd ▸ fails) retried blocked
  | late slow fails blocked before waits timedOut =>
    exact .late (kind ▸ slow) (fd ▸ fails) blocked before waits (fd ▸ waiter ▸ timedOut)

/-- The count of bytes tells nothing of the cause. -/
theorem recount (h : c.CutShort direction deadline s es e s') (n : Nat) :
    c.CutShort direction deadline s es (e.recount n) s' := by
  cases h with
  | refused fails retried blocked => exact .refused fails retried blocked
  | late slow fails blocked before waits timedOut =>
    exact .late slow fails blocked before waits timedOut

end CutShort

/-! ## The last event -/

/-- **An attempt that fails for good** is the last call of its transfer. -/
theorem cutShort_of_failed {c : Channel} {α : Type} {direction : Direction} {deadline : Deadline}
    {s s' : System κ} {exchange : Except Errno α → Exchange}
    (fails : ∀ x, (exchange (.error x)).FailsWith c.fd x direction) {es es' : Dialogue} {e : Errno}
    (attempt : Attempted exchange es' (.failed e)) (n : Nat) :
    c.CutShort direction deadline s (es ++ es') (.os e n) s' := by
  obtain ⟨before, reply, _, rfl, said⟩ := attempt
  obtain ⟨x, rfl, rfl, retried, blocked⟩ := Attempt.ofReply_eq_failed said
  rw [← List.append_assoc]
  exact .refused (fails x) retried blocked

/-- **A channel does not go on** only when its wait timed out. -/
theorem timedOut_of_mayRetry {c : Channel} {direction : Direction} {deadline : Deadline}
    {s s' : System κ} (run : (c.mayRetry direction deadline).runOn s = (.ok false, s')) :
    c.kind.alwaysReady = false ∧
      (c.waiter.wait c.fd direction deadline).runOn s = (.ok .timedOut, s') := by
  unfold mayRetry at run
  split at run
  · simp at run
  · next slow =>
    refine ⟨by simpa using slow, ?_⟩
    rw [Act.runOn_bind] at run
    rcases waited : (c.waiter.wait c.fd direction deadline).runOn s with ⟨_ | ⟨got | _⟩, s₁⟩
    · rw [Act.runOn_leaving_error c waited] at run
      simp at run
    · -- Ready is no reason to stop, and the wrong direction does not come back.
      rw [Act.runOn_leaving_ok c waited] at run
      dsimp only at run
      rw [Act.runOn_bind, Act.require] at run
      split at run
      · simp at run
      · simp at run
    · rw [Act.runOn_leaving_ok c waited] at run
      simpa using run

/-- **What is ensured of a wait is ensured of a channel that waits**, which goes on unless the wait
timed out. -/
theorem mayRetry_ensures_of_wait {c : Channel} {direction : Direction} {deadline : Deadline}
    {s : System κ} {waits : Dialogue → Bool → System κ → Prop}
    {halts : Dialogue → Halt → System κ → Prop} (slow : c.kind.alwaysReady = false)
    (wait : (c.waiter.wait c.fd direction deadline).Ensures s
      (fun es outcome s' => waits es (outcome ≠ .timedOut) s')
      (fun es h s' => halts es (h.leaving c) s'))
    (aborts : ∀ es t, halts es .aborted t) :
    (c.mayRetry direction deadline).Ensures s waits halts := by
  unfold mayRetry
  rw [slow]
  refine Act.ensures_bind (Act.ensures_leaving c wait) fun es outcome s' _ waited => ?_
  rw [← List.append_nil es] at waited
  cases outcome with
  | timedOut => exact Act.ensures_pure waited
  | ready got => exact Act.ensures_require (fun _ => Act.ensures_pure waited) fun _ _ => aborts _ _

/-- **A wait that times out** after an attempt that would have blocked ends the transfer. -/
theorem cutShort_of_late {c : Channel} {α : Type} {direction : Direction} {deadline : Deadline}
    {s s₁ s₂ s' : System κ} {exchange : Except Errno α → Exchange}
    (fails : ∀ x, (exchange (.error x)).FailsWith c.fd x direction) {es es' waits : Dialogue}
    (attempt : Attempted exchange es' .mustWait) (reached : s.Reaches es s₁)
    (reaches : s₁.Reaches es' s₂) (waited : s₂.Reaches waits s')
    (run : (c.mayRetry direction deadline).runOn s₂ = (.ok false, s')) (n : Nat) :
    c.CutShort direction deadline s (es ++ (es' ++ waits)) (.timedOut n) s' := by
  obtain ⟨before, reply, _, rfl, said⟩ := attempt
  obtain ⟨x, rfl, blocked⟩ := Attempt.ofReply_eq_mustWait said
  obtain ⟨slow, timedOut⟩ := timedOut_of_mayRetry run
  have whole := reached.trans reaches
  rw [← List.append_assoc] at whole
  rw [← List.append_assoc, ← List.append_assoc]
  exact .late slow (fails x) blocked whole waited timedOut

/-! ## Reads -/

/-- **What is ensured of an attempt is ensured of the read toward a need that makes it**, for the
need or for as much as the buffer holds, whichever is more.  Its outcome is of the same kind. -/
theorem readToward_ensures_of_read {c : Channel} {need : Nat} {s : System κ}
    {attempts : Dialogue → Attempt Bytes → System κ → Prop}
    {halts : Dialogue → Halt → System κ → Prop}
    (reads : ∀ j, (Descriptor.read c.fd (max need c.input.capacity)).Ensures
      { s with journal := j } attempts halts)
    (faults : ∀ es message t, halts es (.faulted message none) t) :
    (c.readToward need).Ensures s
      (fun es r s' => ∃ outcome, attempts es outcome s' ∧ outcome.Alike r.1) halts := by
  unfold readToward
  split
  · next large =>
    refine Act.ensures_log _ _ fun j => ?_
    have reads := reads j
    rw [Nat.max_eq_left (Nat.le_of_lt large)] at reads
    refine Act.ensures_bind reads fun es outcome _ _ attempt => ?_
    rw [← List.append_nil es] at attempt
    rcases outcome with bytes | _ | e
    all_goals exact Act.ensures_pure ⟨_, attempt, by constructor⟩
  · next small =>
    refine Act.ensures_check_or (fun slot ready => ?_) fun _ _ => faults _ _ _
    have reads := reads s.journal
    rw [Nat.max_eq_right (Nat.not_lt.1 small), ← ReadAhead.capacity_of_beginRefill ready] at reads
    refine Act.ensures_bind reads fun es outcome _ _ attempt => ?_
    rw [← List.append_nil es] at attempt
    rcases outcome with bytes | _ | e
    · refine Act.ensures_check_or (fun loaded _ => ?_) fun _ _ => faults _ _ _
      refine Act.ensures_check_or (fun taken _ => ?_) fun _ _ => faults _ _ _
      exact Act.ensures_pure ⟨_, attempt, by constructor⟩
    all_goals exact Act.ensures_pure ⟨_, attempt, by constructor⟩

/-- **One read toward a need is one attempt**, and it fails or would block as the attempt does. -/
theorem readToward_asked {c : Channel} (need : Nat) (s : System κ) :
    (c.readToward need).Ensures s
      (fun es r _ => ∃ outcome,
        Attempted (Descriptor.reading c.fd (max need c.input.capacity)) es outcome ∧
        (r.1 = .mustWait → outcome = .mustWait) ∧ ∀ e, r.1 = .failed e → outcome = .failed e)
      (fun _ _ _ => True) := by
  refine (readToward_ensures_of_read (fun j => (Descriptor.read_ensures c.fd _ _).mono
    (fun _ _ _ _ attempt => attempt) fun _ _ _ _ _ => trivial) fun _ _ _ => trivial).mono
    (fun es r _ _ ⟨outcome, attempt, alike⟩ => ⟨outcome, attempt, ?_⟩) fun _ _ _ _ _ => trivial
  obtain ⟨outcome', c'⟩ := r
  cases alike <;> simp

/-- One read toward a need is one attempt, where it does not matter for how much. -/
theorem readToward_attempted {c : Channel} (need : Nat) (s : System κ) :
    (c.readToward need).Ensures s
      (fun es r _ => ∃ len outcome, Attempted (Descriptor.reading c.fd len) es outcome ∧
        (r.1 = .mustWait → outcome = .mustWait) ∧ ∀ e, r.1 = .failed e → outcome = .failed e)
      (fun _ _ _ => True) :=
  (readToward_asked need s).mono (fun _ _ _ _ ⟨outcome, asked⟩ => ⟨_, outcome, asked⟩)
    fun _ _ _ _ _ => trivial

/-- **How a read ends**: complete before the end of the stream was seen, short at the end of the
stream, or cut short. -/
structure EndsReading (c : Channel) (low : Nat) (deadline : Deadline) (s : System κ)
    (es : Dialogue) (r : Reading) (s' : System κ) : Prop where
  complete : low ≤ r.bytes.length → r.error? = none ∧ es.sawEnd = false
  cut : ∀ e, r.error? = some e → c.CutShort .readable deadline s es e s'

section Turn

variable {c₀ c : Channel} {len low high : Nat} {es : Dialogue} {received : Bytes}
  {deadline : Deadline} {s s' : System κ}

/-- **A turn that ends a read** completes it, sees the end or is cut short. -/
theorem readTurn_endsReading (wf : c₀.WellFormed) (marks : low ≤ high) (fits : high ≤ len)
    (reached : s.Reaches es s') (h : c₀.Receiving low high es received c) :
    (readTurn len low high deadline (received, c)).Ensures s'
      (Act.turned (fun _ _ _ => True) (fun es r s' => c₀.EndsReading low deadline s es r.1 s') es)
      (fun _ _ _ => True) := by
  have short (under : received.length < low) (es' : Dialogue) (error? : Option ChannelError)
      (t : System κ)
      (cut : ∀ e, error? = some e → c₀.CutShort .readable deadline s es' e t) :
      c₀.EndsReading low deadline s es' ⟨received, error?⟩ t :=
    ⟨fun enough => absurd enough (Nat.not_le.2 under), cut⟩
  refine readTurn_ensures_of_attempt wf marks fits h (fun _ => (readToward_attempted _ s').mono
    (fun _ _ _ _ h => h) fun _ _ _ _ _ => trivial) (fun _ => ⟨fun _ => ⟨rfl, h.sawEnd⟩, nofun⟩)
    (fun es' c' t under _ _ => short under _ none t nofun) (fun _ _ _ _ _ _ _ _ => trivial)
    (fun es' e c' t under toward ⟨size, outcome, attempt, _, failed⟩ => ?_)
    fun es' c' s₂ reaches under toward ⟨size, outcome, attempt, blocked, _⟩ => ?_
  all_goals
    have same := h.reread.trans toward.reread
    have fails (x : Errno) :
        (Descriptor.reading c.fd size (.error x)).FailsWith c'.fd x .readable := by
      rw [toward.reread.fd]
      exact .read size
  · obtain rfl := failed e rfl
    refine short under _ (some _) t fun e' is => ?_
    rw [← Option.some.inj is]
    exact (cutShort_of_failed fails attempt _).congr same.fd same.kind same.waiter
  · obtain rfl := blocked rfl
    refine (mayRetry_ensures ⟨toward.reread.wellFormed, same.output ▸ wf.output⟩ .readable deadline
      s₂).ran.mono (fun waits goOn t waited ⟨run, _⟩ => ⟨fun _ => trivial, fun ends => ?_⟩)
      fun _ _ _ _ _ => trivial
    subst ends
    refine short under _ (some _) t fun e is => ?_
    rw [← Option.some.inj is]
    exact (cutShort_of_late fails attempt reached reaches waited run _).congr same.fd same.kind
      same.waiter

end Turn

variable {c : Channel} {len low high : Nat}

/-- **How a read ends.** -/
theorem receive_endsReading (wf : c.WellFormed) (marks : low ≤ high) (fits : high ≤ len)
    (deadline : Deadline) (s : System κ) :
    (c.receive len low high deadline).Ensures s
      (fun es r s' => c.EndsReading low deadline s es r.1 s') (fun _ _ _ => True) := by
  refine receive_ensures_of_turns wf marks fits (fun _ _ _ => True) (fun _ _ _ => trivial)
    (fun _ _ start _ => ⟨fun _ => ⟨rfl, start.sawEnd⟩, nofun⟩) fun es x s' reached h _ => ?_
  exact readTurn_endsReading wf marks fits reached h

/-! ## Writes -/

/-- **A turn that ends sending** without having sent everything is cut short. -/
theorem sendTurn_cutShort (wf : c.WellFormed) (data : Bytes) {deadline : Deadline} {sent : Nat}
    {es : Dialogue} {s s' : System κ} (reached : s.Reaches es s') :
    (c.sendTurn data deadline sent).Ensures s'
      (Act.turned (fun _ _ _ => True)
        (fun es r s' => ∀ e, r.2 = some e → c.CutShort .writable deadline s es e s') es)
      (fun _ _ _ => True) := by
  have fails (x : Errno) : (Descriptor.writing c.fd (data.drop sent) (.error x)).FailsWith c.fd x
      .writable := .write _
  refine sendTurn_ensures_of_attempt (fun _ => (Descriptor.write_ensures c.fd (data.drop sent)
    s').mono (fun _ _ _ _ h => h) fun _ _ _ _ _ => trivial) (fun _ => nofun)
    (fun _ _ _ _ _ _ => trivial) (fun es' e s₂ _ attempt _ e' is => ?_)
    fun es' s₂ reaches _ attempt _ => ?_
  · rw [← Option.some.inj is]
    exact cutShort_of_failed fails attempt _
  · refine (mayRetry_ensures wf .writable deadline s₂).ran.mono
      (fun waits goOn t waited ⟨run, _⟩ => ⟨fun _ => trivial, fun ends e is => ?_⟩)
      fun _ _ _ _ _ => trivial
    subst ends
    rw [← Option.some.inj is]
    exact cutShort_of_late fails attempt reached reaches waited run _

theorem send_cutShort (wf : c.WellFormed) (data : Bytes) (deadline : Deadline) (s : System κ) :
    (c.send data deadline).Ensures s
      (fun es r s' => ∀ e, r.2 = some e → c.CutShort .writable deadline s es e s')
      (fun _ _ _ => True) :=
  Act.ensures_loop (fun _ _ _ => True) trivial
    fun _ _ _ reached _ => sendTurn_cutShort wf data reached

/-- **A flush that fails** was cut short. -/
theorem flush_cutShort (wf : c.WellFormed) (deadline : Deadline) (s : System κ) :
    (c.flush deadline).Ensures s
      (fun es r s' => ∀ e, r.1 = .error e → c.CutShort .writable deadline s es e s')
      (fun _ _ _ => True) := by
  refine flush_ensures_of_send wf (send_cutShort wf c.output.pending deadline s) (fun _ => nofun)
    (fun _ _ _ _ _ _ _ _ _ _ => nofun) fun es n e c' s' _ _ cut _ _ e' is => ?_
  rw [← Except.error.inj is]
  exact cut e rfl

/-- **A write that fails** was cut short, in its flush or in sending. -/
theorem write_cutShort (wf : c.WellFormed) (data : Bytes) (deadline : Deadline) (s : System κ) :
    (c.write data deadline).Ensures s
      (fun es r s' => ∀ e, r.1 = .error e → c.CutShort .writable deadline s es e s')
      (fun _ _ _ => True) := by
  refine write_ensures_of_ways wf (flush_cutShort wf deadline s) (fun _ _ _ _ => nofun)
    (fun es e c' s' _ _ cut e' is => ?_) (fun _ _ _ _ _ _ _ _ _ _ => nofun)
    fun es c₁ s' j reaches _ flushed _ _ => ?_
  · rw [← Except.error.inj is]
    exact (cut e rfl).recount 0
  · have same := flushed.rewritten
    refine (send_cutShort (same.toWellFormed wf) data deadline _).mono
      (fun es' r t _ late e' is => ?_) fun _ _ _ _ _ => trivial
    obtain ⟨sent, _ | e⟩ := r
    · cases is
    · rw [← Except.error.inj is]
      have logged := reaches.trans (Act.reaches_journal s' j)
      rw [List.append_nil] at logged
      exact ((late e rfl).after logged).congr same.fd same.kind same.waiter

end Channel

end BufferedChannels
