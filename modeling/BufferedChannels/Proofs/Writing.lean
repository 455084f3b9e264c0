import BufferedChannels.Channel.Write
import BufferedChannels.Proofs.Attempts

/-!
# Proofs/Writing — what a write sends, and what stays pending

The bytes that the descriptor accepts and those that stay pending are, in this order, the bytes that
were pending and those taken from the caller: `Written` says so of a write and `Flushed` of a flush,
whatever cut them short.  The loop below both sends a **prefix** of its data (`Sending`), so what is
unsent is always a tail.
-/

namespace BufferedChannels

/-! ## Dialogues that write -/

namespace Exchange

/-- Whether a write failed for good. -/
def isFailedWrite : Exchange → Bool
  | ⟨.write .., .error e⟩ => e.recognized ≠ .interrupted && e.recognized ≠ .wouldBlock
  | _ => false

theorem isFailedWrite_of_isSuspension {e : Exchange} (h : e.isSuspension = true) :
    e.isFailedWrite = false := by
  obtain ⟨request, reply⟩ := e
  cases request <;> first | rfl | cases h

theorem isFailedWrite_of_interrupted {fd : Int} {data : Bytes} {e : Errno}
    (h : e.recognized = .interrupted) :
    (Descriptor.writing fd data (.error e)).isFailedWrite = false := by
  simp [Descriptor.writing, isFailedWrite, h]

theorem isFailedWrite_of_wouldBlock {fd : Int} {data : Bytes} {e : Errno}
    (h : e.recognized = .wouldBlock) :
    (Descriptor.writing fd data (.error e)).isFailedWrite = false := by
  simp [Descriptor.writing, isFailedWrite, h]

end Exchange

namespace Dialogue

/-- **Every exchange is a wait or a write** to a channel's descriptor of at least one byte. -/
def Writes (c : Channel) (es : Dialogue) : Prop :=
  ∀ e ∈ es, (c.kind.alwaysReady = false ∧ e.isSuspension = true) ∨
    ∃ data reply, data ≠ [] ∧ e = Descriptor.writing c.fd data reply

variable {c : Channel} {fd : Int} {es es' : Dialogue}

theorem Writes.nil : Writes c [] := List.forall_mem_nil _

theorem Writes.append (h : es.Writes c) (h' : es'.Writes c) : (es ++ es').Writes c :=
  fun e he => (List.mem_append.1 he).elim (h e) (h' e)

theorem Writes.of_waits (h : c.Waits es) : es.Writes c := fun e he => .inl (h e he)

theorem Writes.of_interrupted {data : Bytes} (some : data ≠ [])
    (h : Interrupted (Descriptor.writing c.fd data) es) : es.Writes c := by
  intro e he
  obtain ⟨errno, _, rfl⟩ := h e he
  exact .inr ⟨data, .error errno, some, rfl⟩

/-- Writes have nothing delivered. -/
theorem Writes.delivered (h : es.Writes c) (source : Int) : es.delivered source = [] :=
  delivered_eq_nil fun e he => by
    obtain ⟨_, wait⟩ | ⟨data, reply, _, rfl⟩ := h e he
    · exact Exchange.deliveredOn_of_isStill (Exchange.isStill_of_isSuspension wait)
    · rfl

/-- Interrupted writes have nothing accepted. -/
theorem accepted_of_interrupted {target : Int} {data : Bytes}
    (h : Interrupted (Descriptor.writing target data) es) : es.accepted fd = [] :=
  accepted_eq_nil fun e he => by
    obtain ⟨_, _, rfl⟩ := h e he
    rfl

/-- **No write failed for good**: what errors there are ask for another try, now or after a wait. -/
def Unfailing (es : Dialogue) : Prop := ∀ e ∈ es, e.isFailedWrite = false

theorem Unfailing.nil : Unfailing [] := List.forall_mem_nil _

theorem Unfailing.append (h : es.Unfailing) (h' : es'.Unfailing) : (es ++ es').Unfailing :=
  fun e he => (List.mem_append.1 he).elim (h e) (h' e)

theorem Unfailing.of_waits (h : c.Waits es) : es.Unfailing :=
  fun e he => Exchange.isFailedWrite_of_isSuspension (h e he).2

theorem Unfailing.of_interrupted {data : Bytes} (h : Interrupted (Descriptor.writing fd data) es) :
    es.Unfailing := by
  intro e he
  obtain ⟨errno, hi, rfl⟩ := h e he
  exact Exchange.isFailedWrite_of_interrupted hi

end Dialogue

namespace Attempt

/-- The number of bytes that an attempt sent. -/
def count : Attempt Nat → Nat
  | .moved n => n
  | _ => 0

end Attempt

section AttemptedWrite

variable {fd : Int} {data : Bytes} {es : Dialogue} {outcome : Attempt Nat}

theorem Attempted.writes {c : Channel} (h : Attempted (Descriptor.writing c.fd data) es outcome)
    (some : data ≠ []) : es.Writes c := by
  obtain ⟨before, reply, idle, rfl, _⟩ := h
  exact (Dialogue.Writes.of_interrupted some idle).append fun e he =>
    .inr ⟨data, reply, some, List.mem_singleton.1 he⟩

/-- **An attempt has a prefix accepted.** -/
theorem Attempted.accepted (h : Attempted (Descriptor.writing fd data) es outcome) :
    es.accepted fd = data.take outcome.count := by
  obtain ⟨before, reply, idle, rfl, hr⟩ := h
  have last : Exchange.acceptedOn fd (Descriptor.writing fd data reply) =
      data.take outcome.count := by
    rcases outcome with n | _ | e
    · rw [Attempt.ofReply_eq_moved hr]
      exact Exchange.acceptedOn_write_ok fd data n
    · obtain ⟨e, rfl, _⟩ := Attempt.ofReply_eq_mustWait hr
      exact List.take_zero.symm
    · obtain ⟨e, rfl, _⟩ := Attempt.ofReply_eq_failed hr
      exact List.take_zero.symm
  rw [Dialogue.accepted_append, Dialogue.accepted_of_interrupted idle, Dialogue.accepted_cons, last,
    Dialogue.accepted_nil, List.append_nil, List.nil_append]

/-- Only a failed attempt has a write that failed. -/
theorem Attempted.unfailing (h : Attempted (Descriptor.writing fd data) es outcome)
    (fine : ∀ e, outcome ≠ .failed e) : es.Unfailing := by
  obtain ⟨before, reply, idle, rfl, hr⟩ := h
  refine (Dialogue.Unfailing.of_interrupted idle).append fun e he => ?_
  rw [List.mem_singleton.1 he]
  rcases outcome with n | _ | e
  · rw [Attempt.ofReply_eq_moved hr]
    rfl
  · obtain ⟨e, rfl, hw⟩ := Attempt.ofReply_eq_mustWait hr
    exact Exchange.isFailedWrite_of_wouldBlock hw
  · exact absurd rfl (fine e)

/-- A moderate attempt sends at most what it was given. -/
theorem Attempted.count_le (h : Attempted (Descriptor.writing fd data) es outcome)
    (moderate : es.Moderate) : outcome.count ≤ data.length := by
  rcases outcome with n | _ | e
  · exact moderate _ h.mem
  · exact Nat.zero_le _
  · exact Nat.zero_le _

end AttemptedWrite

/-! ## Sending -/

namespace Channel

/-- **The invariant of sending**: what was accepted is the prefix that counts as sent. -/
structure Sending (c : Channel) (data : Bytes) (es : Dialogue) (sent : Nat) : Prop where
  writes : es.Writes c
  accepted : es.accepted c.fd = data.take sent
  le : es.Moderate → sent ≤ data.length

/-- **What sending comes to**: everything was sent, or a failure counts what was. -/
structure Sent (c : Channel) (data : Bytes) (es : Dialogue) (r : Nat × Option ChannelError) : Prop
    extends c.Sending data es r.1 where
  all : r.2 = none → data.length ≤ r.1 ∧ es.Unfailing
  failed : ∀ e, r.2 = some e → r.1 < data.length ∧ e.transferred = r.1

/-- **What is left of a write that halts**: unless the host took too much, no more than `most` bytes
were accepted. -/
def HaltsWriting {κ : Type} (c : Channel) (most : Nat) (es : Dialogue) (h : Halt) (s : System κ) :
    Prop :=
  c.MayHalt es h s ∧ es.Writes c ∧ es.Unfailing ∧
    (es.Moderate → (es.accepted c.fd).length ≤ most)

variable {c : Channel} {data : Bytes} {es es' : Dialogue} {sent : Nat}

/-- **An attempt sends more of the prefix.** -/
theorem Sending.attempt (h : c.Sending data es sent) (before : sent < data.length)
    {outcome : Attempt Nat}
    (attempt : Attempted (Descriptor.writing c.fd (data.drop sent)) es' outcome) :
    c.Sending data (es ++ es') (sent + outcome.count) where
  writes := h.writes.append (attempt.writes (mt List.drop_eq_nil_iff.1 (Nat.not_le.2 before)))
  accepted := by
    rw [Dialogue.accepted_append, h.accepted, attempt.accepted, List.take_add]
  le := by
    intro moderate
    have more : outcome.count ≤ (data.drop sent).length := attempt.count_le moderate.right
    rw [List.length_drop] at more
    omega

/-- Waiting sends nothing. -/
theorem Sending.suspended (h : c.Sending data es sent) (waits : c.Waits es') :
    c.Sending data (es ++ es') sent where
  writes := h.writes.append (.of_waits waits)
  accepted := by
    rw [Dialogue.accepted_append, Dialogue.accepted_of_still waits.still, List.append_nil,
      h.accepted]
  le := fun moderate => h.le moderate.left

/-- A halt has sent no more than the data. -/
theorem Sending.halts {κ : Type} (h : c.Sending data es sent) (fine : es.Unfailing) {halt : Halt}
    {s : System κ} (mayHalt : c.MayHalt es halt s) : c.HaltsWriting data.length es halt s :=
  ⟨mayHalt, h.writes, fine, fun _ => by
    rw [h.accepted]
    exact List.length_take_le' sent data⟩

/-- Sending that is cut short counts what was sent. -/
theorem Sending.cut (h : c.Sending data es sent) (before : sent < data.length) {e : ChannelError}
    (count : e.transferred = sent) : c.Sent data es (sent, some e) where
  toSending := h
  all := fun no => nomatch no
  failed := fun _ he => Option.some.inj he ▸ ⟨before, count⟩

variable {κ : Type} [Host κ]

/-- **The ways of a turn of sending**: all was sent before, or an attempt at what is left moves some
of it, fails or has to wait. -/
theorem sendTurn_ensures_of_attempt {deadline : Deadline} {s : System κ}
    {attempts : Dialogue → Attempt Nat → System κ → Prop} {inv : Dialogue → Nat → System κ → Prop}
    {returns : Dialogue → Nat × Option ChannelError → System κ → Prop}
    {halts : Dialogue → Halt → System κ → Prop}
    (attempt : sent < data.length →
      (Descriptor.write c.fd (data.drop sent)).Ensures s attempts halts)
    (all : data.length ≤ sent → returns es (sent, none) s)
    (moved : ∀ es' n s', sent < data.length →
      Attempted (Descriptor.writing c.fd (data.drop sent)) es' (.moved n) →
        attempts es' (.moved n) s' → inv (es ++ es') (sent + n) s')
    (failed : ∀ es' e s', sent < data.length →
      Attempted (Descriptor.writing c.fd (data.drop sent)) es' (.failed e) →
        attempts es' (.failed e) s' → returns (es ++ es') (sent, some (.os e sent)) s')
    (wait : ∀ es' s', s.Reaches es' s' → sent < data.length →
      Attempted (Descriptor.writing c.fd (data.drop sent)) es' .mustWait →
      attempts es' .mustWait s' → (c.mayRetry .writable deadline).Ensures s'
        (fun ws goOn t => (goOn = true → inv (es ++ (es' ++ ws)) sent t) ∧
          (goOn = false → returns (es ++ (es' ++ ws)) (sent, some (.timedOut sent)) t))
        (fun ws h t => halts (es' ++ ws) h t)) :
    (c.sendTurn data deadline sent).Ensures s (Act.turned inv returns es) halts := by
  unfold sendTurn
  split
  · next done =>
    refine Act.ensures_pure ?_
    show returns (es ++ []) (sent, none) s
    rw [List.append_nil]
    exact all done
  · next under =>
    have before : sent < data.length := Nat.lt_of_not_le under
    refine Act.ensures_check (if_pos (Nat.le_of_lt before)) ?_
    refine Act.ensures_bind (((attempt before).and (Descriptor.write_ensures c.fd (data.drop sent)
      s)).mono (fun _ _ _ _ h => h) fun _ _ _ _ halts => halts.1)
      fun es' outcome s' reaches ⟨kept, attempted⟩ => ?_
    rcases outcome with n | _ | e
    · refine Act.ensures_pure ?_
      rw [List.append_nil]
      exact ⟨attempted.ne_nil, moved es' n s' before attempted kept⟩
    · refine Act.ensures_bind (wait es' s' reaches before attempted kept)
        fun ws goOn t _ waited => ?_
      rcases goOn with _ | _
      all_goals
        refine Act.ensures_pure ?_
        rw [List.append_nil]
      · exact waited.2 rfl
      · exact ⟨List.append_ne_nil_of_left_ne_nil attempted.ne_nil _, waited.1 rfl⟩
    · refine Act.ensures_pure ?_
      rw [List.append_nil]
      exact failed es' e s' before attempted kept

/-- **One turn of sending** keeps the invariant or ends the sending. -/
theorem sendTurn_ensures (wf : c.WellFormed) (deadline : Deadline) (h : c.Sending data es sent)
    (fine : es.Unfailing) (s : System κ) :
    (c.sendTurn data deadline sent).Ensures s
      (Act.turned (fun es n _ => c.Sending data es n ∧ es.Unfailing)
        (fun es r _ => c.Sent data es r) es)
      (fun es' halt s' => c.HaltsWriting data.length (es ++ es') halt s') := by
  have writes (before : sent < data.length) : (Descriptor.write c.fd (data.drop sent)).Ensures s
      (fun _ _ _ => True) (fun es' halt s' => c.HaltsWriting data.length (es ++ es') halt s') := by
    refine (Descriptor.write_ensures c.fd (data.drop sent) s).mono (fun _ _ _ _ _ => trivial)
      fun es' halt s' _ ⟨idle, spent⟩ => ?_
    obtain ⟨rfl, hb⟩ := spent
    have some : data.drop sent ≠ [] := mt List.drop_eq_nil_iff.1 (Nat.not_le.2 before)
    have same : c.Sending data (es ++ es') sent :=
      ⟨h.writes.append (.of_interrupted some idle), by
        rw [Dialogue.accepted_append, Dialogue.accepted_of_interrupted idle, List.append_nil,
          h.accepted], fun moderate => h.le moderate.left⟩
    exact same.halts (fine.append (.of_interrupted idle)) (.spent hb)
  refine sendTurn_ensures_of_attempt writes (fun all => ⟨h, fun _ => ⟨all, fine⟩, nofun⟩)
    (fun es' n s' before attempt _ => ⟨h.attempt before attempt,
      fine.append (attempt.unfailing nofun)⟩)
    (fun es' e s' before attempt _ => (h.attempt before attempt).cut before rfl)
    fun es' s' _ before attempt _ => ?_
  have next := h.attempt before attempt
  have still : (es ++ es').Unfailing := fine.append (attempt.unfailing nofun)
  refine (mayRetry_ensures wf .writable deadline s').mono (fun ws goOn t _ waits => ?_)
    fun ws halt t _ halts => ?_
  all_goals rw [← List.append_assoc]
  · have after := next.suspended waits.1
    exact ⟨fun _ => ⟨after, still.append (.of_waits waits.1)⟩, fun _ => after.cut before rfl⟩
  · exact (next.suspended halts.1).halts (still.append (.of_waits halts.1)) halts.2.append_left

/-- **Sending sends a prefix**, and all of the data unless it fails. -/
theorem send_ensures (wf : c.WellFormed) (data : Bytes) (deadline : Deadline) (s : System κ) :
    (c.send data deadline).Ensures s (fun es r _ => c.Sent data es r)
      (fun es h s' => c.HaltsWriting data.length es h s') :=
  Act.ensures_loop (fun es sent _ => c.Sending data es sent ∧ es.Unfailing)
    ⟨⟨.nil, List.take_zero.symm, fun _ => Nat.zero_le _⟩, .nil⟩
    fun _ _ s' _ h => sendTurn_ensures wf deadline h.1 h.2 s'

/-! ## Flushing -/

/-- **A channel of which only the writing side changed**, with the rule of its buffer kept. -/
structure Rewritten (c c' : Channel) : Prop where
  same : c' = { c with output := c'.output }
  wellFormed : c'.output.WellFormed
  capacity : c'.output.capacity = c.output.capacity

namespace Rewritten

variable {c c' c'' : Channel}

theorem refl (wf : c.output.WellFormed) : c.Rewritten c := ⟨rfl, wf, rfl⟩

theorem fd (h : c.Rewritten c') : c'.fd = c.fd := by rw [h.same]

theorem kind (h : c.Rewritten c') : c'.kind = c.kind := by rw [h.same]

theorem input (h : c.Rewritten c') : c'.input = c.input := by rw [h.same]

theorem waiter (h : c.Rewritten c') : c'.waiter = c.waiter := by rw [h.same]

/-- What writes to the one writes to the other. -/
theorem writes {es : Dialogue} (h : c.Rewritten c') (writes : es.Writes c') : es.Writes c := by
  unfold Dialogue.Writes
  rw [← h.fd, ← h.kind]
  exact writes

theorem trans (h : c.Rewritten c') (h' : c'.Rewritten c'') : c.Rewritten c'' where
  same := by rw [h'.same, h.same]
  wellFormed := h'.wellFormed
  capacity := h'.capacity.trans h.capacity

/-- The other buffer keeps its rules as well. -/
theorem toWellFormed (h : c.Rewritten c') (wf : c.WellFormed) : c'.WellFormed :=
  ⟨h.input ▸ wf.input, h.wellFormed⟩

end Rewritten

/-- **What a flush comes to**: the bytes accepted and those still pending are those that were
pending, and a failure counts the bytes accepted. -/
structure Flushed (c : Channel) (es : Dialogue) (result : Except ChannelError Unit)
    (c' : Channel) : Prop where
  rewritten : c.Rewritten c'
  writes : es.Writes c
  conserved : es.accepted c.fd ++ c'.output.pending = c.output.pending
  idle : c.output.pending = [] → es = []
  done : result = .ok () → c'.output.pending = [] ∧ es.Unfailing
  failed : ∀ e, result = .error e →
    c'.output.pending ≠ [] ∧ e.transferred = (es.accepted c.fd).length

/-- **The ways of a flush**: with nothing pending there is nothing to do, and else what is pending
is sent, of which a tail stays pending if that fails. -/
theorem flush_ensures_of_send (wf : c.WellFormed) {deadline : Deadline} {s : System κ}
    {sends : Dialogue → Nat × Option ChannelError → System κ → Prop}
    {returns : Dialogue → Except ChannelError Unit × Channel → System κ → Prop}
    {halts : Dialogue → Halt → System κ → Prop}
    (send : (c.send c.output.pending deadline).Ensures s sends halts)
    (idle : c.output.pending = [] → returns [] (.ok (), c) s)
    (all : ∀ es n c' s' j, c.output.pending ≠ [] → c.Sent c.output.pending es (n, none) →
      sends es (n, none) s' → c.Rewritten c' → c'.output.pending = [] →
        returns es (.ok (), c') { s' with journal := j })
    (cut : ∀ es n e c' s', c.output.pending ≠ [] → c.Sent c.output.pending es (n, some e) →
      sends es (n, some e) s' → c.Rewritten c' → c'.output.pending = c.output.pending.drop n →
        returns es (.error e, c') s') :
    (c.flush deadline).Ensures s returns halts := by
  have pending : c.output.pending.length = c.output.len := WriteBehind.length_pending wf.output
  unfold flush
  split
  · next empty =>
    refine Act.ensures_pure (idle ?_)
    rw [← List.length_eq_zero_iff, pending]
    exact beq_iff_eq.1 empty
  · next busy =>
    have some : c.output.pending ≠ [] := by
      rw [ne_eq, ← List.length_eq_zero_iff, pending]
      exact fun none => busy (beq_iff_eq.2 none)
    refine Act.ensures_bind ((send.and (send_ensures wf c.output.pending deadline s)).mono
      (fun _ _ _ _ h => h) fun _ _ _ _ halts => halts.1) fun es r s' _ ⟨sends, sent⟩ => ?_
    obtain ⟨n, _ | e⟩ := r
    · refine Act.ensures_log _ _ fun j => Act.ensures_pure ?_
      rw [List.append_nil]
      exact all es n _ s' j some sent sends ⟨rfl, WriteBehind.wellFormed_clear _, rfl⟩ rfl
    · have before : n < c.output.pending.length := (sent.failed e rfl).1
      obtain ⟨rest, dropped, tail, capacity, rwf⟩ :=
        WriteBehind.dropSent_eq wf.output (n := n) (by omega)
      refine Act.ensures_check dropped (Act.ensures_pure ?_)
      rw [List.append_nil]
      exact cut es n e _ s' some sent sends ⟨rfl, rwf, capacity⟩ tail

/-- **A flush conserves the output.** -/
theorem flush_ensures (wf : c.WellFormed) (deadline : Deadline) (s : System κ) :
    (c.flush deadline).Ensures s (fun es r _ => c.Flushed es r.1 r.2)
      (fun es h s' => c.HaltsWriting c.output.pending.length es h s') := by
  refine flush_ensures_of_send wf (send_ensures wf c.output.pending deadline s)
    (fun none => ⟨.refl wf.output, .nil, rfl, fun _ => rfl, fun _ => ⟨none, .nil⟩, nofun⟩)
    (fun es n c' s' j some sent _ rewritten none => ⟨rewritten, sent.writes, ?_,
      fun none => absurd none some, fun _ => ⟨none, (sent.all rfl).2⟩, nofun⟩)
    fun es n e c' s' some sent _ rewritten tail => ⟨rewritten, sent.writes, ?_,
      fun none => absurd none some, nofun, fun e' is => ?_⟩
  · rw [sent.accepted, none, List.append_nil, List.take_of_length_le (sent.all rfl).1]
  · rw [sent.accepted, tail, List.take_append_drop]
  · obtain rfl := Except.error.inj is
    obtain ⟨before, transferred⟩ := sent.failed e rfl
    dsimp only at before transferred
    refine ⟨?_, ?_⟩
    · rw [tail, ne_eq, List.drop_eq_nil_iff]
      exact Nat.not_le.2 before
    · rw [transferred, sent.accepted, List.length_take]
      exact (Nat.min_eq_left (Nat.le_of_lt before)).symm

/-! ## Writing -/

/-- **The part of the data that a write took**: all of it, or what its failure counts. -/
def takenBy (data : Bytes) : Except ChannelError Nat → Bytes
  | .ok _ => data
  | .error e => data.take e.transferred

/-- **What a write comes to**: the bytes accepted and those pending are those that were pending and
those taken. -/
structure Written (c : Channel) (data : Bytes) (es : Dialogue) (result : Except ChannelError Nat)
    (c' : Channel) : Prop where
  rewritten : c.Rewritten c'
  writes : es.Writes c
  conserved : es.accepted c.fd ++ c'.output.pending = c.output.pending ++ takenBy data result
  counted : es.Moderate → ∀ n, result = .ok n → n = data.length

/-- Data that fits is collected without a word. -/
theorem collect_ensures {c : Channel} (wf : c.WellFormed) {data : Bytes}
    (room : c.output.hasRoom data.length = true) (s : System κ) :
    (c.collect data).Ensures s
      (fun es r s' => es = [] ∧ s' = s ∧ r.1 = .ok data.length ∧ c.Rewritten r.2 ∧
        r.2.output.pending = c.output.pending ++ data) (fun _ _ _ => False) := by
  obtain ⟨more, appended, pending, capacity, mwf⟩ := WriteBehind.append_eq wf.output room
  exact Act.ensures_check appended
    (Act.ensures_pure ⟨rfl, rfl, rfl, ⟨rfl, mwf, capacity⟩, pending⟩)

/-- **The ways of a write**: data that fits is collected; all other data waits for a flush, and is
collected or sent after it. -/
theorem write_ensures_of_ways {c : Channel} (wf : c.WellFormed) {data : Bytes} {deadline : Deadline}
    {s : System κ} {flushes : Dialogue → Except ChannelError Unit × Channel → System κ → Prop}
    {returns : Dialogue → Except ChannelError Nat × Channel → System κ → Prop}
    {halts : Dialogue → Halt → System κ → Prop}
    (flush : (c.flush deadline).Ensures s flushes halts)
    (together : ∀ c', c.output.hasRoom data.length = true → c.Rewritten c' →
      c'.output.pending = c.output.pending ++ data → returns [] (.ok data.length, c') s)
    (failed : ∀ es e c' s', ¬ c.output.hasRoom data.length = true → c.Flushed es (.error e) c' →
      flushes es (.error e, c') s' → returns es (.error (e.recount 0), c') s')
    (alone : ∀ es c₁ c' s', ¬ c.output.hasRoom data.length = true → c.Flushed es (.ok ()) c₁ →
      flushes es (.ok (), c₁) s' → c₁.output.hasRoom data.length = true → c₁.Rewritten c' →
        c'.output.pending = c₁.output.pending ++ data → returns es (.ok data.length, c') s')
    (direct : ∀ es c₁ s' j, s.Reaches es s' → ¬ c.output.hasRoom data.length = true →
      c.Flushed es (.ok ()) c₁ → flushes es (.ok (), c₁) s' →
      ¬ c₁.output.hasRoom data.length = true →
        (c₁.send data deadline).Ensures { s' with journal := j }
          (fun es' r t => returns (es ++ es') (r.2.elim (.ok r.1) .error, c₁) t)
          (fun es' h t => halts (es ++ es') h t)) :
    (c.write data deadline).Ensures s returns halts := by
  unfold write
  split
  · next room =>
    refine (collect_ensures wf room s).mono (fun es r s' _ ⟨silent, same, fine, rewritten, more⟩ =>
      ?_) fun _ _ _ _ no => no.elim
    obtain ⟨result, c'⟩ := r
    subst silent same fine
    exact together c' room rewritten more
  · next full =>
    refine Act.ensures_bind ((flush.and (flush_ensures wf deadline s)).mono (fun _ _ _ _ h => h)
      fun _ _ _ _ halts => halts.1) fun es r s₁ reaches ⟨flushes, flushed⟩ => ?_
    obtain ⟨e | _, c₁⟩ := r
    · refine Act.ensures_pure ?_
      rw [List.append_nil]
      exact failed es e c₁ s₁ full flushed flushes
    · dsimp only
      split
      · next room =>
        refine (collect_ensures (flushed.rewritten.toWellFormed wf) room s₁).mono
          (fun es' r s' _ ⟨silent, same, fine, rewritten, more⟩ => ?_) fun _ _ _ _ no => no.elim
        obtain ⟨result, c'⟩ := r
        subst silent same fine
        rw [List.append_nil]
        exact alone es c₁ c' s' full flushed flushes room rewritten more
      · next large =>
        refine Act.ensures_log _ _ fun j => ?_
        refine Act.ensures_bind (direct es c₁ s₁ j reaches full flushed flushes large)
          fun es' r t _ sent => ?_
        obtain ⟨n, _ | e⟩ := r
        all_goals
          refine Act.ensures_pure ?_
          rw [List.append_nil]
          exact sent

section Then

variable {c c' c'' : Channel} {data : Bytes} {es es' : Dialogue}

/-- What was collected is written. -/
theorem Rewritten.written (h : c.Rewritten c')
    (more : c'.output.pending = c.output.pending ++ data) :
    c.Written data [] (.ok data.length) c' :=
  ⟨h, .nil, more, fun _ _ is => (Except.ok.inj is).symm⟩

/-- What a flush sent comes before what a write sends after it. -/
theorem Flushed.thenWritten (h : c.Flushed es (.ok ()) c') {result : Except ChannelError Nat}
    (h' : c'.Written data es' result c'') : c.Written data (es ++ es') result c'' where
  rewritten := h.rewritten.trans h'.rewritten
  writes := h.writes.append (h.rewritten.writes h'.writes)
  conserved := by
    have sent := h.conserved
    have taken := h'.conserved
    rw [(h.done rfl).1, List.append_nil] at sent
    rw [(h.done rfl).1, List.nil_append, h.rewritten.fd] at taken
    rw [Dialogue.accepted_append, List.append_assoc, taken, sent]
  counted := fun moderate => h'.counted moderate.right

/-- A write that is cut short before it took anything. -/
theorem Flushed.writtenOfFailed {e : ChannelError} (h : c.Flushed es (.error e) c') :
    c.Written data es (.error (e.recount 0)) c' where
  rewritten := h.rewritten
  writes := h.writes
  conserved := by
    rw [h.conserved, takenBy, ChannelError.transferred_recount_zero, List.take_zero,
      List.append_nil]
  counted := fun _ _ no => nomatch no

/-- **Data sent past an empty buffer** is written. -/
theorem Sent.written (wf : c.WellFormed) (none : c.output.pending = []) {sent : Nat}
    {error? : Option ChannelError} (h : c.Sent data es (sent, error?)) :
    c.Written data es (error?.elim (.ok sent) .error) c where
  rewritten := .refl wf.output
  writes := h.writes
  conserved := by
    rw [h.accepted, none, List.append_nil, List.nil_append]
    rcases error? with _ | e
    · exact List.take_of_length_le (h.all rfl).1
    · exact congrArg data.take (h.failed e rfl).2.symm
  counted := by
    intro moderate n hn
    rcases error? with _ | e
    · have le : sent ≤ data.length := h.le moderate
      have all : data.length ≤ sent := (h.all rfl).1
      have same : sent = n := Except.ok.inj hn
      omega
    · cases hn

/-- What sending leaves after a flush, when it halts. -/
theorem Flushed.haltsWriting (h : c.Flushed es (.ok ()) c') {κ : Type} {halt : Halt} {s : System κ}
    (halts : c'.HaltsWriting data.length es' halt s) :
    c.HaltsWriting (c.output.pending.length + data.length) (es ++ es') halt s := by
  obtain ⟨mayHalt, writes, fine, few⟩ := halts
  refine ⟨mayHalt.append_left.congr h.rewritten.fd.symm h.rewritten.kind.symm
    h.rewritten.waiter.symm, h.writes.append (h.rewritten.writes writes),
    (h.done rfl).2.append fine, fun moderate => ?_⟩
  have sent := h.conserved
  rw [(h.done rfl).1, List.append_nil] at sent
  have le := few moderate.right
  rw [h.rewritten.fd] at le
  rw [Dialogue.accepted_append, sent, List.length_append]
  omega

end Then

/-- **A write conserves the output**, on each of its ways: collecting, collecting after a flush, and
sending after a flush. -/
theorem write_ensures {c : Channel} (wf : c.WellFormed) (data : Bytes) (deadline : Deadline)
    (s : System κ) :
    (c.write data deadline).Ensures s (fun es r _ => c.Written data es r.1 r.2)
      (fun es h s' => c.HaltsWriting (c.output.pending.length + data.length) es h s') := by
  refine write_ensures_of_ways wf ((flush_ensures wf deadline s).mono (fun _ _ _ _ h => h)
    fun _ _ _ _ ⟨mayHalt, writes, fine, few⟩ => ⟨mayHalt, writes, fine, fun moderate =>
      Nat.le_add_right_of_le (few moderate)⟩) (fun c' _ rewritten more => rewritten.written more)
    (fun es e c' s' _ flushed _ => flushed.writtenOfFailed) (fun es c₁ c' s' _ flushed _ _ rewritten
      more => ?_) fun es c₁ s' j _ _ flushed _ _ => ?_
  · have written := flushed.thenWritten (rewritten.written more)
    rw [List.append_nil] at written
    exact written
  · have wf' := flushed.rewritten.toWellFormed wf
    exact (send_ensures wf' data deadline _).mono (fun _ _ _ _ sent => flushed.thenWritten
      (sent.written wf' (flushed.done rfl).1)) fun _ _ _ _ halts => flushed.haltsWriting halts

end Channel

end BufferedChannels
