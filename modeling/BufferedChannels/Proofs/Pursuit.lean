import BufferedChannels.Proofs.Waited

/-!
# Proofs/Pursuit — failed calls are made again

A call that was interrupted is made again at once, and one that would have had to wait is made again
**after a pause**, unless the pause ends the transfer.  `Pursued` says so of every exchange of a
dialogue, in sight of those that follow.  A transfer that goes on still owes a call: its dialogue so
far is pursued with whatever begins with that call (`Asking`), and once a call succeeded nothing is
owed (`Settled`).
-/

namespace BufferedChannels

/-! ## The last transfer of a dialogue -/

theorem Exchange.FailsWith.failure? {fd : Int} {x : Errno} {direction : Direction} {e : Exchange}
    (h : e.FailsWith fd x direction) : e.failure? = some x := by cases h <;> rfl

theorem Exchange.FailsWith.isStill {fd : Int} {x : Errno} {direction : Direction} {e : Exchange}
    (h : e.FailsWith fd x direction) : e.isStill = false := by cases h <;> rfl

namespace Dialogue

/-- **The last transfer**: the last exchange that is a read or a write. -/
def lastTransfer? (es : Dialogue) : Option Exchange := es.reverse.find? fun e => !e.isStill

/-- **The number with which the last transfer failed**, if it did. -/
def lastFailure? (es : Dialogue) : Option Errno := es.lastTransfer?.bind Exchange.failure?

/-- What came after the last transfer. -/
def afterLast (es : Dialogue) : Dialogue := (es.reverse.takeWhile Exchange.isStill).reverse

variable {es es' : Dialogue} {e : Exchange}

theorem lastTransfer?_append :
    (es ++ es').lastTransfer? = es'.lastTransfer?.or es.lastTransfer? := by
  rw [lastTransfer?, List.reverse_append, List.find?_append]
  rfl

theorem lastTransfer?_of_still (h : ∀ e ∈ es, e.isStill = true) : es.lastTransfer? = none := by
  rw [lastTransfer?, List.find?_eq_none]
  intro e he
  rw [h e (List.mem_reverse.1 he)]
  exact Bool.false_ne_true

/-- **A transfer with nothing but waits after it** is the last. -/
theorem lastFailure?_eq (moves : e.isStill = false) (h : ∀ e ∈ es', e.isStill = true) :
    lastFailure? (es ++ e :: es') = e.failure? := by
  have last : lastTransfer? (e :: es') = some e := by
    rw [← List.singleton_append, lastTransfer?_append, lastTransfer?_of_still h, Option.none_or]
    exact List.find?_cons_of_pos (by rw [moves]; rfl)
  rw [lastFailure?, lastTransfer?_append, last]
  rfl

theorem afterLast_eq (moves : e.isStill = false) (h : ∀ e ∈ es', e.isStill = true) :
    afterLast (es ++ e :: es') = es' := by
  have split : (es ++ e :: es').reverse = es'.reverse ++ e :: es.reverse := by simp
  rw [afterLast, split, List.takeWhile_append_of_pos fun e he => h e (List.mem_reverse.1 he),
    List.takeWhile_cons_of_neg (by rw [moves]; exact Bool.false_ne_true), List.append_nil,
    List.reverse_reverse]

/-- A dialogue whose last transfer did not fail, and another. -/
theorem lastFailure?_append_eq_none (h : es.lastFailure? = none) (h' : es'.lastFailure? = none) :
    (es ++ es').lastFailure? = none := by
  rw [lastFailure?, lastTransfer?_append]
  cases last : es'.lastTransfer? with
  | none => exact h
  | some e =>
    rw [lastFailure?, last] at h'
    exact h'

end Dialogue

/-! ## Dialogues in which failed calls are made again -/

/-- **How a transfer that failed is taken up** by what follows: the same call is made again, next
where it was interrupted, and after a pause where it would have had to wait; there it may also be
the last. -/
structure Exchange.TakenUp (pauses : Dialogue → Prop) (e : Exchange) (after : Dialogue) : Prop where
  interrupted : ∀ x, e.failure? = some x → x.recognized = .interrupted →
    ∃ again rest, after = again :: rest ∧ again.request = e.request
  blocked : ∀ x, e.failure? = some x → x.recognized = .wouldBlock →
    (∀ e' ∈ after, e'.isStill = true) ∨
      ∃ pause again rest, after = pause ++ again :: rest ∧ pauses pause ∧
        again.request = e.request

namespace Exchange.TakenUp

variable {pauses : Dialogue → Prop} {e : Exchange}

/-- An exchange that did not fail, or failed for good, need not be taken up. -/
theorem of_final
    (final : ∀ x, e.failure? = some x → x.recognized ≠ .interrupted ∧ x.recognized ≠ .wouldBlock)
    (after : Dialogue) : e.TakenUp pauses after :=
  ⟨fun x is retried => absurd retried (final x is).1,
    fun x is waits => absurd waits (final x is).2⟩

theorem of_failure_none (none : e.failure? = none) (after : Dialogue) : e.TakenUp pauses after :=
  of_final (fun _ is => nomatch none.symm.trans is) after

end Exchange.TakenUp

namespace Dialogue

variable {pauses : Dialogue → Prop} {es es' tail : Dialogue} {r r' : Request}

/-- **Every transfer that failed is taken up.** -/
def Pursued (pauses : Dialogue → Prop) (es : Dialogue) : Prop :=
  ∀ e after, e :: after <:+ es → e.TakenUp pauses after

/-- A dialogue that begins with a request. -/
def BeginsWith (r : Request) (es : Dialogue) : Prop := ∃ e rest, es = e :: rest ∧ e.request = r

theorem Pursued.nil : Pursued pauses [] := fun _ _ part => by
  cases List.suffix_nil.1 part

theorem pursued_cons {e : Exchange} :
    Pursued pauses (e :: es) ↔ e.TakenUp pauses es ∧ es.Pursued pauses where
  mp h := ⟨h e es List.suffix_rfl,
    fun e' after part => h e' after (part.trans (List.suffix_cons e es))⟩
  mpr := by
    rintro ⟨first, rest⟩ e' after part
    rcases List.suffix_cons_iff.1 part with same | later
    · cases same
      exact first
    · exact rest e' after later

/-- Waits need not be taken up. -/
theorem Pursued.after_still (still : ∀ e ∈ es, e.isStill = true) (h : tail.Pursued pauses) :
    (es ++ tail).Pursued pauses := by
  induction es with
  | nil => exact h
  | cons e es ih =>
    obtain ⟨first, rest⟩ := List.forall_mem_cons.1 still
    exact pursued_cons.2 ⟨.of_failure_none (Exchange.failure?_of_isStill first) _, ih rest⟩

/-- **Nothing is owed**: whatever is pursued may follow, and the last transfer did not fail. -/
structure Settled (pauses : Dialogue → Prop) (es : Dialogue) : Prop where
  pursued : ∀ tail, tail.Pursued pauses → (es ++ tail).Pursued pauses
  fine : es.lastFailure? = none

/-- **A call is owed**: a dialogue that begins with it may follow. -/
def Asking (pauses : Dialogue → Prop) (r : Request) (es : Dialogue) : Prop :=
  ∀ tail, tail.BeginsWith r → tail.Pursued pauses → (es ++ tail).Pursued pauses

theorem Settled.nil : Settled pauses [] := ⟨fun _ h => h, rfl⟩

theorem Settled.append (h : es.Settled pauses) (h' : es'.Settled pauses) :
    (es ++ es').Settled pauses where
  pursued tail after := by
    rw [List.append_assoc]
    exact h.pursued _ (h'.pursued tail after)
  fine := lastFailure?_append_eq_none h.fine h'.fine

theorem Settled.asking (h : es.Settled pauses) (r : Request) : es.Asking pauses r :=
  fun tail _ => h.pursued tail

/-- **How a transfer leaves its dialogue**: pursued, and settled unless it fails. -/
structure Concluded (pauses : Dialogue → Prop) (es : Dialogue) (error? : Option ChannelError) :
    Prop where
  pursued : es.Pursued pauses
  settled : error? = none → es.Settled pauses

theorem Settled.concluded (h : es.Settled pauses) (error? : Option ChannelError) :
    es.Concluded pauses error? :=
  ⟨List.append_nil es ▸ h.pursued [] .nil, fun _ => h⟩

/-- What a transfer does after settled exchanges concludes them as well. -/
theorem Settled.andThen (h : es.Settled pauses) {error? : Option ChannelError}
    (h' : es'.Concluded pauses error?) : (es ++ es').Concluded pauses error? :=
  ⟨h.pursued es' h'.pursued, fun fine => h.append (h'.settled fine)⟩

end Dialogue

/-! ## Attempts -/

/-- **Replies to one transfer**: `exchange` is the same request with each of them. -/
structure Transfers {α : Type} (exchange : Except Errno α → Exchange) (r : Request) : Prop where
  request : ∀ reply, (exchange reply).request = r
  moves : ∀ reply, (exchange reply).isStill = false
  ok : ∀ a, (exchange (.ok a)).failure? = none
  error : ∀ x, (exchange (.error x)).failure? = some x

theorem Descriptor.transfers_reading (fd : Int) (len : Nat) :
    Transfers (reading fd len) (.read fd len) :=
  ⟨fun _ => rfl, fun _ => rfl, fun _ => rfl, fun _ => rfl⟩

theorem Descriptor.transfers_writing (fd : Int) (data : Bytes) :
    Transfers (writing fd data) (.write fd data) :=
  ⟨fun _ => rfl, fun _ => rfl, fun _ => rfl, fun _ => rfl⟩

section Attempts

variable {α : Type} {exchange : Except Errno α → Exchange} {r : Request} {pauses : Dialogue → Prop}
  {es es' tail : Dialogue}

/-- **Interruptions are pursued** by the same request. -/
theorem Interrupted.pursued (same : Transfers exchange r) (h : Interrupted exchange es)
    (begins : tail.BeginsWith r) (pursued : tail.Pursued pauses) :
    (es ++ tail).BeginsWith r ∧ (es ++ tail).Pursued pauses := by
  induction es with
  | nil => exact ⟨begins, pursued⟩
  | cons e es ih =>
    obtain ⟨⟨errno, interrupted, rfl⟩, rest⟩ := List.forall_mem_cons.1 h
    obtain ⟨⟨again, after, is, asks⟩, pursued⟩ := ih rest
    refine ⟨⟨_, _, rfl, same.request _⟩, Dialogue.pursued_cons.2 ⟨⟨fun _ _ _ => ?_, ?_⟩, pursued⟩⟩
    · exact ⟨again, after, is, asks.trans (same.request _).symm⟩
    · intro x failed blocked
      obtain rfl := Option.some.inj ((same.error errno).symm.trans failed)
      exact nomatch interrupted.symm.trans blocked

/-- **An attempt is pursued** where the reply that counts is taken up. -/
theorem Attempted.pursued (same : Transfers exchange r) {outcome : Attempt α}
    (h : Attempted exchange es' outcome) (asking : es.Asking pauses r)
    (takenUp : ∀ reply, Attempt.ofReply reply = .inr outcome →
      (exchange reply).TakenUp pauses tail) (pursued : tail.Pursued pauses) :
    (es ++ (es' ++ tail)).Pursued pauses := by
  obtain ⟨before, reply, interrupted, rfl, counts⟩ := h
  rw [List.append_assoc, List.singleton_append]
  obtain ⟨begins, whole⟩ := interrupted.pursued same ⟨_, _, rfl, same.request reply⟩
    (Dialogue.pursued_cons.2 ⟨takenUp reply counts, pursued⟩)
  exact asking _ begins whole

/-- A call that **succeeded** leaves nothing owed. -/
theorem Attempted.settled (same : Transfers exchange r) {a : α}
    (h : Attempted exchange es' (.moved a)) (asking : es.Asking pauses r) :
    (es ++ es').Settled pauses where
  pursued tail pursued := by
    rw [List.append_assoc]
    refine h.pursued same asking (fun reply counts => ?_) pursued
    rw [Attempt.ofReply_eq_moved counts]
    exact .of_failure_none (same.ok a) tail
  fine := by
    obtain ⟨before, reply, _, rfl, counts⟩ := h
    rw [← List.append_assoc, Dialogue.lastFailure?_eq (same.moves reply) (List.forall_mem_nil _),
      Attempt.ofReply_eq_moved counts]
    exact same.ok a

/-- A call that **failed for good** is not made again. -/
theorem Attempted.pursued_failed (same : Transfers exchange r) {x : Errno}
    (h : Attempted exchange es' (.failed x)) (asking : es.Asking pauses r) :
    (es ++ es').Pursued pauses := by
  rw [← List.append_nil es']
  refine h.pursued same asking (fun reply counts => .of_final (fun y is => ?_) []) .nil
  obtain ⟨e, rfl, rfl, retried, blocked⟩ := Attempt.ofReply_eq_failed counts
  obtain rfl := Option.some.inj ((same.error e).symm.trans is)
  exact ⟨retried, blocked⟩

/-- A call that would have had to wait is **owed again** after a pause. -/
theorem Attempted.asking (same : Transfers exchange r) (h : Attempted exchange es' .mustWait)
    (asking : es.Asking pauses r) {pause : Dialogue} (still : ∀ e ∈ pause, e.isStill = true)
    (paused : pauses pause) : (es ++ (es' ++ pause)).Asking pauses r := by
  rintro _ ⟨again, rest, rfl, asks⟩ pursued
  rw [List.append_assoc, List.append_assoc]
  refine h.pursued same asking (fun reply counts => ⟨fun x is interrupted => ?_, fun _ _ _ => ?_⟩)
    (pursued.after_still still)
  · obtain ⟨e, rfl, blocked⟩ := Attempt.ofReply_eq_mustWait counts
    obtain rfl := Option.some.inj ((same.error e).symm.trans is)
    exact nomatch interrupted.symm.trans blocked
  · exact .inr ⟨pause, again, rest, rfl, paused, asks.trans (same.request reply).symm⟩

/-- Or it is the **last** of its transfer. -/
theorem Attempted.pursued_late (same : Transfers exchange r)
    (h : Attempted exchange es' .mustWait) (asking : es.Asking pauses r) {waits : Dialogue}
    (still : ∀ e ∈ waits, e.isStill = true) : (es ++ (es' ++ waits)).Pursued pauses := by
  refine h.pursued same asking (fun reply counts => ⟨fun x is interrupted => ?_, fun _ _ _ =>
    .inl still⟩) (List.append_nil waits ▸ Dialogue.Pursued.nil.after_still still)
  obtain ⟨e, rfl, blocked⟩ := Attempt.ofReply_eq_mustWait counts
  obtain rfl := Option.some.inj ((same.error e).symm.trans is)
  exact nomatch interrupted.symm.trans blocked

end Attempts

namespace Channel

/-- **The pauses of a channel** that go on: nothing where it is always ready, and else one wait. -/
def PausesFor (c : Channel) (direction : Direction) (deadline : Deadline) (es : Dialogue) : Prop :=
  c.Paused direction deadline es true

variable {c c' : Channel} {direction : Direction} {deadline : Deadline}

theorem Paused.still {es : Dialogue} {goOn : Bool} (h : c.Paused direction deadline es goOn) :
    ∀ e ∈ es, e.isStill = true := by
  cases h with
  | atOnce => exact List.forall_mem_nil _
  | woken _ waited | late _ waited =>
    exact fun e he => Exchange.isStill_of_isSuspension (waited.suspends e he)

/-- Only descriptor, kind and waiter of the channel count. -/
theorem Paused.congr {es : Dialogue} {goOn : Bool} (h : c'.Paused direction deadline es goOn)
    (fd : c'.fd = c.fd) (kind : c'.kind = c.kind) (waiter : c'.waiter = c.waiter) :
    c.Paused direction deadline es goOn := by
  cases h with
  | atOnce ready => exact .atOnce (kind ▸ ready)
  | woken slow waited => exact .woken (kind ▸ slow) (fd ▸ waiter ▸ waited)
  | late slow waited => exact .late (kind ▸ slow) (fd ▸ waiter ▸ waited)

theorem pausesFor_congr (fd : c'.fd = c.fd) (kind : c'.kind = c.kind)
    (waiter : c'.waiter = c.waiter) :
    c'.PausesFor direction deadline = c.PausesFor direction deadline :=
  funext fun _ => propext ⟨fun h => h.congr fd kind waiter,
    fun h => h.congr fd.symm kind.symm waiter.symm⟩

/-! ## Reads -/

section Reads

variable {κ : Type} [Host κ] {c₀ : Channel} {len low high : Nat} {es es' : Dialogue}
  {received : Bytes}

/-- The call that a read owes which has received some bytes. -/
def nextRead (c : Channel) (high : Nat) (received : Bytes) : Request :=
  .read c.fd (max (high - received.length) c.input.capacity)

/-- **The dialogue of a read that goes on** is settled, or it owes a call and is below its mark. -/
def ReadsOn (c : Channel) (deadline : Deadline) (low high : Nat) (es : Dialogue)
    (received : Bytes) : Prop :=
  es.Settled (c.PausesFor .readable deadline) ∨
    received.length < low ∧ es.Asking (c.PausesFor .readable deadline) (c.nextRead high received)

/-- A read toward a need that brings bytes, or the end, is an attempt that succeeded. -/
theorem Toward.moved {need size : Nat} {bytes : Bytes} {outcome : Attempt Bytes}
    (h : c.Toward need es (.moved bytes) c')
    (attempt : Attempted (Descriptor.reading c.fd size) es outcome) :
    ∃ all, outcome = .moved all := by
  rcases bytes with _ | ⟨first, rest⟩
  · exact ⟨[], attempt.sawEnd.1 (h.sawEnd.2 rfl)⟩
  · have brought := attempt.delivered.symm.trans h.delivered
    rcases outcome with all | _ | _
    · exact ⟨all, rfl⟩
    all_goals cases brought

/-- **A turn of a read** pursues what failed. -/
theorem readTurn_concluded (wf : c₀.WellFormed) (marks : low ≤ high) (fits : high ≤ len)
    (h : c₀.Receiving low high es received c) (on : c₀.ReadsOn deadline low high es received)
    (s : System κ) :
    (readTurn len low high deadline (received, c)).Ensures s
      (Act.turned (fun es x _ => c₀.ReadsOn deadline low high es x.1)
        (fun es r _ => es.Concluded (c₀.PausesFor .readable deadline) r.1.error?) es)
      (fun _ _ _ => True) := by
  have asking : es.Asking (c₀.PausesFor .readable deadline) (.read c.fd
      (max (high - received.length) c.input.capacity)) := by
    rw [h.reread.fd, h.reread.capacity]
    exact on.elim (fun settled => settled.asking _) And.right
  have same := Descriptor.transfers_reading c.fd (max (high - received.length) c.input.capacity)
  refine readTurn_ensures_of_attempt wf marks fits h (fun _ => (readToward_asked _ s).mono
    (fun _ _ _ _ asked => asked) fun _ _ _ _ _ => trivial) (fun reached => ?_)
    (fun es' c' _ _ toward ⟨_, attempt, _⟩ => ?_)
    (fun es' bytes c' _ _ _ toward ⟨_, attempt, _⟩ => ?_)
    (fun es' e c' _ _ _ ⟨_, attempt, _, failed⟩ => ?_)
    fun es' c' s' _ under toward ⟨_, attempt, blocked, _⟩ => ?_
  · exact (on.resolve_right fun below => absurd reached (Nat.not_le.2 below.1)).concluded none
  · obtain ⟨_, rfl⟩ := toward.moved attempt
    exact (attempt.settled same asking).concluded none
  · obtain ⟨_, rfl⟩ := toward.moved attempt
    exact .inl (attempt.settled same asking)
  · obtain rfl := failed e rfl
    exact ⟨attempt.pursued_failed same asking, nofun⟩
  · obtain rfl := blocked rfl
    have still := h.reread.trans toward.reread
    refine (mayRetry_paused c' .readable deadline s').mono (fun ws goOn t _ paused => ?_)
      fun _ _ _ _ _ => trivial
    have paused := paused.congr still.fd still.kind still.waiter
    refine ⟨fun is => .inr ⟨under, ?_⟩, fun _ => ⟨?_, nofun⟩⟩
    · subst is
      rw [nextRead, ← h.reread.fd, ← h.reread.capacity]
      exact attempt.asking same asking paused.still paused
    · exact attempt.pursued_late same asking paused.still

/-- **A read pursues what failed**, and it fails only by its last call. -/
theorem receive_concluded (wf : c.WellFormed) (marks : low ≤ high) (fits : high ≤ len)
    (deadline : Deadline) (s : System κ) :
    (c.receive len low high deadline).Ensures s
      (fun es r _ => es.Concluded (c.PausesFor .readable deadline) r.1.error?)
      (fun _ _ _ => True) :=
  receive_ensures_of_turns wf marks fits (fun es x _ => c.ReadsOn deadline low high es x.1)
    (fun _ _ _ => .inl .nil) (fun _ _ _ _ => Dialogue.Settled.nil.concluded none)
    fun _ _ s' _ receiving on => readTurn_concluded wf marks fits receiving on s'

end Reads

/-! ## Writes -/

section Writes

variable {κ : Type} [Host κ] {data : Bytes} {es : Dialogue} {sent : Nat}

/-- **The dialogue of a sending that goes on** is settled, or it owes a call and is not done. -/
def SendsOn (c : Channel) (data : Bytes) (deadline : Deadline) (es : Dialogue) (sent : Nat) :
    Prop :=
  es.Settled (c.PausesFor .writable deadline) ∨ sent < data.length ∧
    es.Asking (c.PausesFor .writable deadline) (.write c.fd (data.drop sent))

/-- **A turn of sending** pursues what failed. -/
theorem sendTurn_concluded (on : c.SendsOn data deadline es sent) (s : System κ) :
    (c.sendTurn data deadline sent).Ensures s
      (Act.turned (fun es n _ => c.SendsOn data deadline es n)
        (fun es r _ => es.Concluded (c.PausesFor .writable deadline) r.2) es)
      (fun _ _ _ => True) := by
  have asking : es.Asking (c.PausesFor .writable deadline) (.write c.fd (data.drop sent)) :=
    on.elim (fun settled => settled.asking _) And.right
  have same := Descriptor.transfers_writing c.fd (data.drop sent)
  refine sendTurn_ensures_of_attempt (fun _ => (Descriptor.write_ensures c.fd (data.drop sent)
    s).mono (fun _ _ _ _ h => h) fun _ _ _ _ _ => trivial) (fun done => ?_)
    (fun es' n _ _ attempt _ => .inl (attempt.settled same asking))
    (fun es' e _ _ attempt _ => ⟨attempt.pursued_failed same asking, nofun⟩)
    fun es' s' _ under attempt _ => ?_
  · exact (on.resolve_right fun below => absurd done (Nat.not_le.2 below.1)).concluded none
  · refine (mayRetry_paused c .writable deadline s').mono (fun ws goOn t _ paused => ?_)
      fun _ _ _ _ _ => trivial
    refine ⟨fun is => .inr ⟨under, ?_⟩, fun _ => ⟨?_, nofun⟩⟩
    · subst is
      exact attempt.asking same asking paused.still paused
    · exact attempt.pursued_late same asking paused.still

theorem send_concluded (c : Channel) (data : Bytes) (deadline : Deadline) (s : System κ) :
    (c.send data deadline).Ensures s
      (fun es r _ => es.Concluded (c.PausesFor .writable deadline) r.2) (fun _ _ _ => True) :=
  Act.ensures_loop (fun es sent _ => c.SendsOn data deadline es sent) (.inl .nil)
    fun _ _ s' _ on => sendTurn_concluded on s'

/-- The failure of a result. -/
def failureOf {α : Type} : Except ChannelError α → Option ChannelError
  | .ok _ => none
  | .error e => some e

theorem failureOf_eq_some {α : Type} {result : Except ChannelError α} {e : ChannelError} :
    failureOf result = some e ↔ result = .error e := by
  cases result <;> simp [failureOf]

/-- **A flush pursues what failed.** -/
theorem flush_concluded (wf : c.WellFormed) (deadline : Deadline) (s : System κ) :
    (c.flush deadline).Ensures s
      (fun es r _ => es.Concluded (c.PausesFor .writable deadline) (failureOf r.1))
      (fun _ _ _ => True) :=
  flush_ensures_of_send wf (send_concluded c c.output.pending deadline s)
    (fun _ => Dialogue.Settled.nil.concluded none) (fun _ _ _ _ _ _ _ sends _ _ => sends)
    fun _ _ _ _ _ _ _ sends _ _ => sends

/-- **A write pursues what failed**, in its flush and in sending. -/
theorem write_concluded (wf : c.WellFormed) (data : Bytes) (deadline : Deadline) (s : System κ) :
    (c.write data deadline).Ensures s
      (fun es r _ => es.Concluded (c.PausesFor .writable deadline) (failureOf r.1))
      (fun _ _ _ => True) := by
  refine write_ensures_of_ways wf (flush_concluded wf deadline s)
    (fun _ _ _ _ => Dialogue.Settled.nil.concluded none)
    (fun _ _ _ _ _ _ flushes => ⟨flushes.pursued, nofun⟩)
    (fun _ _ _ _ _ _ flushes _ _ _ => flushes) fun es c₁ s' j _ _ flushed flushes _ => ?_
  have same := flushed.rewritten
  rw [← pausesFor_congr same.fd same.kind same.waiter] at flushes ⊢
  refine (send_concluded c₁ data deadline _).mono (fun es' r t _ sends => ?_)
    fun _ _ _ _ _ => trivial
  obtain ⟨n, _ | e⟩ := r
  · exact (flushes.settled rfl).andThen sends
  · exact (flushes.settled rfl).andThen sends

end Writes

end Channel

end BufferedChannels
