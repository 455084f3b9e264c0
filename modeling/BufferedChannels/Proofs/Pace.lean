import BufferedChannels.Proofs.CutShort

/-!
# Proofs/Pace — how often a transfer waits

A transfer waits only after a call that would have blocked, it is woken once then, and a call that
is refused is its last.  So as long as it has not returned it is `Paced`: **woken at most as often
as it was blocked**, and never refused.  Who knows how often a call can be blocked knows how many
calls a transfer makes.
-/

namespace BufferedChannels

/-! ## Calls that are blocked, refused or wake -/

namespace Exchange

/-- Whether a read or a write would have blocked. -/
def isBlocked (e : Exchange) : Bool := e.failure?.any fun x => x.recognized = .wouldBlock

/-- Whether a read or a write **failed for good**. -/
def isRefused (e : Exchange) : Bool :=
  e.failure?.any fun x => x.recognized ≠ .interrupted ∧ x.recognized ≠ .wouldBlock

/-- Whether a wait is over; one that was interrupted is not. -/
def isWake : Exchange → Bool
  | ⟨.poll .., .failed x⟩ => x.recognized ≠ .interrupted
  | ⟨.poll .., _⟩ => true
  | ⟨.wait .., _⟩ => true
  | _ => false

end Exchange

namespace Dialogue

/-- **A transfer that goes on**: it was blocked at least as often as it was woken, and so much more
often, and no call was refused. -/
structure Paced (more : Nat) (es : Dialogue) : Prop where
  woken : es.countP Exchange.isWake + more ≤ es.countP Exchange.isBlocked
  unrefused : ∀ e ∈ es, e.isRefused = false

/-- **A wait**: it is over at most once, and no call was refused. -/
structure Waited (es : Dialogue) : Prop where
  woken : es.countP Exchange.isWake ≤ 1
  unrefused : ∀ e ∈ es, e.isRefused = false

variable {es es' : Dialogue} {more : Nat}

theorem Paced.nil : Paced 0 [] := ⟨Nat.le_refl 0, List.forall_mem_nil _⟩

theorem unrefused_append (h : ∀ e ∈ es, e.isRefused = false) (h' : ∀ e ∈ es', e.isRefused = false) :
    ∀ e ∈ es ++ es', e.isRefused = false := fun e he => (List.mem_append.1 he).elim (h e) (h' e)

theorem Paced.append (h : Paced 0 es) (h' : Paced more es') : Paced more (es ++ es') where
  woken := by
    have first := h.woken
    have second := h'.woken
    rw [List.countP_append, List.countP_append]
    omega
  unrefused := unrefused_append h.unrefused h'.unrefused

/-- **A wait pays for a call that was blocked.** -/
theorem Paced.waited (h : Paced 1 es) (h' : es'.Waited) : Paced 0 (es ++ es') where
  woken := by
    have first := h.woken
    have second := h'.woken
    rw [List.countP_append, List.countP_append]
    omega
  unrefused := unrefused_append h.unrefused h'.unrefused

end Dialogue

open Dialogue

/-! ## Attempts -/

section

variable {α : Type} {exchange : Except Errno α → Exchange} {es : Dialogue} {outcome : Attempt α}

/-- **A call that moves bytes**, with its error when it fails. -/
def Moves (exchange : Except Errno α → Exchange) : Prop :=
  (∀ a, (exchange (.ok a)).failure? = none) ∧ (∀ x, (exchange (.error x)).failure? = some x) ∧
    ∀ reply, (exchange reply).isWake = false

theorem moves_reading (fd : Int) (len : Nat) : Moves (Descriptor.reading fd len) :=
  ⟨fun _ => rfl, fun _ => rfl, fun reply => by cases reply <;> rfl⟩

theorem moves_writing (fd : Int) (data : Bytes) : Moves (Descriptor.writing fd data) :=
  ⟨fun _ => rfl, fun _ => rfl, fun reply => by cases reply <;> rfl⟩

theorem Interrupted.paced (moves : Moves exchange) (h : Interrupted exchange es) : Paced 0 es where
  woken := by
    rw [List.countP_eq_zero.2 fun e he => ?_]
    · exact Nat.zero_le _
    · obtain ⟨_, _, rfl⟩ := h e he
      rw [moves.2.2]
      exact Bool.false_ne_true
  unrefused := by
    intro e he
    obtain ⟨x, interrupted, rfl⟩ := h e he
    simp [Exchange.isRefused, moves.2.1, interrupted]

/-- **How an attempt is paced**: one that has to wait was blocked, and nothing is said of one that
was refused. -/
def Attempt.Paces (es : Dialogue) : Attempt α → Prop
  | .moved _ => Paced 0 es
  | .mustWait => Paced 1 es
  | .failed _ => True

theorem Attempted.paced (moves : Moves exchange) (h : Attempted exchange es outcome) :
    outcome.Paces es := by
  obtain ⟨before, reply, idle, rfl, said⟩ := h
  cases outcome with
  | moved a =>
    obtain rfl := Attempt.ofReply_eq_moved said
    refine (Interrupted.paced moves idle).append ⟨?_, fun e he => ?_⟩
    · simp [moves.2.2]
    · simp [List.mem_singleton.1 he, Exchange.isRefused, moves.1]
  | mustWait =>
    obtain ⟨x, rfl, blocked⟩ := Attempt.ofReply_eq_mustWait said
    refine (Interrupted.paced moves idle).append ⟨?_, fun e he => ?_⟩
    · simp [moves.2.2, Exchange.isBlocked, moves.2.1, blocked]
    · simp [List.mem_singleton.1 he, Exchange.isRefused, moves.2.1, blocked]
  | failed => trivial

end

/-! ## Waits -/

variable {κ : Type} [Host κ]

/-- **Polling wakes once**, after interruptions. -/
theorem poll_waited (fd : Int) (direction : Direction) (deadline : Deadline) (s : System κ) :
    (Act.loop (Waiter.pollTurn fd direction deadline) ()).Ensures s (fun es _ _ => es.Waited)
      (fun es _ _ => es.Waited) := by
  refine Act.ensures_loop (fun es _ _ => es.countP Exchange.isWake = 0 ∧
    ∀ e ∈ es, e.isRefused = false) ⟨rfl, List.forall_mem_nil _⟩ fun es _ s₁ _ ⟨unwoken, fine⟩ => ?_
  -- Whatever the poll answers, it adds one wake at most and no refusal.
  have waited (reply : Polled) :
      Waited (es ++ [Waiter.pollAt fd direction deadline (Host.now s₁.host) reply]) := by
    refine ⟨?_, unrefused_append fine fun e he => ?_⟩
    · rw [List.countP_append, unwoken, Nat.zero_add]
      exact List.countP_le_length
    · rw [List.mem_singleton.1 he]
      rfl
  refine Waiter.pollTurn_ensures (P := fun _ _ => True) (fun _ _ => ?_) (fun _ _ _ _ _ => trivial)
    (fun _ _ => waited _) (fun _ _ => waited _) (fun _ _ => waited _) (fun _ _ _ _ _ => waited _)
    (fun e _ _ interrupted => ⟨?_, (waited _).unrefused⟩) fun _ _ _ _ _ => waited _
  · rw [List.append_nil]
    exact ⟨unwoken ▸ Nat.zero_le 1, fine⟩
  · simp [unwoken, Waiter.pollAt, Exchange.isWake, interrupted]

namespace Channel

/-- **What a channel does when a call would block** is one wait. -/
theorem mayRetry_waited (c : Channel) (direction : Direction) (deadline : Deadline) (s : System κ) :
    (c.mayRetry direction deadline).Ensures s (fun es _ _ => es.Waited)
      (fun es _ _ => es.Waited) := by
  unfold mayRetry
  split
  · exact Act.ensures_pure ⟨Nat.zero_le 1, List.forall_mem_nil _⟩
  refine Act.ensures_bind (M := fun es _ _ => es.Waited) (Act.ensures_leaving c ?_)
    fun es outcome s' _ waited => ?_
  · unfold Waiter.wait
    rcases c.waiter with scope | notified
    · dsimp only
      split
      · exact Act.ensures_throw ⟨Nat.zero_le 1, List.forall_mem_nil _⟩
      · exact poll_waited c.fd direction deadline s
    · refine Act.ensures_now (Act.ensures_call _ (fun _ _ => ⟨Nat.le_refl 1, fun e he => ?_⟩)
        fun _ => ⟨Nat.zero_le 1, List.forall_mem_nil _⟩)
      rw [List.mem_singleton.1 he]
      rfl
  · rcases outcome with got | _
    · refine Act.ensures_require (fun _ => Act.ensures_pure ?_) fun _ j => ?_
      all_goals
        rw [List.append_nil]
        exact waited
    · exact Act.ensures_pure (by rw [List.append_nil]; exact waited)

/-! ## Reads -/

/-- One read toward a need is paced, and it was blocked if it has to wait. -/
theorem readToward_paced (c : Channel) (need : Nat) (s : System κ) :
    (c.readToward need).Ensures s (fun es r _ => r.1.Paces es) (fun es _ _ => Paced 0 es) := by
  unfold readToward
  split
  · refine Act.ensures_log _ _ fun j => ?_
    refine Act.ensures_bind ((Descriptor.read_ensures c.fd need _).mono (fun _ _ _ _ h => h)
      fun _ _ _ _ ⟨idle, _⟩ => Interrupted.paced (moves_reading _ _) idle)
      fun es outcome _ _ attempt => ?_
    have paced := attempt.paced (moves_reading _ _)
    rw [← List.append_nil es] at paced
    rcases outcome with bytes | _ | e
    all_goals exact Act.ensures_pure paced
  · refine Act.ensures_check_or (fun slot _ => ?_) fun _ _ => Paced.nil
    refine Act.ensures_bind ((Descriptor.read_ensures c.fd slot.capacity _).mono
      (fun _ _ _ _ h => h) fun _ _ _ _ ⟨idle, _⟩ => Interrupted.paced (moves_reading _ _) idle)
      fun es outcome _ _ attempt => ?_
    have paced := attempt.paced (moves_reading _ _)
    rw [← List.append_nil es] at paced
    rcases outcome with bytes | _ | e
    · refine Act.ensures_check_or (fun loaded _ => ?_) fun _ _ => paced
      exact Act.ensures_check_or (fun taken _ => Act.ensures_pure paced) fun _ _ => paced
    all_goals exact Act.ensures_pure paced

/-- **A read that halts was paced.** -/
theorem receive_paced {c : Channel} (wf : c.WellFormed) {len low high : Nat} (marks : low ≤ high)
    (fits : high ≤ len) (deadline : Deadline) (s : System κ) :
    (c.receive len low high deadline).Ensures s (fun _ _ _ => True) (fun es _ _ => Paced 0 es) := by
  refine receive_ensures_of_turns wf marks fits (fun es _ _ => Paced 0 es) (fun _ _ _ => .nil)
    (fun _ _ _ _ => trivial) fun es x s₁ _ receiving before => ?_
  refine readTurn_ensures_of_attempt wf marks fits receiving (fun _ => ((readToward_paced x.2 _
    s₁).and (readToward_attempted _ s₁)).mono (fun _ _ _ _ h => h) fun _ _ _ _ halt =>
      before.append halt.1) (fun _ => trivial) (fun _ _ _ _ _ _ => trivial)
    (fun _ _ _ _ _ _ _ ⟨paced, _⟩ => before.append paced) (fun _ _ _ _ _ _ _ => trivial)
    fun es' c' s₂ _ _ _ ⟨paced, _⟩ => ?_
  have blocked := before.append paced
  refine (c'.mayRetry_waited .readable deadline s₂).mono (fun ws goOn t _ waited =>
    ⟨fun _ => ?_, fun _ => trivial⟩) fun ws _ _ _ waited => ?_
  all_goals
    rw [← List.append_assoc]
    exact blocked.waited waited

/-! ## Writes -/

/-- **Sending is paced** unless it is cut short. -/
theorem send_paced (c : Channel) (data : Bytes) (deadline : Deadline) (s : System κ) :
    (c.send data deadline).Ensures s (fun es r _ => r.2 = none → Paced 0 es)
      (fun es _ _ => Paced 0 es) := by
  refine Act.ensures_loop (fun es _ _ => Paced 0 es) .nil fun es sent s₁ _ before => ?_
  refine sendTurn_ensures_of_attempt (fun _ => (Descriptor.write_ensures c.fd _ s₁).mono
    (fun _ _ _ _ h => h) fun _ _ _ _ ⟨idle, _⟩ =>
      before.append (Interrupted.paced (moves_writing _ _) idle)) (fun _ _ => before)
    (fun _ _ _ _ attempt _ => before.append (attempt.paced (moves_writing _ _)))
    (fun _ _ _ _ _ _ => nofun) fun es' s₂ _ _ attempt _ => ?_
  have blocked := before.append (attempt.paced (moves_writing _ _))
  refine (c.mayRetry_waited .writable deadline s₂).mono (fun ws goOn t _ waited =>
    ⟨fun _ => ?_, fun _ => nofun⟩) fun ws _ _ _ waited => ?_
  all_goals
    rw [← List.append_assoc]
    exact blocked.waited waited

/-- **A flush is paced** unless it fails. -/
theorem flush_paced {c : Channel} (wf : c.WellFormed) (deadline : Deadline) (s : System κ) :
    (c.flush deadline).Ensures s (fun es r _ => r.1 = .ok () → Paced 0 es)
      (fun es _ _ => Paced 0 es) := by
  refine flush_ensures_of_send wf (c.send_paced c.output.pending deadline s) (fun _ _ => .nil)
    (fun _ _ _ _ _ _ _ paced _ _ _ => paced rfl) fun _ _ _ _ _ _ _ _ _ _ => nofun

/-- **A write that halts was paced.** -/
theorem write_paced {c : Channel} (wf : c.WellFormed) (data : Bytes) (deadline : Deadline)
    (s : System κ) :
    (c.write data deadline).Ensures s (fun _ _ _ => True) (fun es _ _ => Paced 0 es) := by
  refine write_ensures_of_ways wf (flush_paced wf deadline s) (fun _ _ _ _ => trivial)
    (fun _ _ _ _ _ _ _ => trivial) (fun _ _ _ _ _ _ _ _ _ _ => trivial)
    fun es c₁ s' j _ _ _ paced _ => ?_
  exact (c₁.send_paced data deadline _).mono (fun _ _ _ _ _ => trivial)
    fun _ _ _ _ halt => (paced rfl).append halt

end Channel

end BufferedChannels
