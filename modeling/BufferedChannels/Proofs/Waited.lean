import BufferedChannels.Proofs.CutShort

/-!
# Proofs/Waited — how a wait goes

A thread that waits polls, and polls again **while it is interrupted** before its deadline; a
scheduler is asked once.  So the outcome of a wait can be told from its exchanges: `Waited` relates
the two, `Paused` does the same for a channel whose call would have had to wait, and what cuts a
transfer short by a timeout is such a wait.
-/

namespace BufferedChannels

namespace Waiter

/-! ## Polls -/

/-- **Polls that were interrupted** before their deadline. -/
def Disturbed (fd : Int) (direction : Direction) (deadline : Deadline) (es : Dialogue) : Prop :=
  ∀ e ∈ es, ∃ now errno, errno.recognized = .interrupted ∧
    e = pollAt fd direction deadline now (.failed errno)

/-- **What the last poll of a wait stands for.**  One that fails counts as ready, unless it was
interrupted when the deadline had passed. -/
inductive Concludes (direction : Direction) (deadline : Deadline) : Polled → WaitOutcome → Prop
  | ready : Concludes direction deadline .ready (.ready direction)
  | failed {errno : Errno} : errno.recognized ≠ .interrupted →
      Concludes direction deadline (.failed errno) (.ready direction)
  | timedOut : Concludes direction deadline .timedOut .timedOut
  | late {errno : Errno} {now : Nat} : errno.recognized = .interrupted →
      deadline.hasPassed now = true → Concludes direction deadline (.failed errno) .timedOut

/-- **How a wait went**, from its first exchange to its outcome. -/
inductive Waited (fd : Int) (direction : Direction) (deadline : Deadline) :
    Waiter → Dialogue → WaitOutcome → Prop
  | polled {scope : Scope} {before : Dialogue} {now : Nat} {reply : Polled}
      {outcome : WaitOutcome} : Disturbed fd direction deadline before →
        Concludes direction deadline reply outcome →
        Waited fd direction deadline (.polling scope)
          (before ++ [pollAt fd direction deadline now reply]) outcome
  | asked {notified : Bool} {now : Nat} {outcome : WaitOutcome} :
      Waited fd direction deadline (.scheduled notified)
        [⟨.wait fd direction (deadline.left? now), outcome⟩] outcome

section Waited

variable {fd : Int} {direction : Direction} {deadline : Deadline} {w : Waiter} {es : Dialogue}
  {outcome : WaitOutcome}

/-- **A wait moves no bytes.** -/
theorem Waited.suspends (h : Waited fd direction deadline w es outcome) : Suspends es := by
  rcases h with @⟨scope, before, now, reply, outcome, disturbed, -⟩ | _
  · intro e he
    rcases List.mem_append.1 he with he | he
    · obtain ⟨_, _, _, rfl⟩ := disturbed e he
      rfl
    · rw [List.mem_singleton.1 he]
      rfl
  · exact List.forall_mem_singleton.2 rfl

/-- **A wait without a deadline** times out only if a poll without a timeout does. -/
theorem Waited.mem_of_never {scope : Scope}
    (h : Waited fd direction .never (.polling scope) es .timedOut) :
    ⟨.poll fd direction none, Polled.timedOut⟩ ∈ es := by
  rcases h with ⟨disturbed, conclusion⟩
  rcases conclusion with _ | _ | _ | ⟨_, passed⟩
  · exact List.mem_append_right _ (List.mem_singleton.2 rfl)
  · cases passed

end Waited

/-! ## Waits -/

variable {κ : Type} [Host κ]

/-- **Polling goes as a wait goes.** -/
theorem poll_waited (scope : Scope) (fd : Int) (direction : Direction) (deadline : Deadline)
    (s : System κ) :
    (Act.loop (pollTurn fd direction deadline) ()).Ensures s
      (fun es outcome _ => Waited fd direction deadline (.polling scope) es outcome)
      (fun _ _ _ => True) := by
  refine Act.ensures_loop (fun es _ _ => Disturbed fd direction deadline es)
    (List.forall_mem_nil _) fun es _ s' _ before => ?_
  refine pollTurn_ensures (P := fun _ _ => True) (fun _ _ => trivial) (fun _ _ _ _ _ => trivial)
    (fun _ _ => .polled before .ready) (fun _ _ => .polled before .timedOut) (fun _ _ => trivial)
    (fun _ _ _ interrupted passed => .polled before (.late interrupted passed))
    (fun e _ _ interrupted e' he => ?_) fun _ _ _ _ other => .polled before (.failed other)
  rcases List.mem_append.1 he with he | he
  · exact before e' he
  · exact ⟨_, e, interrupted, List.mem_singleton.1 he⟩

/-- **Every wait that ends goes so.** -/
theorem wait_waited (w : Waiter) (fd : Int) (direction : Direction) (deadline : Deadline)
    (s : System κ) :
    (w.wait fd direction deadline).Ensures s
      (fun es outcome _ => Waited fd direction deadline w es outcome) (fun _ _ _ => True) := by
  cases w with
  | polling scope =>
    unfold wait
    dsimp only
    split
    · exact Act.ensures_throw trivial
    · exact poll_waited scope fd direction deadline s
  | scheduled notified =>
    refine Act.ensures_now ((call_ensures _ s).mono (fun es outcome _ _ one => ?_)
      fun _ _ _ _ _ => trivial)
    subst one
    exact .asked

end Waiter

/-! ## Channels that wait -/

namespace Channel

/-- **How a channel goes on** whose call would have had to wait: at once where it is always ready,
and after a wait that ends well on anything else. -/
inductive Paused (c : Channel) (direction : Direction) (deadline : Deadline) :
    Dialogue → Bool → Prop
  | atOnce : c.kind.alwaysReady = true → Paused c direction deadline [] true
  | woken {es : Dialogue} : c.kind.alwaysReady = false →
      c.waiter.Waited c.fd direction deadline es (.ready direction) →
        Paused c direction deadline es true
  | late {es : Dialogue} : c.kind.alwaysReady = false →
      c.waiter.Waited c.fd direction deadline es .timedOut → Paused c direction deadline es false

variable {κ : Type} [Host κ]

/-- **Every channel goes on so**, or not at all. -/
theorem mayRetry_paused (c : Channel) (direction : Direction) (deadline : Deadline) (s : System κ) :
    (c.mayRetry direction deadline).Ensures s
      (fun es goOn _ => c.Paused direction deadline es goOn) (fun _ _ _ => True) := by
  unfold mayRetry
  cases ready : c.kind.alwaysReady with
  | true => exact Act.ensures_pure (.atOnce ready)
  | false =>
    refine Act.ensures_bind (Act.ensures_leaving c ((c.waiter.wait_waited c.fd direction deadline
      s).mono (fun _ _ _ _ h => h) fun _ _ _ _ _ => trivial)) fun es outcome s' _ waited => ?_
    rw [← List.append_nil es] at waited
    cases outcome with
    | timedOut => exact Act.ensures_pure (.late ready waited)
    | ready got =>
      refine Act.ensures_require (fun asked => Act.ensures_pure ?_) fun _ _ => trivial
      exact .woken ready (of_decide_eq_true asked ▸ waited)

/-- **What cuts a transfer short by a timeout** is a wait that timed out. -/
theorem CutShort.waited {c : Channel} {direction : Direction} {deadline : Deadline}
    {s s' : System κ} {es : Dialogue} {e : ChannelError}
    (h : c.CutShort direction deadline s es e s') (timeout : e.isTimeout = true) :
    ∃ before last waits x, es = before ++ [last] ++ waits ∧ c.kind.alwaysReady = false ∧
      Exchange.FailsWith c.fd x direction last ∧ x.recognized = .wouldBlock ∧
        c.waiter.Waited c.fd direction deadline waits .timedOut := by
  cases h with
  | refused => cases timeout
  | @late before waits last x n s₀ _ slow fails blocked _ reaches run =>
    have waited := (c.waiter.wait_waited c.fd direction deadline s₀).of_noted run reaches.trace
    exact ⟨before, last, _, x, rfl, slow, fails, blocked, waited⟩

end Channel

end BufferedChannels
