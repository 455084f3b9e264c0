import BufferedChannels.Channel.Suspend
import BufferedChannels.Descriptor
import BufferedChannels.Proofs.Ensures

/-!
# Proofs/Attempts — single transfers, and waits between them

A read or write of a descriptor is **one request, made again while it is interrupted**: `Attempted`
says what its dialogue looks like, and what is accepted and delivered by it can be read off its
outcome.  A wait is polls by one rule (`Waiter.pollTurn_ensures`) and moves no bytes
(`mayRetry_ensures`), and `MayHalt` lists the ways in which a transfer of a channel can fail to
return.
-/

namespace BufferedChannels

/-! ## What a reply stands for -/

namespace Attempt

variable {α : Type} {reply : Except Errno α}

theorem ofReply_eq_inl (h : ofReply reply = .inl ()) :
    ∃ e, reply = .error e ∧ e.recognized = .interrupted := by
  cases reply with
  | ok a => cases h
  | error e =>
    rw [ofReply] at h
    split at h
    · next hi => exact ⟨e, rfl, hi⟩
    · split at h <;> cases h

theorem ofReply_eq_moved {a : α} (h : ofReply reply = .inr (.moved a)) : reply = .ok a := by
  cases reply with
  | ok b =>
    cases h
    rfl
  | error e =>
    rw [ofReply] at h
    split at h
    · cases h
    · split at h <;> cases h

theorem ofReply_eq_mustWait (h : ofReply reply = .inr .mustWait) :
    ∃ e, reply = .error e ∧ e.recognized = .wouldBlock := by
  cases reply with
  | ok a => cases h
  | error e =>
    rw [ofReply] at h
    split at h
    · cases h
    · split at h
      · next hw => exact ⟨e, rfl, hw⟩
      · cases h

theorem ofReply_eq_failed {x : Errno} (h : ofReply reply = .inr (.failed x)) :
    ∃ e, reply = .error e ∧ e.recognized = x ∧ x ≠ .interrupted ∧ x ≠ .wouldBlock := by
  cases reply with
  | ok a => cases h
  | error e =>
    rw [ofReply] at h
    split at h
    · cases h
    · next hi =>
      split at h
      · cases h
      · next hw =>
        cases h
        exact ⟨e, rfl, rfl, hi, hw⟩

end Attempt

/-! ## A request made again while it is interrupted -/

section Retry

variable {κ : Type} [Host κ] {α : Type}

/-- **Interruptions** of one request; `exchange` is the request with a given reply. -/
def Interrupted (exchange : Except Errno α → Exchange) (es : Dialogue) : Prop :=
  ∀ e ∈ es, ∃ errno : Errno, errno.recognized = .interrupted ∧ e = exchange (.error errno)

/-- **An attempt**: interruptions of a request, and then the reply that counts. -/
def Attempted (exchange : Except Errno α → Exchange) (es : Dialogue) (outcome : Attempt α) : Prop :=
  ∃ before reply, Interrupted exchange before ∧ es = before ++ [exchange reply] ∧
    Attempt.ofReply reply = .inr outcome

theorem Attempted.ne_nil {exchange : Except Errno α → Exchange} {es : Dialogue}
    {outcome : Attempt α} (h : Attempted exchange es outcome) : es ≠ [] := by
  obtain ⟨before, reply, _, rfl, _⟩ := h
  exact List.append_ne_nil_of_right_ne_nil _ (List.cons_ne_nil _ _)

/-- An attempt that moves bytes ends with the reply that says so. -/
theorem Attempted.mem {exchange : Except Errno α → Exchange} {es : Dialogue} {a : α}
    (h : Attempted exchange es (.moved a)) : exchange (.ok a) ∈ es := by
  obtain ⟨before, reply, _, rfl, hr⟩ := h
  rw [Attempt.ofReply_eq_moved hr]
  exact List.mem_append_right _ (List.mem_singleton.2 rfl)

/-- A budget that is spent; the next exchange never returns. -/
def Spent (h : Halt) (s : System κ) : Prop := h = .endless ∧ s.budget = 0

/-- **Asking until a reply counts** makes an attempt. -/
theorem ensures_retry {ask : Act κ (Except Errno α)} {exchange : Except Errno α → Exchange}
    (asks : ∀ s, ask.Ensures s (fun es reply _ => es = [exchange reply])
      (fun es h s' => es = [] ∧ Spent h s')) (s : System κ) :
    (Act.loop (fun _ => return Attempt.ofReply (← ask)) ()).Ensures s
      (fun es outcome _ => Attempted exchange es outcome)
      (fun es h s' => Interrupted exchange es ∧ Spent h s') := by
  refine Act.ensures_loop (fun es _ _ => Interrupted exchange es) (fun _ h => absurd h
    List.not_mem_nil) fun es _ s' _ before => ?_
  refine Act.ensures_bind (M := fun es' reply _ => es' = [exchange reply])
    ((asks s').mono (fun _ _ _ _ h => h) fun es' h t _ ⟨silent, spent⟩ => ?_)
    fun es' reply t _ one => ?_
  · rw [silent, List.append_nil]
    exact ⟨before, spent⟩
  · subst one
    refine Act.ensures_pure ?_
    cases hr : Attempt.ofReply reply with
    | inl _ =>
      obtain ⟨errno, rfl, hi⟩ := Attempt.ofReply_eq_inl hr
      refine ⟨List.cons_ne_nil _ _, fun e he => ?_⟩
      rcases List.mem_append.1 he with he | he
      · exact before e he
      · exact ⟨errno, hi, List.mem_singleton.1 he⟩
    | inr outcome => exact ⟨es, reply, before, rfl, hr⟩

/-- A request makes one exchange. -/
theorem call_ensures (r : Request) (s : System κ) :
    (Act.call r : Act κ r.Reply).Ensures s (fun es reply _ => es = [⟨r, reply⟩])
      (fun es h s' => es = [] ∧ Spent h s') :=
  Act.ensures_call r (fun _ _ => rfl) fun spent => ⟨rfl, rfl, spent⟩

end Retry

namespace Descriptor

variable {κ : Type} [Host κ]

/-- A read with its reply. -/
def reading (fd : Int) (len : Nat) (reply : Except Errno Bytes) : Exchange := ⟨.read fd len, reply⟩

/-- A write with its reply. -/
def writing (fd : Int) (data : Bytes) (reply : Except Errno Nat) : Exchange :=
  ⟨.write fd data, reply⟩

theorem read_ensures (fd : Int) (len : Nat) (s : System κ) :
    (read fd len).Ensures s (fun es outcome _ => Attempted (reading fd len) es outcome)
      (fun es h s' => Interrupted (reading fd len) es ∧ Spent h s') :=
  ensures_retry (call_ensures (.read fd len)) s

theorem write_ensures (fd : Int) (data : Bytes) (s : System κ) :
    (write fd data).Ensures s (fun es outcome _ => Attempted (writing fd data) es outcome)
      (fun es h s' => Interrupted (writing fd data) es ∧ Spent h s') :=
  ensures_retry (call_ensures (.write fd data)) s

end Descriptor

/-! ## Waiting -/

/-- The buffers of a channel keep their rules. -/
structure Channel.WellFormed (c : Channel) : Prop where
  input : c.input.WellFormed
  output : c.output.WellFormed

/-- **The ways in which a transfer of a channel may halt**: the budget is spent, a poll never ends,
a thread is to poll no descriptor, the scheduler wakes for the wrong direction, or the host moves
more than it was asked to. -/
inductive Channel.MayHalt {κ : Type} (c : Channel) (es : Dialogue) : Halt → System κ → Prop
  | spent {s : System κ} : s.budget = 0 → MayHalt c es .endless s
  | never {s : System κ} {direction : Direction} {timeout : Option Nat} :
      c.kind.alwaysReady = false → ⟨.poll c.fd direction timeout, Polled.never⟩ ∈ es →
        MayHalt c es .endless s
  | noDescriptor {s : System κ} {scope : Scope} {left : Channel} :
      c.kind.alwaysReady = false → c.waiter = .polling scope → c.fd = Waiter.noDescriptor →
        left.WellFormed → MayHalt c es (.faulted "fd != -1" (some left)) s
  | woken {s : System κ} {notified : Bool} {direction got : Direction} {left : Option Nat} :
      c.kind.alwaysReady = false → c.waiter = .scheduled notified →
        ⟨.wait c.fd direction left, WaitOutcome.ready got⟩ ∈ es → got ≠ direction →
        MayHalt c es .aborted s
  | overfull {s : System κ} {message : String} {e : Exchange} :
      e ∈ es → ¬ e.Moderate → MayHalt c es (.faulted message none) s

namespace Channel.MayHalt

variable {κ : Type} {c c' : Channel} {es es' : Dialogue} {h : Halt} {s : System κ}

/-- More exchanges excuse as much. -/
theorem mono (halt : c.MayHalt es h s) (more : ∀ e ∈ es, e ∈ es') : c.MayHalt es' h s := by
  cases halt with
  | spent hb => exact .spent hb
  | never slow hm => exact .never slow (more _ hm)
  | noDescriptor slow hw hf hl => exact .noDescriptor slow hw hf hl
  | woken slow hw hm hg => exact .woken slow hw (more _ hm) hg
  | overfull hm hn => exact .overfull (more _ hm) hn

theorem append_left (halt : c.MayHalt es h s) : c.MayHalt (es' ++ es) h s :=
  halt.mono fun _ => List.mem_append_right _

/-- Only descriptor, kind and waiter of the channel count. -/
theorem congr (halt : c.MayHalt es h s) (fd : c'.fd = c.fd) (kind : c'.kind = c.kind)
    (waiter : c'.waiter = c.waiter) : c'.MayHalt es h s := by
  cases halt with
  | spent hb => exact .spent hb
  | never slow hm => exact .never (kind ▸ slow) (fd ▸ hm)
  | noDescriptor slow hw hf hl =>
    exact .noDescriptor (kind ▸ slow) (waiter.trans hw) (fd.trans hf) hl
  | woken slow hw hm hg => exact .woken (kind ▸ slow) (waiter.trans hw) (fd ▸ hm) hg
  | overfull hm hn => exact .overfull hm hn

/-- **On what is always ready** only a spent budget or too much moved halts a transfer. -/
theorem spent_of_ready (halt : c.MayHalt es h s) (ready : c.kind.alwaysReady = true)
    (moderate : es.Moderate) : Spent h s := by
  cases halt with
  | spent hb => exact ⟨rfl, hb⟩
  | never slow | noDescriptor slow | woken slow =>
    simp [ready] at slow
  | overfull hm hn => exact absurd (moderate _ hm) hn

end Channel.MayHalt

section Waits

variable {κ : Type} [Host κ]

/-- **Every exchange is a wait**, which moves no bytes. -/
def Suspends (es : Dialogue) : Prop := ∀ e ∈ es, e.isSuspension = true

/-- **A channel waits** only on a descriptor that is not always ready. -/
def Channel.Waits (c : Channel) (es : Dialogue) : Prop :=
  ∀ e ∈ es, c.kind.alwaysReady = false ∧ e.isSuspension = true

theorem Channel.Waits.still {c : Channel} {es : Dialogue} (h : c.Waits es) :
    ∀ e ∈ es, e.isStill = true :=
  fun e he => Exchange.isStill_of_isSuspension (h e he).2

/-- A poll of a wait, made at some time, with its reply. -/
def Waiter.pollAt (fd : Int) (direction : Direction) (deadline : Deadline) (now : Nat)
    (reply : Polled) : Exchange :=
  ⟨.poll fd direction ((deadline.left? now).map pollMilliseconds), reply⟩

/-- **The rule of one poll**: what the poll comes to decides how the wait ends, or that it goes on
when it was interrupted. -/
theorem Waiter.pollTurn_ensures {fd : Int} {direction : Direction} {deadline : Deadline}
    {s : System κ} {es : Dialogue} {inv : Dialogue → Unit → System κ → Prop}
    {returns : Dialogue → WaitOutcome → System κ → Prop}
    {halts : Dialogue → Halt → System κ → Prop} {P : Polled → System κ → Prop}
    (spent : ∀ j, s.budget = 0 → halts [] .endless { s with journal := j })
    (polled : ∀ reply s', s.Reaches [pollAt fd direction deadline (Host.now s.host) reply] s' →
      reply = (Host.answer s.host (.poll fd direction
        ((deadline.left? (Host.now s.host)).map pollMilliseconds))).1 →
      s'.host = (Host.answer s.host (.poll fd direction
        ((deadline.left? (Host.now s.host)).map pollMilliseconds))).2 → P reply s')
    (ready : ∀ s', P .ready s' → returns (es ++
      [pollAt fd direction deadline (Host.now s.host) .ready]) (.ready direction) s')
    (timedOut : ∀ s', P .timedOut s' → returns (es ++
      [pollAt fd direction deadline (Host.now s.host) .timedOut]) .timedOut s')
    (never : ∀ s', P .never s' →
      halts [pollAt fd direction deadline (Host.now s.host) .never] .endless s')
    (late : ∀ e s', P (.failed e) s' → e.recognized = .interrupted →
      deadline.hasPassed (Host.now s'.host) = true → returns (es ++
        [pollAt fd direction deadline (Host.now s.host) (.failed e)]) .timedOut s')
    (again : ∀ e s', P (.failed e) s' → e.recognized = .interrupted → inv (es ++
      [pollAt fd direction deadline (Host.now s.host) (.failed e)]) () s')
    (failed : ∀ e s' j, P (.failed e) s' → e.recognized ≠ .interrupted → returns (es ++
      [pollAt fd direction deadline (Host.now s.host) (.failed e)]) (.ready direction)
        { s' with journal := j }) :
    (pollTurn fd direction deadline () : Act κ (Unit ⊕ WaitOutcome)).Ensures s
      (Act.turned inv returns es) halts := by
  unfold pollTurn
  refine Act.ensures_now (Act.ensures_log _ _ fun j => ?_)
  refine Act.ensures_bind (Act.ensures_exchange (.poll fd direction _)
    (R := fun es' (reply : Polled) s' =>
      es' = [pollAt fd direction deadline (Host.now s.host) reply] ∧ P reply s')
    (fun s' reaches host _ =>
      ⟨rfl, polled _ s' ((Act.reaches_journal s j).trans reaches) rfl host⟩)
    (spent j)) fun es' reply s' _ ⟨one, came⟩ => ?_
  subst one
  cases reply with
  | ready => exact Act.ensures_pure (ready s' came)
  | timedOut => exact Act.ensures_pure (timedOut s' came)
  | never => exact Act.ensures_throw (never s' came)
  | failed e =>
    dsimp only
    split
    · next interrupted =>
      refine Act.ensures_now ?_
      split
      · next passed => exact Act.ensures_pure (late e s' came interrupted passed)
      · exact Act.ensures_pure ⟨List.cons_ne_nil _ _, again e s' came interrupted⟩
    · next other =>
      exact Act.ensures_log _ _ fun j => Act.ensures_pure (failed e s' j came other)

/-- **Polling waits for the direction that was asked for**, and halts only when its budget is spent
or a poll never ends. -/
theorem poll_ensures (fd : Int) (direction : Direction) (deadline : Deadline) (s : System κ) :
    (Act.loop (Waiter.pollTurn fd direction deadline) ()).Ensures s
      (fun es outcome _ => Suspends es ∧ ∀ got, outcome = .ready got → got = direction)
      (fun es h s' => Suspends es ∧ h = .endless ∧
        (s'.budget = 0 ∨ ∃ timeout, ⟨.poll fd direction timeout, Polled.never⟩ ∈ es)) := by
  refine Act.ensures_loop (fun es _ _ => Suspends es) (List.forall_mem_nil _)
    fun es _ s' _ before => ?_
  have all (reply : Polled) :
      Suspends (es ++ [Waiter.pollAt fd direction deadline (Host.now s'.host) reply]) :=
    fun e he => (List.mem_append.1 he).elim (before e) fun he => by
      rw [List.mem_singleton.1 he]
      rfl
  refine Waiter.pollTurn_ensures (P := fun _ _ => True) (fun _ none => ?_)
    (fun _ _ _ _ _ => trivial) (fun _ _ => ⟨all _, ?_⟩) (fun _ _ => ⟨all _, nofun⟩)
    (fun _ _ => ⟨all _, rfl, .inr ?_⟩) (fun _ _ _ _ _ => ⟨all _, nofun⟩)
    (fun _ _ _ _ => all _) fun _ _ _ _ _ => ⟨all _, ?_⟩
  · rw [List.append_nil]
    exact ⟨before, rfl, .inl none⟩
  · exact fun got is => (WaitOutcome.ready.inj is).symm
  · exact ⟨_, List.mem_append_right _ (List.mem_singleton.2 rfl)⟩
  · exact fun got is => (WaitOutcome.ready.inj is).symm

/-- **A wait of a waiter**: polling brings the direction that was asked for, and a scheduler brings
what its word says. -/
theorem wait_ensures (w : Waiter) (fd : Int) (direction : Direction) (deadline : Deadline)
    (s : System κ) :
    (w.wait fd direction deadline).Ensures s
      (fun es outcome _ => Suspends es ∧ ∀ got, outcome = .ready got → got = direction ∨
        ∃ notified left, w = .scheduled notified ∧
          ⟨.wait fd direction left, WaitOutcome.ready got⟩ ∈ es)
      (fun es h s' => Suspends es ∧
        ((h = .endless ∧ (s'.budget = 0 ∨
            ∃ timeout, ⟨.poll fd direction timeout, Polled.never⟩ ∈ es)) ∨
          (∃ scope, w = .polling scope) ∧ fd = Waiter.noDescriptor ∧
            h = .faulted "fd != -1" none)) := by
  cases w with
  | polling scope =>
    unfold Waiter.wait
    dsimp only
    split
    · next hf =>
      exact Act.ensures_throw ⟨List.forall_mem_nil _, .inr ⟨⟨scope, rfl⟩, hf, rfl⟩⟩
    · exact (poll_ensures fd direction deadline s).mono
        (fun _ _ _ _ ⟨waits, asked⟩ => ⟨waits, fun got h => .inl (asked got h)⟩)
        fun _ _ _ _ ⟨waits, halt⟩ => ⟨waits, .inl halt⟩
  | scheduled notified =>
    unfold Waiter.wait
    refine Act.ensures_now ((call_ensures _ s).mono (fun es outcome _ _ one => ?_)
      fun es h s' _ ⟨silent, halt, spent⟩ => ?_)
    · subst one
      refine ⟨fun e he => by rw [List.mem_singleton.1 he]; rfl, fun got h => .inr ?_⟩
      subst h
      exact ⟨notified, _, rfl, List.mem_singleton.2 rfl⟩
    · subst silent
      exact ⟨List.forall_mem_nil _, .inl ⟨halt, .inl spent⟩⟩

/-- **What a channel does when a call would block moves no bytes**, and it is no exchange at all on
a descriptor that is always ready. -/
theorem mayRetry_ensures {c : Channel} (wf : c.WellFormed) (direction : Direction)
    (deadline : Deadline) (s : System κ) :
    (c.mayRetry direction deadline).Ensures s
      (fun es goOn _ => c.Waits es ∧ (c.kind.alwaysReady = true → goOn = true))
      (fun es h s' => c.Waits es ∧ c.MayHalt es h s') := by
  unfold Channel.mayRetry
  cases ready : c.kind.alwaysReady with
  | true => exact Act.ensures_pure ⟨List.forall_mem_nil _, fun _ => rfl⟩
  | false =>
    refine Act.ensures_bind (Act.ensures_leaving c ((wait_ensures c.waiter c.fd direction deadline
      s).mono (fun _ _ _ _ h => h) fun es h s' _ ⟨waits, halt⟩ =>
        ⟨fun e he => ⟨ready, waits e he⟩, ?_⟩)) fun es outcome s' _ ⟨waits, woken⟩ => ?_
    · rcases halt with ⟨rfl, spent | ⟨timeout, hm⟩⟩ | ⟨⟨scope, hw⟩, hf, rfl⟩
      · exact .spent spent
      · exact .never ready hm
      · exact .noDescriptor ready hw hf wf
    · have all : c.Waits es := fun e he => ⟨ready, waits e he⟩
      cases outcome with
      | timedOut => exact Act.ensures_pure ⟨by simpa using all, nofun⟩
      | ready got =>
        refine Act.ensures_require (fun _ => Act.ensures_pure ⟨by simpa using all, nofun⟩)
          fun hg j => ?_
        have other : got ≠ direction := of_decide_eq_false hg
        obtain asked | ⟨notified, left, hw, hm⟩ := woken got rfl
        · exact absurd asked other
        · rw [List.append_nil]
          exact ⟨all, .woken ready hw hm other⟩

end Waits

end BufferedChannels
