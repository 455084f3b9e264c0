import BufferedChannels.Proofs.Ledger

/-!
# Proofs/Meter — how long a host can keep a transfer busy

A `Meter` gives every state of a host a **slack**.  An interruption takes some, a call that would
have to wait takes some or finds its descriptor blocked, and no wait on a blocked descriptor ends
well without taking some.  So slack is credit for the exchanges of a transfer (`Meter.ledger`), and
**a transfer stops for ever only for want of a budget**, of which it needs no more than is known
before it begins (`Meter.run_pays`).
-/

namespace BufferedChannels

/-- **What a call takes of the slack**: an interruption takes some, one that would have to wait
takes some or finds the descriptor blocked, and so does one that succeeds to no avail. -/
def CallTakes {κ α : Type} (slack : κ → Nat) (blocked : κ → Prop) (idle : α → Prop) (k k' : κ) :
    Except Errno α → Prop
  | .ok a => slack k' ≤ slack k ∧ (idle a → slack k' < slack k)
  | .error e => slack k' ≤ slack k ∧ (e.recognized = .interrupted → slack k' < slack k) ∧
      (e.recognized = .wouldBlock → slack k' < slack k ∨ blocked k')

/-- **What a poll takes of the slack**: one that fails takes some, and so does one that finds a
blocked descriptor ready.  Only on a blocked descriptor and without a timeout it never ends. -/
def PollTakes {κ : Type} (slack : κ → Nat) (blocked keeps : κ → Prop) (timeout : Option Nat)
    (k k' : κ) : Polled → Prop
  | .ready => slack k' ≤ slack k ∧ (blocked k → slack k' < slack k)
  | .timedOut => slack k' ≤ slack k
  | .failed _ => slack k' < slack k
  | .never => timeout = none ∧ ∃ k₁, keeps k₁ ∧ blocked k₁

/-- How a poll was limited matters only where it never ends. -/
theorem PollTakes.endless {κ : Type} {slack : κ → Nat} {blocked keeps : κ → Prop}
    {limit? timeout : Option Nat} {k k' : κ} {reply : Polled}
    (h : PollTakes slack blocked keeps limit? k k' reply) (none : limit? = none → timeout = none) :
    PollTakes slack blocked keeps timeout k k' reply := by
  cases reply with
  | never => exact ⟨none h.1, h.2⟩
  | _ => exact h

/-- **What the word of a scheduler takes of the slack**: some, unless the wait timed out. -/
def WakeTakes {κ : Type} (slack : κ → Nat) (k k' : κ) : WaitOutcome → Prop
  | .ready _ => slack k' < slack k
  | .timedOut => slack k' ≤ slack k

/-- **A measure of how long a host can keep a transfer busy** on a descriptor. -/
structure Meter (κ : Type) [Host κ] (fd : Int) where
  /-- What the host keeps to. -/
  Keeps : κ → Prop
  /-- How often it may still interrupt a transfer or have it wait. -/
  slack : κ → Nat
  /-- Whether a transfer in a direction would have to wait. -/
  Blocks : Direction → κ → Prop
  read : ∀ k len, Keeps k → 0 < len → Keeps (Host.answer k (.read fd len)).2 ∧
    CallTakes slack (Blocks .readable) (fun _ : Bytes => False) k (Host.answer k (.read fd len)).2
      (Host.answer k (.read fd len)).1
  write : ∀ k data, Keeps k → data ≠ [] → Keeps (Host.answer k (.write fd data)).2 ∧
    CallTakes slack (Blocks .writable) (fun n : Nat => n = 0) k (Host.answer k (.write fd data)).2
      (Host.answer k (.write fd data)).1
  poll : ∀ k direction timeout, Keeps k → Keeps (Host.answer k (.poll fd direction timeout)).2 ∧
    PollTakes slack (Blocks direction) Keeps timeout k
      (Host.answer k (.poll fd direction timeout)).2 (Host.answer k (.poll fd direction timeout)).1
  wait : ∀ k direction left, Keeps k → Keeps (Host.answer k (.wait fd direction left)).2 ∧
    WakeTakes slack k (Host.answer k (.wait fd direction left)).2
      (Host.answer k (.wait fd direction left)).1

namespace Meter

variable {κ : Type} [Host κ] {fd : Int} (μ : Meter κ fd)

/-- **The ledger of a meter**: slack gives credit for three exchanges, of which a wait takes two. -/
def ledger (μ : Meter κ fd) : Ledger κ where
  Keeps _ := μ.Keeps
  credit k := 3 * μ.slack k
  Stalls direction k es _ k' := μ.Keeps k' ∧ (es.length + 2 + 3 * μ.slack k' ≤ 3 * μ.slack k ∨
    es.length + 3 * μ.slack k' ≤ 3 * μ.slack k + 1 ∧ μ.Blocks direction k')
  lower keeps _ := keeps

/-! ## Attempts -/

/-- **How an attempt is paid for**: by slack, and but for one exchange.  One that has to wait left
enough for the wait, or found the descriptor blocked. -/
def Pays {α : Type} (direction : Direction) (idle : α → Prop) (k k' : κ) (es : Dialogue) :
    Attempt α → Prop
  | .moved a => es.length + 3 * μ.slack k' ≤ 3 * μ.slack k + 1 ∧
      (idle a → es.length + 3 * μ.slack k' ≤ 3 * μ.slack k)
  | .mustWait => es.length + 2 + 3 * μ.slack k' ≤ 3 * μ.slack k ∨
      es.length + 3 * μ.slack k' ≤ 3 * μ.slack k + 1 ∧ μ.Blocks direction k'
  | .failed _ => es.length + 3 * μ.slack k' ≤ 3 * μ.slack k + 1

/-- **A halt that is for ever** is one for want of a budget, which slack and so many bytes paid. -/
def Halts (k : κ) (moved : Nat) (es : Dialogue) (h : Halt) (s : System κ) : Prop :=
  h = .endless → s.budget = 0 ∧ es.length + 3 * μ.slack s.host ≤ 3 * μ.slack k + moved

theorem halts_of_ne {k : κ} {moved : Nat} {es : Dialogue} {h : Halt} {s : System κ}
    (other : h ≠ .endless) : μ.Halts k moved es h s := fun is => absurd is other

/-- What was paid before a halt, and may be paid after it, is paid with it. -/
theorem Halts.mono {μ : Meter κ fd} {k k' : κ} {moved moved' : Nat} {es es' : Dialogue} {h : Halt}
    {s : System κ} (halts : μ.Halts k' moved' es' h s)
    (paid : es'.length + 3 * μ.slack s.host ≤ 3 * μ.slack k' + moved' →
      es.length + 3 * μ.slack s.host ≤ 3 * μ.slack k + moved) : μ.Halts k moved es h s :=
  fun is => ⟨(halts is).1, paid (halts is).2⟩

/-- **The call that counts** is paid for as an attempt, with the interrupted calls before it. -/
theorem pays_of_callTakes {μ : Meter κ fd} {α : Type} {direction : Direction} {idle : α → Prop}
    {k k₁ k' : κ} {es : Dialogue} {calls : Nat} {reply : Except Errno α} {outcome : Attempt α}
    (paid : calls + μ.slack k₁ ≤ μ.slack k)
    (takes : CallTakes μ.slack (μ.Blocks direction) idle k₁ k' reply)
    (length : es.length = calls + 1) (said : Attempt.ofReply reply = .inr outcome) :
    μ.Pays direction idle k k' es outcome := by
  cases outcome with
  | moved a =>
    obtain rfl := Attempt.ofReply_eq_moved said
    obtain ⟨le, less⟩ := takes
    refine ⟨by omega, fun idle => ?_⟩
    have := less idle
    omega
  | mustWait =>
    obtain ⟨e, rfl, blocked⟩ := Attempt.ofReply_eq_mustWait said
    obtain ⟨le, _, waits⟩ := takes
    refine (waits blocked).imp (fun less => ?_) fun blocks => ⟨?_, blocks⟩
    all_goals omega
  | failed x =>
    obtain ⟨e, rfl, _⟩ := Attempt.ofReply_eq_failed said
    have le := takes.1
    show es.length + 3 * μ.slack k' ≤ 3 * μ.slack k + 1
    omega

/-- **Asking until a reply counts** is paid for as an attempt. -/
theorem retry_pays {α : Type} {direction : Direction} {idle : α → Prop}
    {ask : Act κ (Except Errno α)}
    (asks : ∀ s, μ.Keeps s.host → ask.Ensures s
      (fun es reply s' => es.length = 1 ∧ μ.Keeps s'.host ∧
        CallTakes μ.slack (μ.Blocks direction) idle s.host s'.host reply)
      (fun es h s' => es = [] ∧ Spent h s' ∧ s' = s)) (s : System κ) (keeps : μ.Keeps s.host) :
    (Act.loop (fun _ => return Attempt.ofReply (← ask)) ()).Ensures s
      (fun es outcome s' => μ.Keeps s'.host ∧ μ.Pays direction idle s.host s'.host es outcome)
      (fun es h s' => μ.Halts s.host 0 es h s') := by
  refine (retry_takes (T := fun k k' reply => μ.Keeps k' ∧
    CallTakes μ.slack (μ.Blocks direction) idle k k' reply)
    (fun takes is => ⟨takes.1, takes.2.2.1 is⟩) asks s keeps).mono
    (fun es outcome s' _ ⟨k, reply, calls, length, paid, ⟨keeps, takes⟩, said⟩ =>
      ⟨keeps, pays_of_callTakes paid takes length said⟩)
    fun es h s' _ ⟨spent, paid⟩ _ => ⟨spent, by omega⟩

theorem read_pays {len : Nat} (pos : 0 < len) (s : System κ) (keeps : μ.Keeps s.host) :
    (Descriptor.read fd len).Ensures s
      (fun es outcome s' => μ.Keeps s'.host ∧
        μ.Pays .readable (fun _ => False) s.host s'.host es outcome)
      (fun es h s' => μ.Halts s.host 0 es h s') := by
  refine μ.retry_pays (fun s keeps => Act.ensures_exchange _ (fun s' _ host _ => ?_)
    fun spent => ⟨rfl, ⟨rfl, spent⟩, rfl⟩) s keeps
  rw [host]
  exact ⟨rfl, μ.read s.host len keeps pos⟩

theorem write_pays {data : Bytes} (some : data ≠ []) (s : System κ) (keeps : μ.Keeps s.host) :
    (Descriptor.write fd data).Ensures s
      (fun es outcome s' => μ.Keeps s'.host ∧
        μ.Pays .writable (fun n => n = 0) s.host s'.host es outcome)
      (fun es h s' => μ.Halts s.host 0 es h s') := by
  refine μ.retry_pays (fun s keeps => Act.ensures_exchange _ (fun s' _ host _ => ?_)
    fun spent => ⟨rfl, ⟨rfl, spent⟩, rfl⟩) s keeps
  rw [host]
  exact ⟨rfl, μ.write s.host data keeps some⟩

/-! ## Waits -/

/-- **How a wait is paid for**: by slack, but for one exchange, and wholly when it ends well on a
blocked descriptor. -/
def Waits (direction : Direction) (k k' : κ) (es : Dialogue) (woken : Bool) : Prop :=
  es.length + 3 * μ.slack k' ≤ 3 * μ.slack k + 1 ∧
    (woken = true → μ.Blocks direction k → es.length + 1 + 3 * μ.slack k' ≤ 3 * μ.slack k)

/-- **How interrupted polls are paid for**: each takes slack for three exchanges, of which two are
left over. -/
def Interrupts (k k' : κ) (es : Dialogue) : Prop :=
  es.length + μ.slack k' ≤ μ.slack k ∧ (es = [] → k' = k)

section Interrupts

variable {μ : Meter κ fd} {direction : Direction} {k k₁ k' : κ} {es es' : Dialogue}

/-- A wait may end with the next poll.  If that ends it well on a blocked descriptor, it takes slack
itself, or an interruption before it did. -/
theorem Interrupts.waits (h : μ.Interrupts k k₁ es) (one : es'.length = 1)
    (le : μ.slack k' ≤ μ.slack k₁) {woken : Bool}
    (less : woken = true → μ.Blocks direction k₁ → μ.slack k' < μ.slack k₁) :
    μ.Waits direction k k' (es ++ es') woken := by
  obtain ⟨paid, same⟩ := h
  rw [Waits, List.length_append, one]
  refine ⟨by omega, fun wakes blocked => ?_⟩
  rcases es with _ | ⟨e, es⟩
  · have := less wakes (same rfl ▸ blocked)
    rw [List.length_nil] at paid ⊢
    omega
  · rw [List.length_cons] at paid ⊢
    omega

/-- Or it goes on. -/
theorem Interrupts.again (h : μ.Interrupts k k₁ es) (one : es'.length = 1)
    (less : μ.slack k' < μ.slack k₁) : μ.Interrupts k k' (es ++ es') := by
  have length : (es ++ es').length = es.length + 1 := by rw [List.length_append, one]
  have paid := h.1
  refine ⟨by omega, fun none => ?_⟩
  rw [none] at length
  cases length

end Interrupts

/-- **Polling with a limit**, or where nothing blocks, comes to an end. -/
theorem poll_waits {direction : Direction} {deadline : Deadline}
    (ends : deadline.isNever = false ∨ ∀ k, μ.Keeps k → ¬ μ.Blocks direction k) (s : System κ)
    (keeps : μ.Keeps s.host) :
    (Act.loop (Waiter.pollTurn fd direction deadline) ()).Ensures s
      (fun es outcome s' => μ.Keeps s'.host ∧
        μ.Waits direction s.host s'.host es (outcome ≠ .timedOut))
      (fun es h s' => μ.Halts s.host 0 es h s') := by
  refine Act.ensures_loop (fun es _ s' => μ.Keeps s'.host ∧ μ.Interrupts s.host s'.host es)
    ⟨keeps, Nat.le_of_eq (Nat.zero_add _), fun _ => rfl⟩
    fun es _ s₁ _ ⟨keeps, before⟩ => ?_
  have timesOut {s' : System κ} {reply : Polled} (le : μ.slack s'.host ≤ μ.slack s₁.host) :
      μ.Waits direction s.host s'.host
        (es ++ [Waiter.pollAt fd direction deadline (Host.now s₁.host) reply])
        (WaitOutcome.timedOut ≠ .timedOut) := before.waits rfl le (by simp)
  refine Waiter.pollTurn_ensures (P := fun reply s' => μ.Keeps s'.host ∧
      PollTakes μ.slack (μ.Blocks direction) μ.Keeps
        ((deadline.left? (Host.now s₁.host)).map pollMilliseconds) s₁.host s'.host reply)
    (fun _ none _ => ⟨none, ?_⟩)
    (fun reply s' _ is host => ?_)
    (fun s' ⟨keeps, le, less⟩ => ⟨keeps, before.waits rfl le fun _ => less⟩)
    (fun s' ⟨keeps, le⟩ => ⟨keeps, timesOut le⟩)
    (fun s' ⟨_, noLimit, k₁, keeps₁, blocks⟩ => ?_)
    (fun e s' ⟨keeps, less⟩ _ _ => ⟨keeps, timesOut (Nat.le_of_lt less)⟩)
    (fun e s' ⟨keeps, less⟩ _ => ⟨keeps, before.again rfl less⟩)
    fun e s' j ⟨keeps, less⟩ _ => ⟨keeps, before.waits rfl (Nat.le_of_lt less) fun _ _ => less⟩
  · have paid := before.1
    rw [List.append_nil]
    show es.length + 3 * μ.slack s₁.host ≤ 3 * μ.slack s.host + 0
    omega
  · subst is
    rw [host]
    exact μ.poll s₁.host direction _ keeps
  · rcases ends with finite | free
    · obtain ⟨_ | instant⟩ := deadline
      · cases finite
      · cases noLimit
    · exact absurd blocks (free k₁ keeps₁)

/-- **What a channel relies on** when a call would have to wait: nothing blocks that is always
ready, and a poll comes to an end. -/
structure Endures (c : Channel) (direction : Direction) (deadline : Deadline) : Prop where
  stands : c.fd = fd
  ready : c.kind.alwaysReady = true → ∀ k, μ.Keeps k → ¬ μ.Blocks direction k
  polls : c.kind.alwaysReady = false → ∀ scope, c.waiter = .polling scope →
    deadline.isNever = false ∨ ∀ k, μ.Keeps k → ¬ μ.Blocks direction k

variable {μ} {c c' : Channel} {direction : Direction} {deadline : Deadline}

/-- Only descriptor, kind and waiter of the channel count. -/
theorem Endures.congr (h : μ.Endures c direction deadline) (same : c'.fd = c.fd)
    (kind : c'.kind = c.kind) (waiter : c'.waiter = c.waiter) :
    μ.Endures c' direction deadline where
  stands := same.trans h.stands
  ready := by
    rw [kind]
    exact h.ready
  polls := by
    rw [kind, waiter]
    exact h.polls

/-- **A scheduler's word** is paid for by the slack that it takes. -/
theorem scheduled_waits (μ : Meter κ fd) (notified : Bool) (direction : Direction)
    (deadline : Deadline) (s : System κ) (keeps : μ.Keeps s.host) :
    ((Waiter.scheduled notified).wait fd direction deadline).Ensures s
      (fun es outcome s' => μ.Keeps s'.host ∧
        μ.Waits direction s.host s'.host es (outcome ≠ .timedOut))
      (fun es h s' => μ.Halts s.host 0 es h s') := by
  refine Act.ensures_now ((Act.ensures_exchange (.wait fd direction _)
    (R := fun es (outcome : WaitOutcome) s' => es.length = 1 ∧ μ.Keeps s'.host ∧
      WakeTakes μ.slack s.host s'.host outcome) (fun s' _ host _ => ?_) fun spent => ?_).mono
    (fun es outcome s' _ ⟨one, keeps, takes⟩ => ⟨keeps, ?_⟩) fun _ _ _ _ halts => halts)
  · rw [host]
    exact ⟨rfl, μ.wait s.host direction _ keeps⟩
  · exact fun _ => ⟨spent, by rw [List.length_nil]; omega⟩
  · cases outcome with
    | ready got =>
      have less : μ.slack s'.host < μ.slack s.host := takes
      exact ⟨by omega, fun _ _ => by omega⟩
    | timedOut =>
      have le : μ.slack s'.host ≤ μ.slack s.host := takes
      exact ⟨by omega, by simp⟩

/-- **The wait of a channel** that is not always ready. -/
theorem Endures.wait (h : μ.Endures c direction deadline) (slow : c.kind.alwaysReady = false)
    (s : System κ) (keeps : μ.Keeps s.host) :
    (c.waiter.wait fd direction deadline).Ensures s
      (fun es outcome s' => μ.Keeps s'.host ∧
        μ.Waits direction s.host s'.host es (outcome ≠ .timedOut))
      (fun es h s' => μ.Halts s.host 0 es h s') := by
  cases waits : c.waiter with
  | polling scope =>
    unfold Waiter.wait
    dsimp only
    split
    · exact Act.ensures_throw (μ.halts_of_ne nofun)
    · exact μ.poll_waits (h.polls slow scope waits) s keeps
  | scheduled notified => exact μ.scheduled_waits notified direction deadline s keeps

/-- **What a channel does when a call would block** comes to an end and is paid for. -/
theorem Endures.mayRetry (h : μ.Endures c direction deadline) (s : System κ)
    (keeps : μ.Keeps s.host) : (c.mayRetry direction deadline).Ensures s
      (fun es goOn s' => μ.Keeps s'.host ∧ μ.Waits direction s.host s'.host es goOn)
      (fun es h s' => μ.Halts s.host 0 es h s') := by
  cases slow : c.kind.alwaysReady with
  | true =>
    unfold Channel.mayRetry
    rw [slow]
    refine Act.ensures_pure ⟨keeps, ?_, fun _ blocks => absurd blocks (h.ready slow _ keeps)⟩
    rw [List.length_nil]
    omega
  | false =>
    refine Channel.mayRetry_ensures_of_wait slow ?_ fun _ _ => μ.halts_of_ne nofun
    rw [h.stands]
    exact (h.wait slow s keeps).mono (fun _ _ _ _ h => h)
      fun es halt t _ halts => Ledger.Halts.leaving (ℓ := μ.ledger) halts c

/-- **A call that would block and what follows it** are paid for together: by slack but for two
exchanges, and wholly when the channel goes on. -/
theorem Endures.mayRetry_pays (h : μ.Endures c direction deadline) {α : Type} {idle : α → Prop}
    {k : κ} {es : Dialogue} (s : System κ) (keeps : μ.Keeps s.host)
    (account : μ.Pays direction idle k s.host es .mustWait) :
    (c.mayRetry direction deadline).Ensures s
      (fun ws goOn s' => μ.Keeps s'.host ∧
        (es ++ ws).length + 3 * μ.slack s'.host ≤ 3 * μ.slack k + 2 ∧
        (goOn = true → (es ++ ws).length + 3 * μ.slack s'.host ≤ 3 * μ.slack k))
      (fun ws h s' => μ.Halts k 1 (es ++ ws) h s') := by
  refine (h.mayRetry s keeps).mono (fun ws goOn s' _ ⟨keeps, cost, well⟩ => ⟨keeps, ?_⟩)
    fun ws halt s' _ halts => halts.mono fun waited => ?_
  · rw [List.length_append]
    rcases account with account | ⟨account, blocks⟩
    · omega
    · refine ⟨by omega, fun goesOn => ?_⟩
      have := well goesOn blocks
      omega
  · rw [List.length_append]
    rcases account with account | ⟨account, _⟩ <;> omega

/-! ## Transfers -/

/-- **An attempt that slack pays for** is in the ledger, whatever it moves. -/
theorem Pays.ledger {α : Type} {size : α → Nat} {idle : α → Prop} {n : Nat} {k k' : κ}
    {es : Dialogue} {outcome : Attempt α} (keeps : μ.Keeps k')
    (pays : μ.Pays direction idle k k' es outcome) :
    μ.ledger.Pays size idle direction n k k' es outcome := by
  cases outcome <;> exact ⟨keeps, pays⟩

namespace Endures

/-- What a channel relies on has its waits paid for, and so its reads and its writes. -/
theorem waits (h : μ.Endures c direction deadline) : μ.ledger.Waits c direction deadline where
  retry {_} fd kind waiter {_ _ _} s stalls := by
    have account : μ.Pays direction (fun _ : Unit => False) _ s.host _ .mustWait := stalls.2
    exact (h.congr fd kind waiter).mayRetry_pays s stalls.1 account

theorem reads (h : μ.Endures c .readable deadline) : μ.ledger.Reads c deadline where
  toWaits := h.waits
  read s keeps _ pos := by
    rw [h.stands]
    exact (μ.read_pays pos s keeps).mono (fun _ _ _ _ ⟨keeps, pays⟩ => pays.ledger keeps)
      fun _ _ _ _ halts => halts

theorem writes (h : μ.Endures c .writable deadline) : μ.ledger.Writes c deadline where
  toWaits := h.waits
  write s keeps some := by
    rw [h.stands]
    exact (μ.write_pays some s keeps).mono (fun _ _ _ _ ⟨keeps, pays⟩ => pays.ledger keeps)
      fun _ _ _ _ halts => halts

end Endures

/-- **A read is paid for** by slack and by the bytes up to its low mark. -/
theorem readBetween_pays (wf : c.WellFormed) (len low high : Nat)
    (endures : μ.Endures c .readable deadline) (s : System κ) (keeps : μ.Keeps s.host) :
    (c.readBetween len low high deadline).Ensures s
      (fun es _ s' => μ.Keeps s'.host ∧
        es.length + 3 * μ.slack s'.host ≤ 3 * μ.slack s.host + low + 1)
      (fun es halt s' => μ.Halts s.host low es halt s') :=
  endures.reads.readBetween wf len low high s keeps

/-- **A flush is paid for** by slack and by the pending bytes that it sends. -/
theorem flush_pays (wf : c.WellFormed) (endures : μ.Endures c .writable deadline) (s : System κ)
    (keeps : μ.Keeps s.host) : (c.flush deadline).Ensures s
      (fun es r s' => μ.Keeps s'.host ∧ es.length + 3 * μ.slack s'.host + r.2.pendingCount ≤
        3 * μ.slack s.host + c.pendingCount + 2)
      (fun es halt s' => μ.Halts s.host c.pendingCount es halt s') :=
  endures.writes.flush wf s keeps

/-- **A transfer is paid for** by slack, by the pending bytes and by what it is to move. -/
theorem run_pays {operation : Operation} {source : DeadlineSource}
    (has : operation.deadline? = some source) (wf : c.WellFormed) (s : System κ)
    (endures : ∀ direction, μ.Endures c direction (source.madeAt (Host.now s.host)))
    (keeps : μ.Keeps s.host) : (operation.run c).Ensures s
      (fun es r s' => μ.Keeps s'.host ∧ es.length + 3 * μ.slack s'.host + r.2.pendingCount ≤
        3 * μ.slack s.host + c.pendingCount + operation.effort + 4)
      (fun es halt s' => μ.Halts s.host (c.pendingCount + operation.effort + 2) es halt s') :=
  Ledger.run_pays has wf s (endures _).reads (endures _).writes keeps

/-- **A transfer does not halt for ever** if its budget pays for what the meter tells beforehand. -/
theorem Halts.not_endless {k : κ} {moved : Nat} {es : Dialogue} {halt : Halt} {s s' : System κ}
    (halts : μ.Halts k moved es halt s') (enough : 3 * μ.slack k + moved < s.budget)
    (reaches : s.Reaches es s') : halt ≠ .endless :=
  Ledger.Halts.not_endless (ℓ := μ.ledger) halts enough reaches

/-- **A transfer returns** then, unless it polls no descriptor. -/
theorem returns [Host.Bounded κ] {operation : Operation} {source : DeadlineSource}
    (has : operation.deadline? = some source) (wf : c.WellFormed)
    (waits : c.kind.alwaysReady = true ∨ ∃ scope, c.waiter = .polling scope) (s : System κ)
    (endures : ∀ direction, μ.Endures c direction (source.madeAt (Host.now s.host)))
    (keeps : μ.Keeps s.host)
    (enough : 3 * μ.slack s.host + (c.pendingCount + operation.effort + 2) < s.budget) :
    (operation.run c).Ensures s
      (fun es r s' => Performed operation c es r.1 r.2 ∧ μ.Keeps s'.host ∧
        es.length + 3 * μ.slack s'.host + r.2.pendingCount ≤
          3 * μ.slack s.host + c.pendingCount + operation.effort + 4)
      (fun _ halt _ => c.kind.alwaysReady = false ∧ c.fd = Waiter.noDescriptor ∧
        ∃ left, left.WellFormed ∧ halt = .faulted "fd != -1" (some left)) :=
  Ledger.returns has wf waits s (endures _).reads (endures _).writes keeps enough

end Meter

end BufferedChannels
