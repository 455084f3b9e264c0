import BufferedChannels.Proofs.CutShort
import BufferedChannels.Proofs.Timeliness

/-!
# Proofs/Ledger — what pays for the exchanges of a transfer

A `Ledger` gives every state of a host some **credit**.  A channel reads or writes on credit
(`Ledger.Reads`, `Ledger.Writes`) if an attempt takes credit for all of its exchanges but one, and a
call that would block takes it for the wait that follows as well.  So the exchanges of a transfer
are paid for by credit and by the bytes that it moves: each loop keeps the equation of its account,
and **a transfer stops for ever only for want of a budget**, of which it needs no more than is known
before it begins (`Ledger.run_pays`).  What a host keeps to may depend on how many bytes are still
to be read.
-/

namespace BufferedChannels

/-! ## Halts for ever, and others -/

/-- A transfer of a channel that need not wait, or that polls, halts for ever or because **it polls
no descriptor**. -/
theorem BrokenOff.endless_or_noDescriptor {κ : Type} {operation : Operation}
    {source : DeadlineSource} {c : Channel} {es : Dialogue} {h : Halt} {s : System κ}
    (broken : BrokenOff operation c es h s) (has : operation.deadline? = some source)
    (waits : c.kind.alwaysReady = true ∨ ∃ scope, c.waiter = .polling scope)
    (moderate : es.Moderate) :
    h = .endless ∨ c.kind.alwaysReady = false ∧ c.fd = Waiter.noDescriptor ∧
      ∃ left, left.WellFormed ∧ h = .faulted "fd != -1" (some left) := by
  rcases broken with halt | ⟨is | ⟨_, is⟩, _⟩
  · cases halt with
    | spent => exact .inl rfl
    | never => exact .inl rfl
    | noDescriptor slow _ none wf => exact .inr ⟨slow, none, _, wf, rfl⟩
    | woken slow scheduled =>
      rcases waits with ready | ⟨scope, polls⟩
      · exact absurd (slow.symm.trans ready) Bool.false_ne_true
      · exact nomatch polls.symm.trans scheduled
    | overfull mem excess => exact absurd (moderate _ mem) excess
  all_goals
    subst is
    cases has

/-! ## Asking until a reply counts -/

/-- **Every interruption takes some slack**, so slack pays for all calls of an attempt but the one
that counts.  `K` is what the host keeps to, `m` its slack, and `T` what a reply does with it. -/
theorem retry_takes {κ α : Type} [Host κ] {K : κ → Prop} {m : κ → Nat}
    {T : κ → κ → Except Errno α → Prop} {ask : Act κ (Except Errno α)}
    (interrupts : ∀ {k k' e}, T k k' (.error e) → e.recognized = .interrupted → K k' ∧ m k' < m k)
    (asks : ∀ s : System κ, K s.host → ask.Ensures s
      (fun es reply s' => es.length = 1 ∧ T s.host s'.host reply)
      (fun es h s' => es = [] ∧ Spent h s' ∧ s' = s)) (s : System κ) (keeps : K s.host) :
    (Act.loop (fun _ => return Attempt.ofReply (← ask)) ()).Ensures s
      (fun es outcome s' => ∃ k reply calls, es.length = calls + 1 ∧ calls + m k ≤ m s.host ∧
        T k s'.host reply ∧ Attempt.ofReply reply = .inr outcome)
      (fun es _ s' => s'.budget = 0 ∧ es.length + m s'.host ≤ m s.host) := by
  refine Act.ensures_loop (fun es _ s' => K s'.host ∧ es.length + m s'.host ≤ m s.host)
    ⟨keeps, Nat.le_of_eq (Nat.zero_add _)⟩ fun es _ s₁ _ ⟨keeps, paid⟩ => ?_
  refine Act.ensures_bind ((asks s₁ keeps).mono (fun _ _ _ _ h => h)
    fun es' h s₂ _ ⟨silent, spent, same⟩ => ?_) fun es' reply s₂ _ ⟨one, takes⟩ => ?_
  · subst silent same
    rw [List.append_nil]
    exact ⟨spent.2, paid⟩
  · refine Act.ensures_pure ?_
    have length : (es ++ (es' ++ [])).length = es.length + 1 := by
      rw [List.append_nil, List.length_append, one]
    cases said : Attempt.ofReply reply with
    | inl _ =>
      obtain ⟨e, rfl, interrupted⟩ := Attempt.ofReply_eq_inl said
      obtain ⟨keeps, less⟩ := interrupts takes interrupted
      refine ⟨?_, keeps, by omega⟩
      rw [List.append_nil, ← List.length_pos_iff]
      omega
    | inr outcome => exact ⟨s₁.host, reply, es.length, length, paid, takes, said⟩

/-! ## Ledgers -/

/-- **What pays for the exchanges of a transfer** that move nothing. -/
structure Ledger (κ : Type) where
  /-- What the host keeps to while so many bytes are to be read. -/
  Keeps : Nat → κ → Prop
  /-- How many more exchanges it may answer to no avail. -/
  credit : κ → Nat
  /-- What holds when a call in a direction would have to wait: the state before the attempt, its
  exchanges, the bytes that are to be read and the state after it. -/
  Stalls : Direction → κ → Dialogue → Nat → κ → Prop
  lower : ∀ {n m k}, Keeps n k → m ≤ n → Keeps m k

/-- The bytes that a read must not come back without, unless the stream ends. -/
def Operation.demand : Operation → Nat
  | .read len _ => len
  | .readBetween _ low _ _ => low
  | _ => 0

namespace Ledger

variable {κ : Type} (ℓ : Ledger κ)

/-- **How an attempt is paid for**: by credit, but for one exchange, and wholly when it succeeds to
no avail. -/
def Pays {α : Type} (size : α → Nat) (idle : α → Prop) (direction : Direction) (n : Nat)
    (k k' : κ) (es : Dialogue) : Attempt α → Prop
  | .moved a => ℓ.Keeps (n - size a) k' ∧ es.length + ℓ.credit k' ≤ ℓ.credit k + 1 ∧
      (idle a → es.length + ℓ.credit k' ≤ ℓ.credit k)
  | .mustWait => ℓ.Stalls direction k es n k'
  | .failed _ => ℓ.Keeps n k' ∧ es.length + ℓ.credit k' ≤ ℓ.credit k + 1

/-- **A halt that is for ever** is one for want of a budget, which credit and so many bytes paid. -/
def Halts (k : κ) (moved : Nat) (es : Dialogue) (h : Halt) (s : System κ) : Prop :=
  h = .endless → s.budget = 0 ∧ es.length + ℓ.credit s.host ≤ ℓ.credit k + moved

theorem halts_of_ne {k : κ} {moved : Nat} {es : Dialogue} {h : Halt} {s : System κ}
    (other : h ≠ .endless) : ℓ.Halts k moved es h s := fun is => absurd is other

variable {ℓ}

/-- What was paid before a halt, and may be paid after it, is paid with it. -/
theorem Halts.mono {k k' : κ} {moved moved' : Nat} {es es' : Dialogue} {h : Halt} {s : System κ}
    (halts : ℓ.Halts k' moved' es' h s)
    (paid : es'.length + ℓ.credit s.host ≤ ℓ.credit k' + moved' →
      es.length + ℓ.credit s.host ≤ ℓ.credit k + moved) : ℓ.Halts k moved es h s :=
  fun is => ⟨(halts is).1, paid (halts is).2⟩

/-- A halt for ever leaves no channel. -/
theorem Halts.leaving {k : κ} {moved : Nat} {es : Dialogue} {h : Halt} {s : System κ}
    (halts : ℓ.Halts k moved es h s) (c : Channel) : ℓ.Halts k moved es (h.leaving c) s := by
  rcases h with ⟨message, _ | left⟩ | _ | _
  · exact ℓ.halts_of_ne nofun
  all_goals exact halts

variable [Host κ] (ℓ)

/-- **A channel waits on credit**: the wait after a call that would block is paid for with the call,
but for two exchanges, and wholly when the channel goes on. -/
structure Waits (c : Channel) (direction : Direction) (deadline : Deadline) : Prop where
  retry : ∀ {c' : Channel}, c'.fd = c.fd → c'.kind = c.kind → c'.waiter = c.waiter →
    ∀ {n k es} (s : System κ), ℓ.Stalls direction k es n s.host →
      (c'.mayRetry direction deadline).Ensures s
        (fun ws goOn s' => ℓ.Keeps n s'.host ∧
          (es ++ ws).length + ℓ.credit s'.host ≤ ℓ.credit k + 2 ∧
          (goOn = true → (es ++ ws).length + ℓ.credit s'.host ≤ ℓ.credit k))
        (fun ws h s' => ℓ.Halts k 1 (es ++ ws) h s')

/-- **A channel reads on credit.** -/
structure Reads (c : Channel) (deadline : Deadline) : Prop
    extends ℓ.Waits c .readable deadline where
  read : ∀ {n len} (s : System κ), ℓ.Keeps n s.host → 0 < n → 0 < len →
    (Descriptor.read c.fd len).Ensures s
      (fun es outcome s' =>
        ℓ.Pays List.length (fun _ => False) .readable n s.host s'.host es outcome)
      (fun es h s' => ℓ.Halts s.host 0 es h s')

/-- **A channel writes on credit.** -/
structure Writes (c : Channel) (deadline : Deadline) : Prop
    extends ℓ.Waits c .writable deadline where
  write : ∀ {data} (s : System κ), ℓ.Keeps 0 s.host → data ≠ [] →
    (Descriptor.write c.fd data).Ensures s
      (fun es outcome s' =>
        ℓ.Pays (fun _ => 0) (fun n => n = 0) .writable 0 s.host s'.host es outcome)
      (fun es h s' => ℓ.Halts s.host 0 es h s')

variable {ℓ} {c c' : Channel} {deadline : Deadline}

/-! ## Reads -/

/-- **One read toward a need** is paid for as the attempt that it makes.  What it takes from the
stream is what is delivered, which may be more than the need. -/
theorem Reads.toward (reads : ℓ.Reads c deadline) (fd : c'.fd = c.fd) {n need : Nat} (some : 0 < n)
    (pos : 0 < need) (s : System κ) (keeps : ℓ.Keeps n s.host) :
    (c'.readToward need).Ensures s
      (fun es r s' => ℓ.Pays (fun _ => (es.delivered c.fd).length) (fun _ => False) .readable n
        s.host s'.host es r.1)
      (fun es h s' => ℓ.Halts s.host 0 es h s') := by
  have larger : 0 < max need c'.input.capacity := Nat.lt_of_lt_of_le pos (Nat.le_max_left _ _)
  have attempts (j : Log.Journal) : (Descriptor.read c'.fd (max need c'.input.capacity)).Ensures
      { s with journal := j }
      (fun es outcome s' => ℓ.Pays (fun _ => (es.delivered c.fd).length) (fun _ => False)
        .readable n s.host s'.host es outcome)
      (fun es h s' => ℓ.Halts s.host 0 es h s') := by
    rw [fd]
    refine ((reads.read { s with journal := j } keeps some larger).and
      (Descriptor.read_ensures c.fd _ _)).mono (fun es outcome s' _ ⟨paid, attempt⟩ => ?_)
      fun _ _ _ _ halts => halts.1
    cases outcome with
    | moved bytes =>
      have delivered : es.delivered c.fd = bytes := attempt.delivered
      exact delivered.symm ▸ paid
    | mustWait => exact paid
    | failed => exact paid
  refine (Channel.readToward_ensures_of_read attempts fun _ _ _ => ℓ.halts_of_ne nofun).mono
    (fun es r s' _ ⟨outcome, paid, alike⟩ => ?_) fun _ _ _ _ halts => halts
  obtain ⟨outcome', c''⟩ := r
  cases alike <;> exact paid

/-- **A turn of a read** is paid for by credit and by what it receives, and the turn that ends the
read but for two exchanges. -/
theorem Reads.turn (reads : ℓ.Reads c deadline) (wf : c.WellFormed) {len low high : Nat}
    (marks : low ≤ high) (fits : high ≤ len) {es : Dialogue} {received : Bytes}
    (h : c.Receiving low high es received c') {k : κ} {s : System κ}
    (keeps : ℓ.Keeps (low - received.length) s.host)
    (paid : es.length + ℓ.credit s.host ≤ ℓ.credit k + min received.length low) :
    (Channel.readTurn len low high deadline (received, c')).Ensures s
      (Act.turned (fun es x s' => ℓ.Keeps (low - x.1.length) s'.host ∧
          es.length + ℓ.credit s'.host ≤ ℓ.credit k + min x.1.length low)
        (fun es _ s' => ℓ.Keeps 0 s'.host ∧
          es.length + ℓ.credit s'.host ≤ ℓ.credit k + low + 1) es)
      (fun es' halt s' => ℓ.Halts k low (es ++ es') halt s') := by
  have toward (before : received.length < low) :
      (c'.readToward (high - received.length)).Ensures s
        (fun es' r s' => ℓ.Pays (fun _ => (es'.delivered c.fd).length) (fun _ => False) .readable
          (low - received.length) s.host s'.host es' r.1)
        (fun es' halt s' => ℓ.Halts k low (es ++ es') halt s') := by
    refine (reads.toward h.reread.fd (by omega) (by omega) s keeps).mono (fun _ _ _ _ h => h)
      fun es' halt s' _ halts => halts.mono fun account => ?_
    rw [List.length_append]
    omega
  have kept {n : Nat} {k' : κ} (keeps : ℓ.Keeps n k') : ℓ.Keeps 0 k' :=
    ℓ.lower keeps (Nat.zero_le n)
  refine Channel.readTurn_ensures_of_attempt wf marks fits h toward
    (fun _ => ⟨kept keeps, by omega⟩)
    (fun es' c'' s' before _ ⟨keeps, account, _⟩ => ⟨kept keeps, ?_⟩)
    (fun es' bytes c'' s' before some toward ⟨keeps, account, _⟩ => ⟨ℓ.lower keeps ?_, ?_⟩)
    (fun es' e c'' s' before _ ⟨keeps, account⟩ => ⟨kept keeps, ?_⟩)
    fun es' c'' s' _ before toward stalls => ?_
  · rw [List.length_append]
    omega
  · -- What is taken and not received is a surplus, with which nothing is left to be read.
    have delivered : es'.delivered c.fd = bytes ++ c''.input.live :=
      h.reread.fd ▸ toward.delivered
    show _ ≤ low - received.length - (es'.delivered c.fd).length
    rw [delivered, List.length_append, List.length_append]
    by_cases surplus : c''.input.live = []
    · rw [surplus, List.length_nil]
      omega
    · have met : bytes.length = high - received.length := toward.surplus surplus
      omega
  · -- A byte pays for the exchange that brought it.
    have brought : 0 < bytes.length := List.length_pos_iff.2 some
    rw [List.length_append, List.length_append]
    omega
  · rw [List.length_append]
    omega
  · have same := h.reread.trans toward.reread
    refine (reads.retry same.fd same.kind same.waiter s' stalls).mono
      (fun ws goOn t _ ⟨keeps, cost, well⟩ =>
        ⟨fun goesOn => ⟨keeps, ?_⟩, fun _ => ⟨kept keeps, ?_⟩⟩)
      fun ws halt t _ halts => halts.mono fun waited => ?_
    all_goals rw [List.length_append]
    · have := well goesOn
      dsimp only
      omega
    · omega
    · omega

/-- **A read is paid for** by credit and by the bytes up to its low mark. -/
theorem Reads.receive (reads : ℓ.Reads c deadline) (wf : c.WellFormed) {len low high : Nat}
    (marks : low ≤ high) (fits : high ≤ len) (s : System κ)
    (keeps : ℓ.Keeps (low - c.liveCount) s.host) : (c.receive len low high deadline).Ensures s
      (fun es _ s' => ℓ.Keeps 0 s'.host ∧
        es.length + ℓ.credit s'.host ≤ ℓ.credit s.host + low + 1)
      (fun es halt s' => ℓ.Halts s.host low es halt s') := by
  have buffered : c.input.live.length = c.liveCount := ReadAhead.length_live wf.input
  refine Channel.receive_ensures_of_begun wf marks fits
    (fun es x s' => ℓ.Keeps (low - x.1.length) s'.host ∧
      es.length + ℓ.credit s'.host ≤ ℓ.credit s.host + min x.1.length low)
    (fun _ _ _ => ⟨ℓ.lower keeps ?_, ?_⟩)
    (fun _ _ _ _ => ⟨ℓ.lower keeps (Nat.zero_le _), ?_⟩)
    fun _ _ _ _ h kept => reads.turn wf marks fits h kept.1 kept.2
  · rw [List.length_take]
    omega
  all_goals
    rw [List.length_nil]
    omega

theorem Reads.readBetween (reads : ℓ.Reads c deadline) (wf : c.WellFormed) (len low high : Nat)
    (s : System κ) (keeps : ℓ.Keeps (low - c.liveCount) s.host) :
    (c.readBetween len low high deadline).Ensures s
      (fun es _ s' => ℓ.Keeps 0 s'.host ∧
        es.length + ℓ.credit s'.host ≤ ℓ.credit s.host + low + 1)
      (fun es halt s' => ℓ.Halts s.host low es halt s') := by
  have silent : ([] : Dialogue).length + ℓ.credit s.host ≤ ℓ.credit s.host + low + 1 := by
    rw [List.length_nil]
    omega
  unfold Channel.readBetween
  split
  · exact Act.ensures_pure ⟨ℓ.lower keeps (Nat.zero_le _), silent⟩
  split
  · exact Act.ensures_pure ⟨ℓ.lower keeps (Nat.zero_le _), silent⟩
  · exact reads.receive wf (by omega) (by omega) s keeps

/-! ## Writes -/

/-- A channel whose writing side changed writes on the same credit. -/
theorem Writes.congr (writes : ℓ.Writes c deadline) (fd : c'.fd = c.fd) (kind : c'.kind = c.kind)
    (waiter : c'.waiter = c.waiter) : ℓ.Writes c' deadline where
  retry fd' kind' waiter' :=
    writes.retry (fd'.trans fd) (kind'.trans kind) (waiter'.trans waiter)
  write s keeps some := fd ▸ writes.write s keeps some

/-- **A turn of sending** is paid for by credit and by what it sends, and the turn that ends the
sending but for two exchanges. -/
theorem Writes.turn (writes : ℓ.Writes c deadline) {data : Bytes} {es : Dialogue} {sent : Nat}
    {k : κ} {s : System κ} (keeps : ℓ.Keeps 0 s.host)
    (paid : es.length + ℓ.credit s.host ≤ ℓ.credit k + min sent data.length) :
    (c.sendTurn data deadline sent).Ensures s
      (Act.turned (fun es n s' => ℓ.Keeps 0 s'.host ∧
          es.length + ℓ.credit s'.host ≤ ℓ.credit k + min n data.length)
        (fun es r s' => ℓ.Keeps 0 s'.host ∧
          es.length + ℓ.credit s'.host ≤ ℓ.credit k + min r.1 data.length + 2) es)
      (fun es' halt s' => ℓ.Halts k data.length (es ++ es') halt s') := by
  have attempts (before : sent < data.length) : (Descriptor.write c.fd (data.drop sent)).Ensures s
      (fun es' outcome s' => ℓ.Pays (fun _ => 0) (fun n => n = 0) .writable 0 s.host s'.host es'
        outcome)
      (fun es' halt s' => ℓ.Halts k data.length (es ++ es') halt s') := by
    refine (writes.write s keeps (mt List.drop_eq_nil_iff.1 (Nat.not_le.2 before))).mono
      (fun _ _ _ _ h => h) fun es' halt s' _ halts => halts.mono fun account => ?_
    rw [List.length_append]
    omega
  refine Channel.sendTurn_ensures_of_attempt attempts (fun _ => ⟨keeps, by dsimp only; omega⟩)
    (fun es' n s' before _ ⟨keeps, account, idle⟩ => ⟨keeps, ?_⟩)
    (fun es' e s' before _ ⟨keeps, account⟩ => ⟨keeps, ?_⟩)
    fun es' s' _ before _ stalls => ?_
  · -- What is sent pays for one exchange, and sending nothing takes credit.
    rw [List.length_append]
    rcases Nat.eq_zero_or_pos n with none | some
    · have := idle none
      omega
    · omega
  · rw [List.length_append]
    dsimp only
    omega
  · refine (writes.retry rfl rfl rfl s' stalls).mono (fun ws goOn t _ ⟨keeps, cost, well⟩ =>
      ⟨fun goesOn => ⟨keeps, ?_⟩, fun _ => ⟨keeps, ?_⟩⟩)
      fun ws halt t _ halts => halts.mono fun waited => ?_
    all_goals rw [List.length_append]
    · have := well goesOn
      omega
    · dsimp only
      omega
    · omega

/-- **Sending is paid for** by credit and by the bytes that it sends. -/
theorem Writes.send (writes : ℓ.Writes c deadline) (data : Bytes) (s : System κ)
    (keeps : ℓ.Keeps 0 s.host) : (c.send data deadline).Ensures s
      (fun es r s' => ℓ.Keeps 0 s'.host ∧
        es.length + ℓ.credit s'.host ≤ ℓ.credit s.host + min r.1 data.length + 2)
      (fun es halt s' => ℓ.Halts s.host data.length es halt s') :=
  Act.ensures_loop (fun es sent s' => ℓ.Keeps 0 s'.host ∧
    es.length + ℓ.credit s'.host ≤ ℓ.credit s.host + min sent data.length)
    ⟨keeps, by rw [List.length_nil]; omega⟩
    fun _ _ _ _ kept => writes.turn kept.1 kept.2

/-- **A flush is paid for** by credit and by the pending bytes that it sends. -/
theorem Writes.flush (writes : ℓ.Writes c deadline) (wf : c.WellFormed) (s : System κ)
    (keeps : ℓ.Keeps 0 s.host) : (c.flush deadline).Ensures s
      (fun es r s' => ℓ.Keeps 0 s'.host ∧ es.length + ℓ.credit s'.host + r.2.pendingCount ≤
        ℓ.credit s.host + c.pendingCount + 2)
      (fun es halt s' => ℓ.Halts s.host c.pendingCount es halt s') := by
  have pending : c.output.pending.length = c.pendingCount := WriteBehind.length_pending wf.output
  refine Channel.flush_ensures_of_send wf ((writes.send c.output.pending s keeps).mono
    (fun _ _ _ _ h => h) fun es halt s' _ halts => pending ▸ halts) (fun _ => ⟨keeps, ?_⟩)
    (fun es n c' s' j _ _ ⟨keeps, paid⟩ rewritten none => ⟨keeps, ?_⟩)
    fun es n e c' s' _ sent ⟨keeps, paid⟩ rewritten tail => ⟨keeps, ?_⟩
  · rw [List.length_nil]
    dsimp only
    omega
  all_goals
    have left : c'.output.pending.length = c'.pendingCount :=
      WriteBehind.length_pending rewritten.wellFormed
    dsimp only at paid ⊢
  · rw [none, List.length_nil] at left
    omega
  · obtain ⟨before, _⟩ := sent.failed e rfl
    rw [tail, List.length_drop] at left
    dsimp only at before
    omega

/-- **A write is paid for** by credit, by the pending bytes and by its data. -/
theorem Writes.accept (writes : ℓ.Writes c deadline) (wf : c.WellFormed) (data : Bytes)
    (s : System κ) (keeps : ℓ.Keeps 0 s.host) : (c.write data deadline).Ensures s
      (fun es r s' => ℓ.Keeps 0 s'.host ∧ es.length + ℓ.credit s'.host + r.2.pendingCount ≤
        ℓ.credit s.host + c.pendingCount + data.length + 4)
      (fun es halt s' => ℓ.Halts s.host (c.pendingCount + data.length + 2) es halt s') := by
  have counted {c₁ c' : Channel} (wf₁ : c₁.WellFormed) (rewritten : c₁.Rewritten c')
      (more : c'.output.pending = c₁.output.pending ++ data) :
      c'.pendingCount = c₁.pendingCount + data.length := by
    have total := congrArg List.length more
    rw [List.length_append, WriteBehind.length_pending rewritten.wellFormed,
      WriteBehind.length_pending wf₁.output] at total
    exact total
  refine Channel.write_ensures_of_ways wf ((writes.flush wf s keeps).mono
    (fun _ _ _ _ h => h) fun es halt s' _ halts => halts.mono fun paid => by omega)
    (fun c' _ rewritten more => ⟨keeps, ?_⟩)
    (fun es e c' s' _ _ ⟨keeps, paid⟩ => ⟨keeps, ?_⟩)
    (fun es c₁ c' s' _ flushed ⟨keeps, paid⟩ _ rewritten more => ⟨keeps, ?_⟩)
    fun es c₁ s' j _ _ flushed ⟨keeps, paid⟩ _ => ?_
  · have := counted wf rewritten more
    rw [List.length_nil]
    dsimp only
    omega
  all_goals dsimp only at paid ⊢
  · omega
  · have := counted (flushed.rewritten.toWellFormed wf) rewritten more
    omega
  · have same := flushed.rewritten
    refine ((writes.congr same.fd same.kind same.waiter).send data { s' with journal := j }
      keeps).mono (fun es' r t _ ⟨keeps, account⟩ => ⟨keeps, ?_⟩)
      fun es' halt t _ halts => halts.mono fun account => ?_
    all_goals
      rw [List.length_append]
      dsimp only at account
      omega

/-! ## Operations -/

/-- **A transfer is paid for** by credit, by the pending bytes and by what it is to move. -/
theorem run_pays {operation : Operation} {source : DeadlineSource}
    (has : operation.deadline? = some source) (wf : c.WellFormed) (s : System κ)
    (reads : ℓ.Reads c (source.madeAt (Host.now s.host)))
    (writes : ℓ.Writes c (source.madeAt (Host.now s.host)))
    (keeps : ℓ.Keeps (operation.demand - c.liveCount) s.host) : (operation.run c).Ensures s
      (fun es r s' => ℓ.Keeps 0 s'.host ∧ es.length + ℓ.credit s'.host + r.2.pendingCount ≤
        ℓ.credit s.host + c.pendingCount + operation.effort + 4)
      (fun es halt s' => ℓ.Halts s.host (c.pendingCount + operation.effort + 2) es halt s') := by
  have reading {act : Act κ (Reading × Channel)} {low effort : Nat} (le : low ≤ effort)
      (pays : act.Ensures s (fun es _ s' => ℓ.Keeps 0 s'.host ∧
          es.length + ℓ.credit s'.host ≤ ℓ.credit s.host + low + 1)
        (fun es halt s' => ℓ.Halts s.host low es halt s'))
      (handsOn : act.Ensures s (fun es r _ => c.HandsOn es r.1 r.2) (fun _ _ _ => True)) :
      act.Ensures s (fun es r s' => ℓ.Keeps 0 s'.host ∧
          es.length + ℓ.credit s'.host + r.2.pendingCount ≤
            ℓ.credit s.host + c.pendingCount + effort + 4)
        (fun es halt s' => ℓ.Halts s.host (c.pendingCount + effort + 2) es halt s') := by
    refine (pays.and handsOn).mono (fun es r s' _ ⟨⟨keeps, paid⟩, handsOn⟩ => ⟨keeps, ?_⟩)
      fun es halt s' _ ⟨halts, _⟩ => halts.mono fun paid => by omega
    have same : r.2.pendingCount = c.pendingCount := by
      rw [Channel.pendingCount, handsOn.reread.output]
      rfl
    omega
  rcases operation with ⟨len, source⟩ | ⟨len, low, high, source⟩ | ⟨data, source⟩ | source |
    _ | _ | _ | _ | _ | _ | _ | _
  all_goals cases has
  all_goals refine Act.ensures_bind_quiet (runOn_resolve _ s) (.refl s) (ensures_answer ?_)
  · -- `read`
    exact reading (Nat.le_refl _) (reads.receive wf (Nat.le_refl _) (Nat.le_refl _) s keeps)
      ((Channel.read_ensures wf len _ s).mono (fun _ _ _ _ h => h.toHandsOn)
        fun _ _ _ _ _ => trivial)
  · -- `readBetween`
    refine reading (Nat.le_refl _) (reads.readBetween wf len low high s keeps)
      ((Channel.readBetween_ensures wf len low high _ s).mono (fun _ _ _ _ done => ?_)
        fun _ _ _ _ _ => trivial)
    obtain ⟨_, _, received⟩ | ⟨_, refused⟩ := done
    · exact received.toHandsOn
    · exact refused.handsOn wf
  · -- `write`
    exact writes.accept wf data s (ℓ.lower keeps (Nat.zero_le _))
  · -- `flush`
    exact (writes.flush wf s (ℓ.lower keeps (Nat.zero_le _))).mono
      (fun _ _ _ _ ⟨keeps, paid⟩ => ⟨keeps, by dsimp only; omega⟩)
      fun _ _ _ _ halts => halts.mono fun paid => by omega

/-- **A transfer does not halt for ever** if its budget pays for what the ledger tells
beforehand. -/
theorem Halts.not_endless {k : κ} {moved : Nat} {es : Dialogue} {halt : Halt} {s s' : System κ}
    (halts : ℓ.Halts k moved es halt s') (enough : ℓ.credit k + moved < s.budget)
    (reaches : s.Reaches es s') : halt ≠ .endless := by
  intro is
  obtain ⟨spent, paid⟩ := halts is
  have budget := reaches.budget
  omega

/-- **A transfer returns** then, unless it polls no descriptor. -/
theorem returns [Host.Bounded κ] {operation : Operation} {source : DeadlineSource}
    (has : operation.deadline? = some source) (wf : c.WellFormed)
    (waits : c.kind.alwaysReady = true ∨ ∃ scope, c.waiter = .polling scope) (s : System κ)
    (reads : ℓ.Reads c (source.madeAt (Host.now s.host)))
    (writes : ℓ.Writes c (source.madeAt (Host.now s.host)))
    (keeps : ℓ.Keeps (operation.demand - c.liveCount) s.host)
    (enough : ℓ.credit s.host + (c.pendingCount + operation.effort + 2) < s.budget) :
    (operation.run c).Ensures s
      (fun es r s' => Performed operation c es r.1 r.2 ∧ ℓ.Keeps 0 s'.host ∧
        es.length + ℓ.credit s'.host + r.2.pendingCount ≤
          ℓ.credit s.host + c.pendingCount + operation.effort + 4)
      (fun _ halt _ => c.kind.alwaysReady = false ∧ c.fd = Waiter.noDescriptor ∧
        ∃ left, left.WellFormed ∧ halt = .faulted "fd != -1" (some left)) := by
  refine ((run_pays has wf s reads writes keeps).and (operation.run_ensures wf s)).mono
    (fun es r s' _ ⟨⟨keeps, paid⟩, performed⟩ => ⟨performed, keeps, paid⟩)
    fun es halt s' reaches ⟨halts, broken⟩ => ?_
  exact (broken.endless_or_noDescriptor has waits reaches.host.moderate).resolve_left
    (halts.not_endless enough reaches)

end Ledger

end BufferedChannels
