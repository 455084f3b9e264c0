import BufferedChannels.Proofs.Delays

/-!
# Proofs/Breach — what a broken stream does with calls and waits

A broken stream is **always ready**, so no wait on it lasts: a poll ends at once or takes a word of
the script.  Nothing can be written to it for good, and what can be read from it is what lies there
unread; only when that is gone, and the other end did not hang up, a read would have to wait
(`Breached`).  As long as a transfer does not come to that point, **each of its exchanges is paid
for** by a word of the script or by a byte that it moves, and so it returns, whatever its deadline.
-/

namespace BufferedChannels

namespace Simulation

/-- **A broken stream** from which, unless it hung up, so many bytes at least can be read. -/
structure Stream.Breached (stream : Stream) (stock : Nat) : Prop where
  broken : stream.broken = true
  unread : stream.hungUp = false → stock ≤ stream.unread.length

namespace Kernel

variable {fd : Int} {path : String} {stock less : Nat} {k k' : Kernel}

/-! ## What is in store -/

/-- An event takes nothing from the store of a node. -/
theorem inStore_befall (k : Kernel) (s : Stimulus) (path : String) :
    (k.befall s).inStore path = k.inStore path := by
  unfold Kernel.befall
  split
  · next node found =>
    by_cases here : s.node = path
    · subst here
      exact Nat.add_right_cancel (inStore_setNode found (s.apply node))
    · rw [inStore, node?_setNode, if_neg (Ne.symm here)]
      rfl
  · rfl

theorem inStore_befallAll (due : List (Nat × Stimulus)) (k : Kernel) (path : String) :
    (due.foldl (fun k event => k.befall event.2) k).inStore path = k.inStore path := by
  induction due generalizing k with
  | nil => rfl
  | cons event rest ih => exact (ih _).trans (inStore_befall k event.2 path)

/-- The clock moves past events, or past nothing. -/
theorem inStore_advanceTo_le (k : Kernel) (instant : Nat) (path : String) :
    (k.advanceTo instant).inStore path ≤ k.inStore path := by
  unfold Kernel.advanceTo
  dsimp only
  rw [inStore_befallAll]
  have fewer : (k.events.dropWhile fun event => event.1 ≤ max k.clock instant).length ≤
    k.events.length := (List.dropWhile_sublist _).length_le
  exact Nat.add_le_add_right (Nat.add_le_add_left fewer _) _

/-! ## A broken stream behind a descriptor -/

/-- **A descriptor stands on a broken stream**, from which so many bytes can be read. -/
structure Breached (k : Kernel) (fd : Int) (path : String) (stock : Nat) : Prop where
  opened : ∃ file, k.descriptors.lookup fd = some file ∧ file.node = path
  stored : ∃ stream script, k.node? path = some { body := .stream stream, script } ∧
    stream.Breached stock

namespace Breached

/-- Who can read more can read less. -/
theorem le (h : k.Breached fd path stock) (le : less ≤ stock) : k.Breached fd path less := by
  obtain ⟨opened, stream, script, stored, broken, unread⟩ := h
  exact ⟨opened, stream, script, stored, broken, fun on => Nat.le_trans le (unread on)⟩

/-- Another stream in its place. -/
theorem setNode (h : k.Breached fd path stock) {stream : Stream} (broken : stream.Breached less)
    (script : List (CallKind × Adjustment)) :
    (k.setNode path { body := .stream stream, script }).Breached fd path less :=
  ⟨h.opened, stream, script, by rw [node?_setNode, if_pos rfl], broken⟩

/-- **An event mends nothing** and takes no byte away. -/
theorem befall (h : k.Breached fd path stock) (s : Stimulus) :
    (k.befall s).Breached fd path stock := by
  unfold Kernel.befall
  split
  · next node found =>
    obtain ⟨opened, stream, script, stored, broken, unread⟩ := h
    by_cases here : s.node = path
    · subst here
      obtain rfl := Option.some.inj (stored.symm.trans found)
      refine ⟨opened, _, script, by rw [node?_setNode, if_pos rfl]; rfl, ?_, fun on => ?_⟩
      · exact Bool.or_eq_true_iff.2 (.inl broken)
      · have before := unread (Bool.or_eq_false_iff.1 on).1
        rw [List.length_append]
        exact Nat.le_add_right_of_le before
    · refine ⟨opened, stream, script, ?_, broken, unread⟩
      rw [node?_setNode, if_neg (Ne.symm here), stored]
  · exact h

theorem befallAll (h : k.Breached fd path stock) (due : List (Nat × Stimulus)) :
    (due.foldl (fun k event => k.befall event.2) k).Breached fd path stock := by
  induction due generalizing k with
  | nil => exact h
  | cons event rest ih => exact ih (h.befall event.2)

/-- Time mends nothing. -/
theorem advanceTo (h : k.Breached fd path stock) (instant : Nat) :
    (k.advanceTo instant).Breached fd path stock := by
  have later (clock : Nat) (events : List (Nat × Stimulus)) :
      Breached { k with clock, events } fd path stock := ⟨h.opened, h.stored⟩
  unfold Kernel.advanceTo
  exact (later _ _).befallAll _

/-- **The script has its word**, which is then no longer in store. -/
theorem consult (h : k.Breached fd path stock) (kind : CallKind) :
    (k.consult path kind).2.Breached fd path stock ∧
      (k.consult path kind).2.inStore path ≤ k.inStore path ∧
      ((k.consult path kind).1 ≠ {} → (k.consult path kind).2.inStore path < k.inStore path) := by
  obtain ⟨stream, script, stored, broken⟩ := h.stored
  have there := h.setNode broken (takeAdjustment kind script).2
  have count := inStore_setNode stored ⟨.stream stream, (takeAdjustment kind script).2⟩
  have slept := inStore_advanceTo_le
    (k.setNode path ⟨.stream stream, (takeAdjustment kind script).2⟩)
    (k.clock + (takeAdjustment kind script).1.delay) path
  rw [consult_of_node stored]
  dsimp only at count
  obtain none | ⟨_, fewer⟩ := (takeAdjustment_spec kind script).1
  · have same : (takeAdjustment kind script).2 = script := congrArg Prod.snd none
    refine ⟨there.advanceTo _, Nat.le_trans slept ?_, fun word => absurd ?_ word⟩
    · rw [same] at count ⊢
      omega
    · exact congrArg Prod.fst none
  · have spent := Nat.lt_of_add_lt_add_right (count ▸ Nat.add_lt_add_left fewer _)
    exact ⟨there.advanceTo _, Nat.le_of_lt (Nat.lt_of_le_of_lt slept spent),
      fun _ => Nat.lt_of_le_of_lt slept spent⟩

/-- **A call on the descriptor**: the script has it fail, or it does what it does to the stream. -/
theorem onDescriptor {α : Type} (h : k.Breached fd path stock) (kind : CallKind)
    (act : Kernel → OpenFile → Body → Option Nat → Except Errno α × Kernel) :
    ∃ k₁, k₁.Breached fd path stock ∧ k₁.inStore path ≤ k.inStore path ∧
      ((∃ x, k.onDescriptor fd kind act = (.error x, k₁) ∧ k₁.inStore path < k.inStore path) ∨
        ∃ file stream script max?, file.node = path ∧
          k₁.node? path = some { body := .stream stream, script } ∧ stream.Breached stock ∧
          k.onDescriptor fd kind act = act k₁ file (.stream stream) max?) := by
  obtain ⟨file, found, rfl⟩ := h.opened
  obtain ⟨there, le, word⟩ := h.consult kind
  refine ⟨_, there, le, ?_⟩
  unfold Kernel.onDescriptor
  rw [found]
  dsimp only
  cases errno : (k.consult file.node kind).1.errno? with
  | some x => exact .inl ⟨x, rfl, word (Adjustment.ne_none errno)⟩
  | none =>
    obtain ⟨stream, script, stored, broken⟩ := there.stored
    exact .inr ⟨file, stream, script, _, rfl, stored, broken, by rw [stored]⟩

end Breached

/-! ## Calls and polls -/

/-- **What a call leaves of a broken stream**: a success may take bytes, and a failure that asks for
another call takes a word of the script. -/
def Weathers {α : Type} (fd : Int) (path : String) (stock : Nat) (size : α → Nat) (k k' : Kernel) :
    Except Errno α → Prop
  | .ok a => k'.inStore path ≤ k.inStore path ∧ k'.Breached fd path (stock - size a)
  | .error e => k'.Breached fd path stock ∧ k'.inStore path ≤ k.inStore path ∧
      (e.recognized = .interrupted ∨ e.recognized = .wouldBlock →
        k'.inStore path < k.inStore path)

/-- A refusal for good takes nothing. -/
theorem weathers_of_refused {α : Type} {size : α → Nat} {e : Errno}
    (there : k'.Breached fd path stock) (le : k'.inStore path ≤ k.inStore path)
    (final : e.recognized ≠ .interrupted ∧ e.recognized ≠ .wouldBlock) :
    Weathers fd path stock size k k' (.error e) :=
  ⟨there, le, fun again => absurd again (not_or.2 final)⟩

/-- A failure by a word of the script takes the word. -/
theorem weathers_of_word {α : Type} {size : α → Nat} {e : Errno}
    (there : k'.Breached fd path stock) (word : k'.inStore path < k.inStore path) :
    Weathers fd path stock size k k' (.error e) :=
  ⟨there, Nat.le_of_lt word, fun _ => word⟩

/-- **A read takes what is unread**; as long as something is, it does not have to wait unless the
script says so. -/
theorem Breached.read (h : k.Breached fd path stock) (some : 0 < stock) (len : Nat) :
    Weathers fd path stock List.length k (k.read fd len).2 (k.read fd len).1 := by
  unfold Kernel.read
  obtain ⟨k₁, there, le, ⟨x, run, word⟩ |
    ⟨file, stream, script, max?, node, stored, broken, run⟩⟩ := h.onDescriptor .read _
  all_goals rw [run]
  · exact weathers_of_word there word
  dsimp only
  split
  · exact weathers_of_refused there le (by decide)
  split
  · next empty =>
    split
    · exact ⟨le, there.le (Nat.sub_le _ _)⟩
    · next on =>
      -- There is something to read, so the stream is not empty.
      have unread := broken.unread (Bool.eq_false_iff.2 on)
      have none : stream.unread = [] := by simp_all
      rw [none, List.length_nil] at unread
      omega
  · subst node
    rw [setBody_of_node stored]
    have same := Nat.add_right_cancel (inStore_setNode stored
      ⟨.stream { stream with unread := stream.unread.drop (limited len max?) }, script⟩)
    have left : Stream.Breached { stream with unread := stream.unread.drop (limited len max?) }
        (stock - (stream.unread.take (limited len max?)).length) := by
      refine ⟨broken.broken, fun on => ?_⟩
      have unread : stock ≤ stream.unread.length := broken.unread on
      rw [List.length_take, List.length_drop]
      omega
    exact ⟨Nat.le_trans (Nat.le_of_eq same) le, there.setNode left script⟩

/-- **A write fails for good**, but for standard error, which takes all of its data. -/
theorem Breached.write (h : k.Breached fd path stock) (data : Bytes) :
    Weathers fd path stock (fun _ : Nat => 0) k (k.write fd data).2 (k.write fd data).1 ∧
      ∀ n, (k.write fd data).1 = .ok n → n = data.length := by
  unfold Kernel.write
  split
  · exact ⟨⟨Nat.le_refl _, h⟩, fun n is => (Except.ok.inj is).symm⟩
  unfold Kernel.writeNode
  obtain ⟨k₁, there, le, ⟨x, run, word⟩ | ⟨file, stream, script, max?, _, stored, broken, run⟩⟩ :=
    h.onDescriptor .write _
  all_goals rw [run]
  · exact ⟨weathers_of_word there word, nofun⟩
  dsimp only
  split
  · exact ⟨weathers_of_refused there le (by decide), nofun⟩
  rw [if_pos broken.broken]
  exact ⟨weathers_of_refused there le (by decide), nofun⟩

/-- **A poll ends at once**, or it takes a word of the script. -/
theorem Breached.poll (h : k.Breached fd path stock) (direction : Direction)
    (timeout : Option Nat) :
    (k.poll fd direction timeout).2.Breached fd path stock ∧
      (k.poll fd direction timeout).2.inStore path ≤ k.inStore path ∧
      ((k.poll fd direction timeout).1 = .ready ∨
        (∃ x, (k.poll fd direction timeout).1 = .failed x) ∧
          (k.poll fd direction timeout).2.inStore path < k.inStore path) := by
  obtain ⟨file, found, rfl⟩ := h.opened
  obtain ⟨there, le, word⟩ := h.consult .poll
  unfold Kernel.poll
  rw [found]
  dsimp only
  cases errno : (k.consult file.node .poll).1.errno? with
  | some x => exact ⟨there, le, .inr ⟨⟨x, rfl⟩, word (Adjustment.ne_none errno)⟩⟩
  | none =>
    obtain ⟨stream, script, stored, broken⟩ := there.stored
    have ready : ((k.consult file.node .poll).2.node? file.node).all
        (fun node => node.body.isReady direction) = true := by
      rw [stored]
      simp [Body.isReady, broken.broken]
    unfold Kernel.awaitNode
    dsimp only
    rw [if_pos ready]
    exact ⟨there, le, .inl rfl⟩

/-! ## What pays for transfers -/

/-- **The ledger of a broken stream**: a word of the script gives credit for two exchanges, the call
that it has fail and a poll. -/
def breachLedger (fd : Int) (path : String) : Ledger Kernel where
  Keeps n k := k.Breached fd path n
  credit k := 2 * k.inStore path
  Stalls _ k es n k' := k'.Breached fd path n ∧
    es.length + 1 + 2 * k'.inStore path ≤ 2 * k.inStore path
  lower := Breached.le

/-- **Asking until a reply counts** is paid for as an attempt: only words of the script interrupt it
or have it wait. -/
theorem retry_weathers {α : Type} {size : α → Nat} {idle : α → Prop} {direction : Direction}
    {n : Nat} {ask : Act Kernel (Except Errno α)}
    (asks : ∀ s : System Kernel, s.host.Breached fd path n → ask.Ensures s
      (fun es reply s' => es.length = 1 ∧ Weathers fd path n size s.host s'.host reply ∧
        ∀ a, reply = .ok a → ¬ idle a)
      (fun es h s' => es = [] ∧ Spent h s' ∧ s' = s))
    (s : System Kernel) (there : s.host.Breached fd path n) :
    (Act.loop (fun _ => return Attempt.ofReply (← ask)) ()).Ensures s
      (fun es outcome s' => (breachLedger fd path).Pays size idle direction n s.host s'.host es
        outcome)
      (fun es h s' => (breachLedger fd path).Halts s.host 0 es h s') := by
  refine (retry_takes (K := fun k => k.Breached fd path n) (m := fun k => k.inStore path)
    (T := fun k k' reply => Weathers fd path n size k k' reply ∧ ∀ a, reply = .ok a → ¬ idle a)
    (fun takes is => ⟨takes.1.1, takes.1.2.2 (.inl is)⟩) asks s there).mono
    (fun es outcome s' _ ⟨k, reply, calls, length, paid, ⟨weathers, busy⟩, said⟩ => ?_)
    fun es h s' _ ⟨spent, paid⟩ _ => ⟨spent, ?_⟩
  · rcases outcome with a | _ | x
    · obtain rfl := Attempt.ofReply_eq_moved said
      obtain ⟨le, there⟩ := weathers
      refine ⟨there, ?_, fun none => absurd none (busy a rfl)⟩
      show _ + 2 * s'.host.inStore path ≤ 2 * s.host.inStore path + 1
      omega
    · obtain ⟨e, rfl, blocked⟩ := Attempt.ofReply_eq_mustWait said
      obtain ⟨there, _, word⟩ := weathers
      have less := word (.inr blocked)
      exact ⟨there, by omega⟩
    · obtain ⟨e, rfl, _⟩ := Attempt.ofReply_eq_failed said
      obtain ⟨there, le, _⟩ := weathers
      refine ⟨there, ?_⟩
      show _ + 2 * s'.host.inStore path ≤ 2 * s.host.inStore path + 1
      omega
  · show es.length + 2 * s'.host.inStore path ≤ 2 * s.host.inStore path + 0
    omega

/-- **A wait comes to an end** with its first poll that no word of the script interrupts. -/
theorem poll_weathers (direction : Direction) (deadline : Deadline) (s : System Kernel) {n : Nat}
    (there : s.host.Breached fd path n) :
    (Act.loop (Waiter.pollTurn fd direction deadline) ()).Ensures s
      (fun es _ s' => s'.host.Breached fd path n ∧
        es.length + 2 * s'.host.inStore path ≤ 2 * s.host.inStore path + 1)
      (fun es h s' => (breachLedger fd path).Halts s.host 0 es h s') := by
  refine Act.ensures_loop (fun es _ s' => s'.host.Breached fd path n ∧
    es.length + s'.host.inStore path ≤ s.host.inStore path)
    ⟨there, Nat.le_of_eq (Nat.zero_add _)⟩ fun es _ s₁ _ ⟨there, paid⟩ => ?_
  have length (reply : Polled) :
      (es ++ [Waiter.pollAt fd direction deadline (Host.now s₁.host) reply]).length =
        es.length + 1 := List.length_append
  refine Waiter.pollTurn_ensures (P := fun reply s' => s'.host.Breached fd path n ∧
      s'.host.inStore path ≤ s₁.host.inStore path ∧ (reply = .ready ∨
        (∃ x, reply = .failed x) ∧ s'.host.inStore path < s₁.host.inStore path))
    (fun _ none _ => ⟨none, ?_⟩)
    (fun reply s' _ is host => ?_)
    (fun s' ⟨there, le, _⟩ => ⟨there, ?_⟩)
    (fun s' ⟨there, le, _⟩ => ⟨there, ?_⟩)
    (fun s' ⟨_, _, ended⟩ => ?_)
    (fun e s' ⟨there, le, _⟩ _ _ => ⟨there, ?_⟩)
    (fun e s' ⟨there, _, ended⟩ _ => ⟨there, ?_⟩)
    fun e s' j ⟨there, le, _⟩ _ => ⟨there, ?_⟩
  · rw [List.append_nil]
    show es.length + 2 * s₁.host.inStore path ≤ 2 * s.host.inStore path + 0
    omega
  · subst is
    rw [host]
    exact there.poll direction _
  · rw [length]
    omega
  · rw [length]
    omega
  · obtain is | ⟨⟨_, is⟩, _⟩ := ended <;> cases is
  · rw [length]
    omega
  · obtain is | ⟨_, less⟩ := ended
    · cases is
    · rw [length]
      omega
  · rw [length]
    show _ + 2 * s'.host.inStore path ≤ _
    omega

/-- **A channel that polls a broken stream waits on credit**, whatever its deadline. -/
theorem breach_waits {c : Channel} (other : c.kind.alwaysReady = false) {scope : Scope}
    (polls : c.waiter = .polling scope) (path : String) (direction : Direction)
    (deadline : Deadline) : (breachLedger c.fd path).Waits c direction deadline where
  retry {c'} fd kind waiter {n k es} s stalls := by
    obtain ⟨there, account⟩ := stalls
    refine Channel.mayRetry_ensures_of_wait (kind ▸ other) ?_ fun _ _ => Ledger.halts_of_ne _ nofun
    rw [waiter, polls, fd]
    unfold Waiter.wait
    dsimp only
    split
    · exact Act.ensures_throw (Ledger.halts_of_ne _ nofun)
    refine (poll_weathers direction deadline s there).mono
      (fun ws outcome s' _ ⟨there, paid⟩ => ?_)
      fun ws halt s' _ halts => (halts.mono fun paid => ?_).leaving c'
    · have whole : (es ++ ws).length + 2 * s'.host.inStore path ≤ 2 * k.inStore path := by
        rw [List.length_append]
        omega
      exact ⟨there, Nat.le_add_right_of_le whole, fun _ => whole⟩
    · have paid : ws.length + 2 * s'.host.inStore path ≤ 2 * s.host.inStore path + 0 := paid
      show (es ++ ws).length + 2 * s'.host.inStore path ≤ 2 * k.inStore path + 1
      rw [List.length_append]
      omega

/-- **A channel reads from a broken stream on credit**, as long as something is there to be read. -/
theorem breach_reads {c : Channel} (other : c.kind.alwaysReady = false) {scope : Scope}
    (polls : c.waiter = .polling scope) (path : String) (deadline : Deadline) :
    (breachLedger c.fd path).Reads c deadline where
  toWaits := breach_waits other polls path .readable deadline
  read {n len} s there some _ := by
    refine retry_weathers (fun s there => Act.ensures_exchange (.read c.fd len)
      (fun s' _ host _ => ?_) fun spent => ⟨rfl, ⟨rfl, spent⟩, rfl⟩) s there
    rw [host]
    exact ⟨rfl, there.read some len, fun _ _ => id⟩

/-- **A channel writes to a broken stream on credit.** -/
theorem breach_writes {c : Channel} (other : c.kind.alwaysReady = false) {scope : Scope}
    (polls : c.waiter = .polling scope) (path : String) (deadline : Deadline) :
    (breachLedger c.fd path).Writes c deadline where
  toWaits := breach_waits other polls path .writable deadline
  write {data} s there some := by
    refine retry_weathers (fun s there => Act.ensures_exchange (.write c.fd data)
      (fun s' _ host _ => ?_) fun spent => ⟨rfl, ⟨rfl, spent⟩, rfl⟩) s there
    rw [host]
    obtain ⟨weathers, whole⟩ := there.write data
    refine ⟨rfl, weathers, fun written is none => some ?_⟩
    exact List.length_eq_zero_iff.1 ((whole written is).symm.trans none)

end Kernel

end Simulation

/-! ## Transfers with a broken stream -/

open Simulation

/-- **A transfer with a broken stream returns**, whatever its deadline, if what it must read is
there.  Take a channel that polls a descriptor which stands on a broken stream.  Whatever the script
of the stream says, whatever events befall it and whatever is buffered, a write or a flush **returns
after finitely many exchanges**, and so does a read if the other end hung up or if at least as many
bytes are unread as the read must have beyond those that are buffered.  Only on the number that
stands for no descriptor it may halt, and that is no halt for ever: a rule is broken there. -/
theorem Operation.returns_from_breach {c : Channel} (wf : c.WellFormed) (other : c.kind = .other)
    {scope : Scope} (polls : c.waiter = .polling scope) {path : String} {s : System Kernel}
    {operation : Operation} (breached : s.host.Breached c.fd path (operation.demand - c.liveCount))
    {source : DeadlineSource} (has : operation.deadline? = some source)
    (enough : 2 * s.host.inStore path + c.pendingCount + operation.effort + 2 < s.budget) :
    (c.fd ≠ Waiter.noDescriptor →
      ∃ es answer c' s', (operation.run c).runOn s = (.ok (answer, c'), s') ∧ s.Reaches es s' ∧
        es.length ≤ 2 * s.host.inStore path + c.pendingCount + operation.effort + 4 ∧
        Performed operation c es answer c' ∧ s'.host.Breached c.fd path 0) ∧
      ∀ halt s', (operation.run c).runOn s = (.error halt, s') → c.fd = Waiter.noDescriptor ∧
        ∃ left, left.WellFormed ∧ halt = .faulted "fd != -1" (some left) := by
  have slow : c.kind.alwaysReady = false := by
    rw [other]
    rfl
  have returns := Ledger.returns has wf (.inr ⟨scope, polls⟩) s
    (Kernel.breach_reads slow polls path _) (Kernel.breach_writes slow polls path _) breached (by
      show 2 * s.host.inStore path + _ < _
      omega)
  refine ⟨fun numbered => ?_, fun halt s' run => ?_⟩
  · obtain ⟨es, answer | ⟨answer, c'⟩, s', run, reaches, done⟩ := returns
    · exact absurd done.2.1 numbered
    · obtain ⟨performed, there, paid⟩ := done
      have paid : es.length + 2 * s'.host.inStore path + c'.pendingCount ≤
        2 * s.host.inStore path + c.pendingCount + operation.effort + 4 := paid
      exact ⟨es, answer, c', s', run, reaches, by omega, performed, there⟩
  · obtain ⟨_, _, _, refused⟩ := returns.of_error run
    exact refused

/-! A broken pipe with two bytes left, which interrupts a read and has it wait. -/

/-- The kernel of the pipe. -/
def crackedPipe : System Kernel where
  host :=
    { nodes := [("p", { body := .stream { unread := [1, 2], broken := true }, script :=
        [(.read, { errno? := some .interrupted }), (.read, { errno? := some .wouldBlock }),
          (.poll, { errno? := some .interrupted })] })]
      descriptors := [(3, { node := "p", flags := { access := .readWrite } })] }
  budget := 40

theorem Operation.returns_from_breach_crackedPipe :
    ∃ es answer c' s', ((Operation.read 2 (.after 7000000)).run idleChannel).runOn crackedPipe =
        (.ok (answer, c'), s') ∧ crackedPipe.Reaches es s' ∧ es.length ≤ 12 ∧
      Performed (.read 2 (.after 7000000)) idleChannel es answer c' ∧
      s'.host.Breached 3 "p" 0 := by
  have breached : crackedPipe.host.Breached idleChannel.fd "p"
      ((Operation.read 2 (.after 7000000)).demand - idleChannel.liveCount) :=
    ⟨⟨_, rfl, rfl⟩, _, _, rfl, rfl, fun _ => Nat.le_refl _⟩
  exact (Operation.returns_from_breach idleChannel_wellFormed rfl rfl breached rfl (by decide)).1
    (by decide)

end BufferedChannels
