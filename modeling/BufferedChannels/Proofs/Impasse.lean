import BufferedChannels.Proofs.Ahead
import BufferedChannels.Proofs.Breach

/-!
# Proofs/Impasse — reads that never return

A broken stream whose other end did not hang up is **ready and yet has nothing to be read** once
its bytes are gone: a read would have to wait, the wait ends at once, and nobody looks at the
deadline in between.  So a read that must have more bytes than are buffered and unread **never
returns**, however many exchanges it may make and whatever its deadline
(`Operation.never_returns_from_breach`).
-/

namespace BufferedChannels

namespace Simulation

/-- **A broken stream**, not hung up, from which at most so many bytes can be read. -/
structure Stream.Starved (stream : Stream) (stock : Nat) : Prop where
  broken : stream.broken = true
  on : stream.hungUp = false
  unread : stream.unread.length ≤ stock

namespace Kernel

variable {fd : Int} {path : String} {stock less : Nat} {k k' : Kernel}

/-- **A descriptor stands on such a stream**: nothing befalls it, and its script has no word on
reads and on polls. -/
structure Starved (k : Kernel) (fd : Int) (path : String) (stock : Nat) : Prop where
  opened : ∃ file, k.descriptors.lookup fd = some file ∧ file.node = path ∧
    file.flags.access ≠ .writeOnly
  stored : ∃ stream, k.body? path = some (.stream stream) ∧ stream.Starved stock
  silent : ∀ node, k.node? path = some node →
    ∀ item ∈ node.script, item.1 ≠ .read ∧ item.1 ≠ .poll
  alone : ∀ event ∈ k.events, event.2.node ≠ path

/-- **What a starved read comes to**: bytes that were unread, or it would have to wait. -/
def Starves (fd : Int) (path : String) (stock : Nat) (k' : Kernel) : Except Errno Bytes → Prop
  | .ok bytes => bytes ≠ [] ∧ bytes.length ≤ stock ∧ k'.Starved fd path (stock - bytes.length)
  | .error e => e.recognized = .wouldBlock ∧ k'.Starved fd path stock

namespace Starved

/-- What happens to others feeds nobody. -/
theorem passes (h : k.Starved fd path stock) (passes : Passes k k') :
    k'.Starved fd path stock where
  opened := by
    obtain ⟨file, opened, rest⟩ := h.opened
    exact ⟨file, (congrArg (List.lookup fd) passes.table.1).trans opened, rest⟩
  stored := by
    obtain ⟨stream, stored, rest⟩ := h.stored
    exact ⟨stream, (passes.alone path h.alone).trans stored, rest⟩
  silent node found item mem := by
    obtain ⟨before, found, words⟩ := passes.unwritten path node found
    exact h.silent before found item (words item mem)
  alone event mem := h.alone event (passes.events event mem)

/-- Another stream in its place. -/
theorem setBody (h : k.Starved fd path stock) {stream : Stream} (starved : stream.Starved less) :
    (k.setBody path (.stream stream)).Starved fd path less := by
  obtain ⟨before, stored, _⟩ := h.stored
  obtain ⟨⟨_, script⟩, found, rfl⟩ := Option.map_eq_some_iff.1 stored
  rw [setBody_of_node found]
  refine ⟨h.opened, ⟨stream, ?_, starved⟩, fun node is => ?_, h.alone⟩
  · rw [body?_setNode, if_pos rfl]
  · rw [node?_setNode, if_pos rfl] at is
    obtain rfl := Option.some.inj is
    exact h.silent ⟨.stream before, script⟩ found

/-- **The script says nothing.** -/
theorem consult (h : k.Starved fd path stock) {kind : CallKind}
    (waits : kind = .read ∨ kind = .poll) : (k.consult path kind).1 = {} := by
  unfold Kernel.consult
  split
  · rfl
  · next node found =>
    obtain none | ⟨word, _⟩ := (takeAdjustment_spec kind node.script).1
    · exact congrArg Prod.fst none
    · obtain ⟨noRead, noPoll⟩ := h.silent node found _ word
      exact (waits.elim noRead noPoll).elim

/-- **A read** takes what is unread, and then it would have to wait. -/
theorem read (h : k.Starved fd path stock) {len : Nat} (pos : 0 < len) :
    Starves fd path stock (k.read fd len).2 (k.read fd len).1 := by
  obtain ⟨file, opened, node, access⟩ := h.opened
  have there := h.passes (k.passes_consult path .read)
  obtain ⟨stream, stored, starved⟩ := there.stored
  obtain ⟨⟨_, script⟩, found, rfl⟩ := Option.map_eq_some_iff.1 stored
  subst node
  unfold Kernel.read Kernel.onDescriptor
  rw [opened]
  dsimp only
  rw [h.consult (.inl rfl), found]
  dsimp only
  rw [if_neg access, limited, Option.getD_none, Nat.min_self]
  split
  · rw [if_neg (by simp [starved.on])]
    exact ⟨by decide, there⟩
  · next busy =>
    have unread : stream.unread ≠ [] := by simpa [pos] using busy
    have some : 0 < (stream.unread.take len).length := by
      have := List.length_pos_iff.2 unread
      rw [List.length_take]
      omega
    have taken : (stream.unread.take len).length ≤ stream.unread.length := List.length_take_le' ..
    refine ⟨List.ne_nil_of_length_pos some, Nat.le_trans taken starved.unread,
      there.setBody ⟨starved.broken, starved.on, ?_⟩⟩
    have few := starved.unread
    rw [List.length_take, List.length_drop]
    omega

/-- **A poll finds the stream ready**, as it is broken. -/
theorem poll (h : k.Starved fd path stock) (direction : Direction) (timeout : Option Nat) :
    (k.poll fd direction timeout).1 = .ready ∧
      (k.poll fd direction timeout).2.Starved fd path stock := by
  refine ⟨?_, h.passes (passes_poll k fd direction timeout)⟩
  obtain ⟨file, opened, node, _⟩ := h.opened
  obtain ⟨stream, stored, starved⟩ := (h.passes (k.passes_consult path .poll)).stored
  obtain ⟨⟨_, script⟩, found, rfl⟩ := Option.map_eq_some_iff.1 stored
  subst node
  have ready : ((k.consult file.node .poll).2.node? file.node).all
      (fun node => node.body.isReady direction) = true := by
    rw [found]
    simp [Body.isReady, starved.broken]
  unfold Kernel.poll
  rw [opened]
  dsimp only
  rw [h.consult (.inr rfl)]
  unfold Kernel.awaitNode
  dsimp only
  rw [if_pos ready]

end Starved

end Kernel

end Simulation

/-! ## Starved reads -/

open Simulation

variable {path : String} {stock : Nat} {c : Channel}

/-- **An attempt at a read** moves what is unread, or it has to wait; it does not fail, and it does
not see an end. -/
theorem Descriptor.read_starves {fd : Int} {len : Nat} (pos : 0 < len) (s : System Kernel)
    (starved : s.host.Starved fd path stock) :
    (Descriptor.read fd len).Ensures s
      (fun es outcome s' => es.sawEnd = false ∧ (∀ e, outcome ≠ .failed e) ∧
        (es.delivered fd).length ≤ stock ∧
        s'.host.Starved fd path (stock - (es.delivered fd).length))
      (fun _ _ _ => True) := by
  -- The first reply counts: none is an interruption, so no slack is needed.
  have first := retry_takes (K := fun k => k.Starved fd path stock) (m := fun _ => 0)
    (T := fun _ k' reply => Kernel.Starves fd path stock k' reply)
    (fun starves interrupted => nomatch interrupted.symm.trans starves.1)
    (fun s starved => Act.ensures_exchange (.read fd len)
      (fun s' _ host _ => ⟨rfl, host ▸ starved.read pos⟩) fun none => ⟨rfl, ⟨rfl, none⟩, rfl⟩)
    s starved
  refine (first.and (Descriptor.read_ensures fd len s)).mono
    (fun es outcome s' _ ⟨⟨_, reply, _, _, _, starves, said⟩, attempt⟩ => ?_)
    fun _ _ _ _ _ => trivial
  rw [attempt.delivered, Bool.eq_false_iff, ne_eq, attempt.sawEnd]
  rcases outcome with bytes | _ | e
  · obtain rfl := Attempt.ofReply_eq_moved said
    obtain ⟨some, le, starved⟩ := starves
    exact ⟨fun is => some (Attempt.moved.inj is), nofun, le, starved⟩
  · obtain ⟨e, rfl, _⟩ := Attempt.ofReply_eq_mustWait said
    exact ⟨nofun, nofun, Nat.zero_le _, starves.2⟩
  · obtain ⟨x, rfl, rfl, _, blocked⟩ := Attempt.ofReply_eq_failed said
    exact absurd starves.1 blocked

/-- **A wait ends at once**, and well, whatever the deadline. -/
theorem Channel.mayRetry_starves (other : c.kind.alwaysReady = false) {scope : Scope}
    (polls : c.waiter = .polling scope) (direction : Direction) (deadline : Deadline)
    (s : System Kernel) (starved : s.host.Starved c.fd path stock) :
    (c.mayRetry direction deadline).Ensures s
      (fun _ goOn s' => goOn = true ∧ s'.host.Starved c.fd path stock) (fun _ _ _ => True) := by
  refine mayRetry_ensures_of_wait other ?_ fun _ _ => trivial
  rw [polls]
  unfold Waiter.wait
  dsimp only
  split
  · exact Act.ensures_throw trivial
  refine Act.ensures_loop (fun _ _ s' => s'.host.Starved c.fd path stock) starved
    fun es _ s₁ _ starved => ?_
  refine Waiter.pollTurn_ensures
    (P := fun reply s' => reply = .ready ∧ s'.host.Starved c.fd path stock)
    (fun _ _ => trivial) (fun reply s' _ is host => ?_) (fun _ ⟨_, starved⟩ => ⟨by simp, starved⟩)
    (fun _ ⟨is, _⟩ => nomatch is) (fun _ _ => trivial) (fun _ _ ⟨is, _⟩ => nomatch is)
    (fun _ _ ⟨is, _⟩ => nomatch is) fun _ _ _ ⟨is, _⟩ => nomatch is
  subst is
  rw [host]
  exact starved.poll direction _

/-- **A starved read goes on for ever**: a turn takes what is unread, which is not enough, or it
waits, which does not help. -/
theorem Channel.receive_starves (wf : c.WellFormed) (other : c.kind.alwaysReady = false)
    {scope : Scope} (polls : c.waiter = .polling scope) {len low high : Nat} (marks : low ≤ high)
    (fits : high ≤ len) (deadline : Deadline) (s : System Kernel)
    (starved : s.host.Starved c.fd path stock) (short : c.liveCount + stock < low) :
    (c.receive len low high deadline).Ensures s (fun _ _ _ => False) (fun _ _ _ => True) := by
  have buffered : c.input.live.length = c.liveCount := ReadAhead.length_live wf.input
  refine receive_ensures_of_begun wf marks fits (fun _ x s' => ∃ stock,
    s'.host.Starved c.fd path stock ∧ x.1.length + stock < low)
    (fun c' _ _ => ⟨stock, starved, ?_⟩) (fun c' _ _ enough => ?_)
    fun es x s₁ _ h kept => ?_
  · rw [List.length_take]
    omega
  · omega
  obtain ⟨received, c'⟩ := x
  obtain ⟨stock, starved, short⟩ := kept
  dsimp only at short
  have attempts (before : received.length < low) : (c'.readToward (high - received.length)).Ensures
      s₁ (fun es r s' => es.sawEnd = false ∧ (∀ e, r.1 ≠ .failed e) ∧
        (es.delivered c.fd).length ≤ stock ∧
        s'.host.Starved c.fd path (stock - (es.delivered c.fd).length)) (fun _ _ _ => True) := by
    have pos : 0 < max (high - received.length) c'.input.capacity := by omega
    have reads (j : Log.Journal) := Descriptor.read_starves pos { s₁ with journal := j } starved
    rw [← h.reread.fd] at reads ⊢
    refine (readToward_ensures_of_read reads fun _ _ _ => trivial).mono
      (fun es r s' _ ⟨outcome, ⟨unseen, fine, rest⟩, alike⟩ => ⟨unseen, fun e is => ?_, rest⟩)
      fun _ _ _ _ halts => halts
    rw [is] at alike
    cases alike
    exact fine e rfl
  refine readTurn_ensures_of_attempt wf marks fits h attempts
    (fun enough => absurd enough (Nat.not_le.2 (by dsimp only; omega)))
    (fun es' c'' s' before toward ⟨unseen, _⟩ => ?_)
    (fun es' bytes c'' s' before some toward ⟨_, _, le, starved⟩ => ⟨_, starved, ?_⟩)
    (fun es' e c'' s' before toward ⟨_, fine, _⟩ => absurd rfl (fine e))
    fun es' c'' s' _ before toward ⟨_, _, _, starved⟩ => ?_
  · exact Bool.false_ne_true (unseen.symm.trans (toward.sawEnd.2 rfl))
  · have delivered : es'.delivered c.fd = bytes ++ c''.input.live := h.reread.fd ▸ toward.delivered
    rw [delivered, List.length_append] at le
    rw [delivered, List.length_append, List.length_append]
    dsimp only
    omega
  · have same := h.reread.trans toward.reread
    refine (mayRetry_starves (same.kind ▸ other) (same.waiter.trans polls) .readable deadline s'
      (same.fd ▸ starved)).mono (fun ws goOn t _ ⟨well, starved⟩ =>
        ⟨fun _ => ⟨_, same.fd ▸ starved, ?_⟩, fun ends => ?_⟩) fun _ _ _ _ _ => trivial
    · dsimp only
      omega
    · exact Bool.false_ne_true (ends.symm.trans well)

/-- Whether the marks of a read fit each other and its destination. -/
def Operation.Fits : Operation → Prop
  | .readBetween len low high _ => low ≤ high ∧ high ≤ len
  | _ => True

/-- **A read of a starved stream never returns.**  Take a channel that polls a descriptor which
stands on a broken stream that did not hang up, whose script leaves reads and polls alone and which
nothing befalls.  A read that must have more bytes than are buffered and unread spends its whole
budget, **however large it is and whatever the deadline**. -/
theorem Operation.never_returns_from_breach (wf : c.WellFormed) (other : c.kind = .other)
    {scope : Scope} (polls : c.waiter = .polling scope) (numbered : c.fd ≠ Waiter.noDescriptor)
    {s : System Kernel} (starved : s.host.Starved c.fd path stock) {operation : Operation}
    (fits : operation.Fits) (short : c.liveCount + stock < operation.demand) :
    ∃ s', (operation.run c).runOn s = (.error .endless, s') := by
  have slow : c.kind.alwaysReady = false := by
    rw [other]
    rfl
  obtain ⟨source, has, starves⟩ : ∃ source, operation.deadline? = some source ∧
      (operation.run c).Ensures s (fun _ _ _ => False) (fun _ _ _ => True) := by
    rcases operation with ⟨len, source⟩ | ⟨len, low, high, source⟩ | _ | _ | _ | _ | _ | _ | _ |
      _ | _ | _
    · refine ⟨source, rfl, Act.ensures_bind_quiet (runOn_resolve _ s) (.refl s) (ensures_answer ?_)⟩
      exact c.receive_starves wf slow polls (Nat.le_refl _) (Nat.le_refl _) _ s starved short
    · obtain ⟨marks, within⟩ := fits
      refine ⟨source, rfl, Act.ensures_bind_quiet (runOn_resolve _ s) (.refl s) (ensures_answer ?_)⟩
      unfold Channel.readBetween
      rw [if_neg (Nat.not_lt.2 marks), if_neg (Nat.not_lt.2 within)]
      exact c.receive_starves wf slow polls marks within _ s starved short
    all_goals exact absurd short (Nat.not_lt_zero _)
  obtain ⟨es, halt | r, s', run, reaches, post⟩ := starves.and (operation.run_ensures wf s)
  · obtain rfl | ⟨_, none, _⟩ := post.2.endless_or_noDescriptor has (.inr ⟨scope, polls⟩)
      reaches.host.moderate
    · exact ⟨s', run⟩
    · exact absurd none numbered
  · exact post.1.elim

/-- The kernel of a broken pipe with nothing left. -/
def drainedPipe : System Kernel where
  host :=
    { nodes := [("p", { body := .stream { broken := true } })]
      descriptors := [(3, { node := "p", flags := { access := .readWrite } })] }
  budget := 40

theorem starved_drainedPipe : drainedPipe.host.Starved idleChannel.fd "p" 0 where
  opened := ⟨_, rfl, rfl, by decide⟩
  stored := ⟨_, rfl, rfl, rfl, Nat.le_refl _⟩
  silent node found item mem := by
    obtain rfl := Option.some.inj found
    cases mem
  alone _ mem := nomatch mem

/-- **Having a deadline does not make a transfer with a broken stream return**: a read of a drained
pipe goes on for ever. -/
theorem Operation.not_returns_from_breach : ¬ ∀ (c : Channel) (scope : Scope) (path : String)
    (s : System Kernel) (operation : Operation) (source : DeadlineSource), c.WellFormed →
      c.kind = .other → c.waiter = .polling scope → c.fd ≠ Waiter.noDescriptor →
      s.host.Breached c.fd path 0 → operation.deadline? = some source →
      (source.madeAt s.host.clock).isNever = false →
      ∃ enough, ∀ budget, enough ≤ budget → ∃ answer c' s',
        (operation.run c).runOn { s with budget } = (.ok (answer, c'), s') := by
  intro returns
  have breached : drainedPipe.host.Breached idleChannel.fd "p" 0 :=
    ⟨⟨_, rfl, rfl⟩, _, _, rfl, rfl, fun _ => Nat.zero_le _⟩
  obtain ⟨enough, here⟩ := returns idleChannel .shared "p" drainedPipe (.read 3 (.after 0)) _
    idleChannel_wellFormed rfl rfl (by decide) breached rfl rfl
  obtain ⟨answer, c', s', run⟩ := here enough (Nat.le_refl _)
  have fits : (Operation.read 3 (.after 0)).Fits := trivial
  have short : idleChannel.liveCount + 0 < (Operation.read 3 (.after 0)).demand := by decide
  have starved : ({ drainedPipe with budget := enough } : System Kernel).host.Starved
      idleChannel.fd "p" 0 := starved_drainedPipe
  obtain ⟨s'', endless⟩ := Operation.never_returns_from_breach idleChannel_wellFormed rfl rfl
    (by decide) starved fits short
  rw [run] at endless
  cases endless

end BufferedChannels
