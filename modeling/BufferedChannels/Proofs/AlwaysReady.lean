import Mathlib
import BufferedChannels.Proofs.Delays
import BufferedChannels.Proofs.Lifecycle
import BufferedChannels.Proofs.Medium

/-!
# Proofs/AlwaysReady — channels that never wait

On a file or a directory a call that would block is made again at once.  So a channel that was
opened there makes **no exchange that waits**, no transfer of it times out, and a run of transfers
is the same run whatever deadlines they were given (`Operation.runAll_timeless`).  It comes to an
end all the same: every call that is made again took a word of the script
(`Operation.runAll_ready`).
-/

namespace BufferedChannels

/-! ## Computations that run alike -/

namespace Act

variable {κ : Type} {α β σ : Type}

/-- **Sequences run alike** when their second parts do, from wherever the first may lead. -/
theorem runOn_bind_congr {act : Act κ α} {next next' : α → Act κ β} {s : System κ}
    (same : ∀ a s', act.runOn s = (.ok a, s') → (next a).runOn s' = (next' a).runOn s') :
    (act >>= next).runOn s = (act >>= next').runOn s := by
  rw [runOn_bind, runOn_bind]
  rcases run : act.runOn s with ⟨_ | a, s'⟩
  · rfl
  · exact same a s' run

/-- …and when their first parts do. -/
theorem runOn_bind_left {act act' : Act κ α} {next : α → Act κ β} {s : System κ}
    (same : act.runOn s = act'.runOn s) : (act >>= next).runOn s = (act' >>= next).runOn s := by
  rw [runOn_bind, runOn_bind, same]

variable {turn turn' : σ → Act κ (σ ⊕ α)} {P : σ → Prop}

theorem runOn_turns_congr (same : ∀ x s, P x → (turn x).runOn s = (turn' x).runOn s)
    (stays : ∀ x y s s', P x → (turn x).runOn s = (.ok (.inl y), s') → P y) (n : Nat) {x : σ}
    (start : P x) (s : System κ) : (turns turn n x).runOn s = (turns turn' n x).runOn s := by
  induction n generalizing x s with
  | zero => rfl
  | succ n ih =>
    rw [turns, turns, runOn_bind, runOn_bind, ← same x s start]
    rcases run : (turn x).runOn s with ⟨_ | y | a, s'⟩
    · rfl
    · exact ih (stays x y s s' start run) s'
    · rfl

/-- **Loops run alike** when their turns do, on all that they may come to. -/
theorem runOn_loop_congr (same : ∀ x s, P x → (turn x).runOn s = (turn' x).runOn s)
    (stays : ∀ x y s s', P x → (turn x).runOn s = (.ok (.inl y), s') → P y) {x : σ} (start : P x)
    (s : System κ) : (loop turn x).runOn s = (loop turn' x).runOn s :=
  runOn_turns_congr same stays _ start s

end Act

/-! ## Transfers without their deadlines -/

namespace Channel

variable {κ : Type} [Host κ] {c : Channel} {deadline deadline' : Deadline}

/-- **What is always ready** is called again at once. -/
theorem mayRetry_of_ready (ready : c.kind.alwaysReady = true) (direction : Direction)
    (deadline : Deadline) : (c.mayRetry direction deadline : Act κ Bool) = return true := by
  unfold mayRetry
  rw [ready]
  rfl

/-- A read toward a need leaves the kind. -/
theorem readToward_kind (c : Channel) (need : Nat) (s : System κ) :
    (c.readToward need).Ensures s (fun _ r _ => r.2.kind = c.kind) (fun _ _ _ => True) := by
  unfold readToward
  split
  · refine Act.ensures_log _ _ fun j => ?_
    refine Act.ensures_bind ((Descriptor.read_ensures c.fd need _).mono (fun _ _ _ _ h => h)
      fun _ _ _ _ _ => trivial) fun _ outcome _ _ _ => ?_
    rcases outcome with bytes | _ | e
    all_goals exact Act.ensures_pure rfl
  · refine Act.ensures_check_or (fun slot _ => ?_) fun _ _ => trivial
    refine Act.ensures_bind ((Descriptor.read_ensures c.fd slot.capacity _).mono
      (fun _ _ _ _ h => h) fun _ _ _ _ _ => trivial) fun _ outcome _ _ _ => ?_
    rcases outcome with bytes | _ | e
    · exact Act.ensures_check_or (fun loaded _ => Act.ensures_check_or
        (fun taken _ => Act.ensures_pure rfl) fun _ _ => trivial) fun _ _ => trivial
    all_goals exact Act.ensures_pure rfl

theorem readTurn_timeless {len low high : Nat} {received : Bytes}
    (ready : c.kind.alwaysReady = true) (s : System κ) :
    (readTurn len low high deadline (received, c)).runOn s =
      (readTurn len low high deadline' (received, c)).runOn s := by
  unfold readTurn
  dsimp only
  split
  · rfl
  · refine Act.runOn_bind_congr fun need s₁ _ => Act.runOn_bind_congr fun r s₂ run => ?_
    obtain ⟨outcome, c'⟩ := r
    obtain ⟨_, _, kind⟩ := (readToward_kind c need s₁).of_ok run
    dsimp only at kind
    rw [← kind] at ready
    rcases outcome with (_ | ⟨first, bytes⟩) | _ | e
    · rfl
    · rfl
    · rw [mayRetry_of_ready ready, mayRetry_of_ready ready]
    · rfl

/-- A turn of a read leaves the kind. -/
theorem readTurn_kind {len low high : Nat} {received : Bytes} (ready : c.kind.alwaysReady = true)
    (s : System κ) : (readTurn len low high deadline (received, c)).Ensures s
      (fun _ r _ => ∀ x, r = .inl x → x.2.kind = c.kind) (fun _ _ _ => True) := by
  unfold readTurn
  dsimp only
  split
  · exact Act.ensures_pure nofun
  · refine Act.ensures_check_or (fun need _ => ?_) fun _ _ => trivial
    refine Act.ensures_bind (readToward_kind c need s) fun _ r _ _ kind => ?_
    obtain ⟨outcome, c'⟩ := r
    dsimp only at kind
    rcases outcome with (_ | ⟨first, bytes⟩) | _ | e
    · exact Act.ensures_pure nofun
    · refine Act.ensures_pure fun x is => ?_
      obtain rfl := Sum.inl.inj is
      exact kind
    · dsimp only
      rw [mayRetry_of_ready (kind ▸ ready)]
      refine Act.ensures_pure fun x is => ?_
      obtain rfl := Sum.inl.inj is
      exact kind
    · exact Act.ensures_pure nofun

theorem receive_timeless (ready : c.kind.alwaysReady = true) (len low high : Nat) (s : System κ) :
    (c.receive len low high deadline).runOn s = (c.receive len low high deadline').runOn s := by
  refine Act.runOn_bind_congr fun room _ _ => Act.runOn_bind_congr fun taken s' _ => ?_
  dsimp only
  split
  · rfl
  · refine Act.runOn_loop_congr (P := fun x => x.2.kind.alwaysReady = true)
      (fun x s ready => readTurn_timeless ready s) (fun x y s s' ready run => ?_) ready s'
    obtain ⟨_, _, kind⟩ := (readTurn_kind ready s).of_ok run
    rw [kind y rfl]
    exact ready

theorem readBetween_timeless (ready : c.kind.alwaysReady = true) (len low high : Nat)
    (s : System κ) : (c.readBetween len low high deadline).runOn s =
      (c.readBetween len low high deadline').runOn s := by
  unfold readBetween
  split
  · rfl
  split
  · rfl
  · exact receive_timeless ready len low high s

theorem send_timeless (ready : c.kind.alwaysReady = true) (data : Bytes) :
    (c.send data deadline : Act κ _) = c.send data deadline' := by
  have same : (c.sendTurn data deadline : Nat → Act κ _) = c.sendTurn data deadline' := by
    funext sent
    unfold sendTurn
    simp only [mayRetry_of_ready ready]
  unfold send
  rw [same]

theorem flush_timeless (ready : c.kind.alwaysReady = true) (deadline deadline' : Deadline) :
    (c.flush deadline : Act κ _) = c.flush deadline' := by
  unfold flush
  rw [send_timeless ready]

theorem write_timeless (ready : c.kind.alwaysReady = true) (wf : c.WellFormed) (data : Bytes)
    (s : System κ) : (c.write data deadline).runOn s = (c.write data deadline').runOn s := by
  unfold write
  split
  · rfl
  · rw [flush_timeless ready deadline deadline']
    refine Act.runOn_bind_congr fun r s₁ run => ?_
    obtain ⟨result, c'⟩ := r
    obtain ⟨_, _, flushed⟩ := (flush_ensures wf deadline' s).of_ok run
    have ready' : c'.kind.alwaysReady = true := by
      rw [flushed.rewritten.kind]
      exact ready
    rcases result with e | _
    · rfl
    · dsimp only
      rw [send_timeless ready']

end Channel

namespace Operation

/-- **A transfer without its deadline.** -/
def timeless : Operation → Operation
  | .read len _ => .read len .never
  | .readBetween len low high _ => .readBetween len low high .never
  | .write data _ => .write data .never
  | .flush _ => .flush .never
  | other => other

theorem isSome_deadline?_timeless (operation : Operation) :
    operation.timeless.deadline?.isSome = operation.deadline?.isSome := by
  cases operation <;> rfl

variable {κ : Type} [Host κ] {c : Channel}

/-- **A deadline makes no difference** to what is always ready. -/
theorem run_timeless (ready : c.kind.alwaysReady = true) (wf : c.WellFormed)
    (operation : Operation) (s : System κ) :
    (operation.run c).runOn s = (operation.timeless.run c).runOn s := by
  have timed {α : Type} {act : Deadline → Act κ α} {next : α → Act κ (Answer × Channel)}
      (same : ∀ deadline deadline', (act deadline).runOn s = (act deadline').runOn s)
      (source : DeadlineSource) : (source.resolve >>= fun deadline => act deadline >>= next).runOn s
        = (DeadlineSource.never.resolve >>= fun deadline => act deadline >>= next).runOn s := by
    rw [Act.runOn_bind, Act.runOn_bind, runOn_resolve, runOn_resolve]
    exact Act.runOn_bind_left (same _ _)
  rcases operation with ⟨len, source⟩ | ⟨len, low, high, source⟩ | ⟨data, source⟩ | source |
    _ | _ | _ | _ | _ | _ | _ | _
  · exact timed (fun _ _ => Channel.receive_timeless ready len len len s) source
  · exact timed (fun _ _ => Channel.readBetween_timeless ready len low high s) source
  · exact timed (fun _ _ => Channel.write_timeless ready wf data s) source
  · exact timed (fun _ _ => congrArg (·.runOn s) (Channel.flush_timeless ready _ _)) source
  all_goals rfl

/-- **A transfer with what is always ready** makes no exchange that waits, does not time out, and
leaves a channel of the same kind. -/
theorem run_ready {operation : Operation} {source : DeadlineSource}
    (has : operation.deadline? = some source) (ready : c.kind.alwaysReady = true)
    (wf : c.WellFormed) (s : System κ) : (operation.run c).Ensures s
      (fun es r _ => (∀ e ∈ es, e.isSuspension = false) ∧ r.1.isTimeout = false ∧
        r.2.kind = c.kind) (fun _ _ _ => True) := by
  have reads {es : Dialogue} (reads : es.Reads c) : ∀ e ∈ es, e.isSuspension = false := by
    intro e mem
    obtain ⟨len, reply, _, rfl⟩ := reads.reading ready e mem
    rfl
  have writes {es : Dialogue} (writes : es.Writes c) : ∀ e ∈ es, e.isSuspension = false := by
    intro e mem
    obtain ⟨data, reply, _, rfl⟩ := writes.writing ready e mem
    rfl
  have exchanges : (operation.run c).Ensures s
      (fun es r _ => (∀ e ∈ es, e.isSuspension = false) ∧ r.2.kind = c.kind)
      (fun _ _ _ => True) := by
    rcases operation with ⟨len, source⟩ | ⟨len, low, high, source⟩ | ⟨data, source⟩ | source |
      _ | _ | _ | _ | _ | _ | _ | _
    all_goals cases has
    all_goals refine ensures_resolve source fun deadline => ensures_answer ?_
    · exact (Channel.read_ensures wf len deadline s).mono
        (fun _ _ _ _ done => ⟨reads done.reads, done.reread.kind⟩) fun _ _ _ _ _ => trivial
    · refine (Channel.readBetween_ensures wf len low high deadline s).mono
        (fun _ _ _ _ done => ?_) fun _ _ _ _ _ => trivial
      obtain ⟨_, _, done⟩ | ⟨_, refused⟩ := done
      · exact ⟨reads done.reads, done.reread.kind⟩
      · exact ⟨reads (refused.handsOn wf).reads, (refused.handsOn wf).reread.kind⟩
    · exact (Channel.write_ensures wf data deadline s).mono
        (fun _ _ _ _ done => ⟨writes done.writes, done.rewritten.kind⟩) fun _ _ _ _ _ => trivial
    · exact (Channel.flush_ensures wf deadline s).mono
        (fun _ _ _ _ done => ⟨writes done.writes, done.rewritten.kind⟩) fun _ _ _ _ _ => trivial
  refine (exchanges.and (operation.run_cutShort has wf s)).mono
    (fun es r s' _ ⟨⟨quiet, kind⟩, cut⟩ => ⟨quiet, ?_, kind⟩) fun _ _ _ _ _ => trivial
  rw [Answer.isTimeout_eq, Option.any_eq_false]
  intro e failed
  obtain ⟨rule, rfl⟩ | ⟨direction, cut⟩ := cut e failed
  · rfl
  · cases cut with
    | refused => rfl
    | late slow => exact absurd (slow.symm.trans ready) Bool.false_ne_true

/-! ## Runs -/

/-- **Operations one after another**, with their answers. -/
def runAll (c : Channel) : List Operation → Act κ (List Answer × Channel)
  | [] => return ([], c)
  | operation :: rest => do
    let (answer, c) ← operation.run c
    let (answers, c) ← runAll c rest
    return (answer :: answers, c)

/-- **A run of transfers is the same run** whatever deadlines they were given. -/
theorem runAll_timeless (ready : c.kind.alwaysReady = true) (wf : c.WellFormed)
    {operations : List Operation} (transfers : ∀ o ∈ operations, o.deadline?.isSome = true)
    (s : System κ) :
    (runAll c operations).runOn s = (runAll c (operations.map timeless)).runOn s := by
  induction operations generalizing c s with
  | nil => rfl
  | cons operation rest ih =>
    obtain ⟨first, later⟩ := List.forall_mem_cons.1 transfers
    obtain ⟨source, has⟩ := Option.isSome_iff_exists.1 first
    rw [List.map_cons, runAll, runAll, Act.runOn_bind, Act.runOn_bind,
      ← operation.run_timeless ready wf s]
    rcases run : (operation.run c).runOn s with ⟨_ | ⟨answer, c'⟩, s'⟩
    · rfl
    · obtain ⟨_, _, ⟨_, _, kind⟩, performed⟩ :=
        ((operation.run_ready has ready wf s).and (operation.run_ensures wf s)).of_ok run
      dsimp only at kind
      exact Act.runOn_bind_left (ih (kind ▸ ready) performed.wellFormed later s')

end Operation

/-! ## Files and directories of the simulated kernel -/

namespace Simulation.Kernel

variable {path : String} {fd : Int} {k k' : Kernel}

/-- **A path of a file or a directory**, if there is anything. -/
def Solid (k : Kernel) (path : String) : Prop :=
  ∀ node, k.node? path = some node → Pledge.solid.Allows node.body.shape

/-- No stimulus makes anything else of a file or a directory. -/
theorem solid_onShape (s : Stimulus) (shape : Shape) (solid : Pledge.solid.Allows shape) :
    Pledge.solid.Allows (s.onShape shape) := by
  rcases solid with rfl | rfl
  · exact .inl rfl
  · exact .inr rfl

theorem bears_solid {node : Node} (stored : k.node? path = some node)
    (solid : Pledge.solid.Allows node.body.shape) : k.Bears .solid path :=
  ⟨⟨node, stored, solid⟩, fun event _ _ => solid_onShape event.2⟩

/-- **Opening the path** gives a descriptor that stands on a file or a directory. -/
theorem Solid.openPath (h : k.Solid path) (flags : Flags)
    (opened : k.openPath path flags = (.ok fd, k')) : k'.Keeps .solid fd path := by
  have stands {k₁ : Kernel} (bears : k₁.Bears .solid path)
      (opened : k₁.newDescriptor path flags = (.ok fd, k')) : k'.Keeps .solid fd path := by
    obtain ⟨same, rfl⟩ := Prod.mk.inj opened
    obtain rfl := Except.ok.inj same
    exact ⟨⟨bears.stored, bears.events⟩, _, (lookup_assign ..).trans (if_pos rfl), rfl⟩
  have places {k₁ : Kernel} {node : Node} (solid : Pledge.solid.Allows node.body.shape) :
      (k₁.setNode path node).Bears .solid path :=
    bears_solid ((node?_setNode ..).trans (if_pos rfl)) solid
  unfold Kernel.openPath at opened
  dsimp only at opened
  cases found : k.node? path with
  | none =>
    have silent : k.consult path .openPath = ({}, k) := by rw [Kernel.consult, found]
    rw [silent] at opened
    dsimp only at opened
    rw [found] at opened
    dsimp only at opened
    split at opened
    · exact stands (places (.inl rfl)) opened
    · cases opened
  | some node =>
    have bears := ((bears_solid found (h node found)).consult .openPath).1.bears
    generalize k.consult path .openPath = consulted at opened bears
    obtain ⟨node', stored, solid⟩ := bears.stored
    split at opened
    · cases opened
    rw [stored] at opened
    dsimp only at opened
    split at opened
    · cases opened
    split at opened
    · cases opened
    split at opened
    · cases opened
    refine stands ?_ opened
    split
    · split
      · obtain ⟨body, script⟩ := node'
        rw [setBody_of_node stored]
        exact places (.inl rfl)
      · exact bears
    · exact bears

/-- **Asking for the kind** of a file or a directory. -/
theorem Keeps.stat (h : k.Keeps .solid fd path) {bits : Nat}
    (told : k.onDescriptor fd .stat (fun k _ body _ => (.ok body.mode, k)) = (.ok bits, k')) :
    (Kind.ofMode bits).alwaysReady = true ∧ k'.Keeps .solid fd path := by
  obtain ⟨k₁, keeps, _, ⟨x, run, _⟩ | ⟨_, body, _, _, _, _, solid, _, run⟩⟩ :=
    h.onDescriptor .stat (fun k _ body _ => ((.ok body.mode : Except Errno Nat), k))
  all_goals obtain ⟨reply, rfl⟩ := Prod.mk.inj (run.symm.trans told)
  · cases reply
  · obtain rfl := Except.ok.inj reply
    refine ⟨?_, keeps⟩
    cases body with
    | file => exact (by decide : (Kind.ofMode 0o100644).alwaysReady = true)
    | directory => exact (by decide : (Kind.ofMode 0o040755).alwaysReady = true)
    | _ => rcases solid with no | no <;> cases no

/-- **A channel that was opened there** is always ready. -/
theorem Solid.opened (h : k.Solid path) {flags : Flags} {mode : Nat} {config : Config}
    {waiter : Waiter} {es : Dialogue} {c : Channel}
    (opened : Channel.Opened path flags mode config waiter es c) (leads : Host.Leads k es k') :
    c.kind.alwaysReady = true ∧ k'.Keeps .solid c.fd path := by
  obtain ⟨claims, bits, told, kind, rfl⟩ := opened.exchanges
  have stable (k : Kernel) (keeps : k.Keeps .solid c.fd path) :
      k.allocate.2.Keeps .solid c.fd path := ⟨⟨keeps.stored, keeps.events⟩, keeps.opened⟩
  obtain ⟨k₁, r, solid, first, rest⟩ := leads.next (P := (·.Solid path)) (fun _ h => h) h
  obtain ⟨rfl, reply⟩ := Exchange.mk.inj first
  have keeps := solid.openPath (Channel.openFlags flags config)
    (Prod.ext (eq_of_heq reply).symm rfl)
  obtain ⟨k₂, keeps, last⟩ := told.leads stable (fun _ h => h) rest keeps
  obtain ⟨k₃, r, keeps, second, rest⟩ := last.next stable keeps
  obtain ⟨rfl, reply⟩ := Exchange.mk.inj second
  obtain ⟨ready, keeps⟩ := keeps.stat (Prod.ext (eq_of_heq reply).symm rfl)
  exact ⟨kind ▸ ready, rest.stays (P := (·.Keeps .solid c.fd path)) stable keeps⟩

/-- Nothing blocks there. -/
theorem not_blocks_of_solid (h : k.Keeps .solid fd path) (direction : Direction) :
    ¬ k.Blocks path direction := by
  rintro ⟨node, stored, unready⟩
  obtain ⟨node', found, solid⟩ := h.stored
  obtain rfl := Option.some.inj (found.symm.trans stored)
  obtain ⟨body, script⟩ := node'
  cases body with
  | stream => rcases solid with no | no <;> cases no
  | _ => cases unready

end Simulation.Kernel

/-! ## Runs on files and directories -/

open Simulation

/-- **A run of transfers comes to an end** on a file or a directory.  What the kernel has in store,
what is pending and what is to be moved bounds the number of its exchanges. -/
theorem Operation.runAll_ready {c : Channel} (wf : c.WellFormed)
    (ready : c.kind.alwaysReady = true) {path : String} {s : System Kernel}
    (keeps : s.host.Keeps .solid c.fd path) {operations : List Operation}
    (transfers : ∀ o ∈ operations, o.deadline?.isSome = true)
    (enough : 3 * s.host.inStore path + c.pendingCount +
      (operations.map fun o => o.effort + 4).sum < s.budget) :
    ∃ es answers c' s', (runAll c operations).runOn s = (.ok (answers, c'), s') ∧
      s.Reaches es s' ∧ es.length ≤ 3 * s.host.inStore path + c.pendingCount +
        (operations.map fun o => o.effort + 4).sum ∧
      (∀ e ∈ es, e.isSuspension = false) ∧ ∀ answer ∈ answers, answer.isTimeout = false := by
  induction operations generalizing c s with
  | nil =>
    exact ⟨[], [], c, s, rfl, .refl s, Nat.zero_le _, List.forall_mem_nil _, List.forall_mem_nil _⟩
  | cons operation rest ih =>
    obtain ⟨first, later⟩ := List.forall_mem_cons.1 transfers
    obtain ⟨source, has⟩ := Option.isSome_iff_exists.1 first
    rw [List.map_cons, List.sum_cons] at enough ⊢
    have endures (direction : Direction) : (Kernel.meter .solid c.fd path).Endures c direction
        (source.madeAt (Host.now s.host)) :=
      ⟨rfl, fun _ _ keeps => Kernel.not_blocks_of_solid keeps direction,
        fun slow => absurd (slow.symm.trans ready) Bool.false_ne_true⟩
    obtain ⟨es, h | ⟨answer, c'⟩, s', run, reaches, done⟩ :=
      (Meter.returns has wf (.inl ready) s endures keeps (by
        show 3 * s.host.inStore path + _ < _
        omega)).and (operation.run_ready has ready wf s)
    · exact absurd (done.1.1.symm.trans ready) Bool.false_ne_true
    · obtain ⟨⟨performed, keeps, paid⟩, quiet, punctual, kind⟩ := done
      dsimp only at performed punctual kind
      have paid : es.length + 3 * s'.host.inStore path + c'.pendingCount ≤
        3 * s.host.inStore path + c.pendingCount + operation.effort + 4 := paid
      have budget := reaches.budget
      obtain ⟨es', answers, c'', s'', run', reaches', few, quiet', punctual'⟩ :=
        ih performed.wellFormed (kind ▸ ready) (performed.fd ▸ keeps) later (by omega)
      refine ⟨es ++ es', answer :: answers, c'', s'', ?_, reaches.trans reaches', ?_, ?_,
        List.forall_mem_cons.2 ⟨punctual, punctual'⟩⟩
      · rw [runAll, Act.runOn_bind, run]
        dsimp only
        rw [Act.runOn_bind, run']
        rfl
      · rw [List.length_append]
        omega
      · intro e mem
        exact (List.mem_append.1 mem).elim (quiet e) (quiet' e)

/-- **Files and directories never suspend.**  Take a channel that was opened on a path of a file or
a directory, and any reads, writes and flushes one after another.  Whatever the script of the node
says, they return after finitely many exchanges **none of which waits**, and none of them times out;
and **the run is the same**, with its exchanges and what it leaves, whatever deadlines they are
given. -/
theorem Channel.solid_never_suspends {path : String} {flags : Flags} {mode : Nat} {config : Config}
    {waiter : Waiter} {s₀ s₁ : System Kernel} {c : Channel} (solid : s₀.host.Solid path)
    (opened : (Channel.openConfigured path flags mode config waiter).runOn s₀ = (.ok (.ok c), s₁))
    {operations : List Operation} (transfers : ∀ o ∈ operations, o.deadline?.isSome = true) :
    (∀ s : System Kernel, s.host = s₁.host →
      3 * s₁.host.inStore path + (operations.map fun o => o.effort + 4).sum < s.budget →
      ∃ es answers c' s', (Operation.runAll c operations).runOn s = (.ok (answers, c'), s') ∧
        s.Reaches es s' ∧
        es.length ≤ 3 * s₁.host.inStore path + (operations.map fun o => o.effort + 4).sum ∧
        (∀ e ∈ es, e.isSuspension = false) ∧ ∀ answer ∈ answers, answer.isTimeout = false) ∧
      ∀ (s : System Kernel) (operations' : List Operation),
        operations'.map Operation.timeless = operations.map Operation.timeless →
        (Operation.runAll c operations').runOn s = (Operation.runAll c operations).runOn s := by
  obtain ⟨es, reaches, done⟩ :=
    (Channel.openConfigured_ensures path flags mode config waiter s₀).of_ok opened
  have done := done c rfl
  obtain ⟨ready, keeps⟩ := solid.opened done reaches.host
  have wf := done.blank.toWellFormed
  have none : c.pendingCount = 0 := by
    rw [Channel.pendingCount, ← WriteBehind.length_pending wf.output, done.blank.pending]
    rfl
  refine ⟨fun s host enough => ?_, fun s operations' same => ?_⟩
  · rw [← host] at keeps enough ⊢
    have returns := Operation.runAll_ready wf ready keeps transfers (by omega)
    rw [none, Nat.add_zero] at returns
    exact returns
  · have transfers' : ∀ o ∈ operations', o.deadline?.isSome = true := by
      intro o mem
      obtain ⟨o', mem', is⟩ := List.mem_map.1 (same ▸ List.mem_map_of_mem mem)
      rw [← o.isSome_deadline?_timeless, ← is, o'.isSome_deadline?_timeless]
      exact transfers o' mem'
    rw [Operation.runAll_timeless ready wf transfers', same,
      ← Operation.runAll_timeless ready wf transfers]

/-! A file whose calls would block, are interrupted, transfer nothing and fail. -/

/-- The kernel of the file. -/
def stubbornFile : System Kernel where
  host := { nodes := [("f", {
    body := .file (.ofBytes [1, 2, 3])
    script := [(.read, { errno? := some .wouldBlock }), (.read, { errno? := some .interrupted }),
      (.write, { max? := some 0 }), (.write, { errno? := some .wouldBlock }),
      (.write, { errno? := some ⟨5⟩ })] })] }
  budget := 40
  bufferLength := 4

/-- The opening of the file. -/
def stubbornOpening : Act Kernel (Except ChannelError Channel) :=
  Channel.openConfigured "f" { access := .readWrite } 0o644 {} (.polling .shared)

/-- Its channel. -/
def stubbornChannel : Channel :=
  { fd := 3, kind := .regular, input := ⟨[0, 0, 0, 0], 0, 0⟩, output := ⟨[0, 0, 0, 0], 0⟩,
    verbose := false, waiter := .polling .shared }

/-- The file with the channel opened on it. -/
def stubbornOpened : System Kernel := (stubbornOpening.runOn stubbornFile).2

theorem Channel.solid_never_suspends_stubbornFile :
    (∃ es answers c' s', (Operation.runAll stubbornChannel
        [.read 2 (.after 0), .write [7] .never, .flush (.after 5)]).runOn stubbornOpened =
          (.ok (answers, c'), s') ∧ stubbornOpened.Reaches es s' ∧ es.length ≤ 36 ∧
        (∀ e ∈ es, e.isSuspension = false) ∧ ∀ answer ∈ answers, answer.isTimeout = false) ∧
      (Operation.runAll stubbornChannel
        [.read 2 .never, .write [7] (.after 0), .flush .never]).runOn stubbornOpened =
      (Operation.runAll stubbornChannel
        [.read 2 (.after 0), .write [7] .never, .flush (.after 5)]).runOn stubbornOpened := by
  have solid : stubbornFile.host.Solid "f" := by
    rintro node ⟨⟩
    exact .inl rfl
  have opened : stubbornOpening.runOn stubbornFile =
      (.ok (.ok stubbornChannel), stubbornOpened) := rfl
  have transfers : ∀ o ∈ [Operation.read 2 (.after 0), .write [7] .never, .flush (.after 5)],
      o.deadline?.isSome = true := by decide
  obtain ⟨returns, same⟩ := Channel.solid_never_suspends solid opened transfers
  exact ⟨returns stubbornOpened rfl (by decide), same stubbornOpened _ rfl⟩

end BufferedChannels
