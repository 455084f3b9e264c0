import BufferedChannels.Proofs.Lifecycle
import BufferedChannels.Proofs.Operating
import BufferedChannels.Proofs.Queues

/-!
# Proofs/FixedLength — a channel keeps the length of its buffers

A channel begins with two buffers of the length that its system names, and **no operation changes
the length of either**.  Nothing is assumed of hosts or of what is buffered, and a rule that is
broken on the way leaves a channel with such buffers as well, so it is enough to look at what
becomes of the blocks.  `Act.Maintains` carries this through a computation, with one rule for each
way in which computations are put together; `Channel.ReachableAt.spans` is the run of steps.
-/

namespace BufferedChannels

/-! ## Blocks -/

namespace ReadAhead

variable {b b' : ReadAhead} {bytes : Bytes}

theorem capacity_of_new {length : Nat} (h : new length = .ok b) : b.capacity = length := by
  rw [new] at h
  split at h
  · cases h
    exact List.length_replicate
  · cases h

theorem capacity_of_take {wanted : Nat} (h : b.take wanted = .ok (bytes, b')) :
    b'.capacity = b.capacity := congrArg List.length (block_of_take h)

theorem capacity_of_load (h : b.load bytes = .ok b') : b'.capacity = b.capacity := by
  obtain ⟨full, loaded, -, kept, -⟩ := load_eq (length_le_of_load h)
  obtain rfl := Except.ok.inj (h.symm.trans loaded)
  exact kept

end ReadAhead

namespace WriteBehind

variable {b b' : WriteBehind} {bytes : Bytes}

theorem capacity_of_new {length : Nat} (h : new length = .ok b) : b.capacity = length := by
  rw [new] at h
  split at h
  · cases h
    exact List.length_replicate
  · cases h

/-- Appending writes inside the block, also where the pending bytes would not be inside. -/
theorem capacity_of_append (h : b.append bytes = .ok b') : b'.capacity = b.capacity := by
  rw [append] at h
  split at h
  · next room =>
    have inside : bytes.length ≤ b.block.length - b.len := of_decide_eq_true room
    cases h
    simp only [capacity, Bytes.overwrite, List.length_append, List.length_take, List.length_drop]
    omega
  · cases h

theorem capacity_of_dropSent {n : Nat} (h : b.dropSent n = .ok b') : b'.capacity = b.capacity := by
  rw [dropSent] at h
  split at h
  · cases h
    refine Bytes.length_overwrite ?_
    simp only [Bytes.slice, List.length_take, List.length_drop]
    omega
  · cases h

end WriteBehind

/-- **A channel whose buffers have a length**, both the same. -/
structure Channel.Spans (length : Nat) (c : Channel) : Prop where
  input : c.input.capacity = length
  output : c.output.capacity = length

/-! ## Computations that maintain a property of channels -/

/-- A halt that leaves no channel without a property. -/
def Halt.Spares (P : Channel → Prop) (h : Halt) : Prop :=
  ∀ message left, h = .faulted message (some left) → P left

theorem Spent.spares {κ : Type} {P : Channel → Prop} {h : Halt} {s : System κ} (spent : Spent h s) :
    h.Spares P := by
  rw [spent.1]
  exact nofun

variable {κ : Type} [Host κ]

namespace Act

variable {α β σ : Type} {P : Channel → Prop} {returns : α → Prop}

/-- **A computation that maintains a property of channels**: its value is as said, and a channel
that its halt leaves has the property. -/
def Maintains (act : Act κ α) (P : Channel → Prop) (returns : α → Prop) : Prop :=
  ∀ s, act.Ensures s (fun _ a _ => returns a) fun _ h _ => h.Spares P

theorem maintains_pure {a : α} (h : returns a) : (pure a : Act κ α).Maintains P returns :=
  fun _ => ensures_pure h

theorem maintains_throw {h : Halt} (spares : h.Spares P) :
    (throw h : Act κ α).Maintains P returns :=
  fun _ => ensures_throw spares

theorem maintains_fault (message : String) : (fault message : Act κ α).Maintains P returns :=
  maintains_throw nofun

/-- **One part after another.** -/
theorem Maintains.bind {act : Act κ α} {next : α → Act κ β} {returns' : β → Prop}
    (first : act.Maintains P returns) (rest : ∀ a, returns a → (next a).Maintains P returns') :
    (act >>= next).Maintains P returns' :=
  fun s => ensures_bind (first s) fun _ a s' _ post => rest a post s'

theorem maintains_log (level : Log.Level) (message : String) :
    (log level message : Act κ Unit).Maintains P fun _ => True :=
  fun s => ⟨[], .ok (), _, runOn_log level message s, reaches_journal s _, trivial⟩

/-- A rule that holds gives its value, and one that is broken leaves no channel. -/
theorem maintains_check (r : Except BufferFault α) :
    (check r : Act κ α).Maintains P fun a => r = .ok a := by
  cases r with
  | ok a => exact maintains_pure rfl
  | error broken => exact maintains_fault broken.message

/-- **A loop maintains a property** when its turns do and keep an invariant. -/
theorem maintains_loop {turn : σ → Act κ (σ ⊕ α)} (inv : σ → Prop) {x : σ} (start : inv x)
    (step : ∀ x, inv x → (turn x).Maintains P fun r => r.elim inv returns) :
    (loop turn x).Maintains P returns := by
  have all (n : Nat) : ∀ x, inv x → (turns turn n x).Maintains P returns := by
    induction n with
    | zero => exact fun _ _ => maintains_throw nofun
    | succ n ih =>
      refine fun x start => (step x start).bind fun r post => ?_
      rcases r with y | a
      · exact ih y post
      · exact maintains_pure post
  exact fun s => ensures_get (all (s.budget + 1) x start s)

end Act

open Act

variable {P : Channel → Prop}

namespace Descriptor

theorem maintains_read (fd : Int) (len : Nat) :
    (read fd len : Act κ (Attempt Bytes)).Maintains P fun _ => True :=
  fun s => (read_ensures fd len s).mono (fun _ _ _ _ _ => trivial) fun _ _ _ _ halt => halt.2.spares

theorem maintains_write (fd : Int) (data : Bytes) :
    (write fd data : Act κ (Attempt Nat)).Maintains P fun _ => True :=
  fun s => (write_ensures fd data s).mono (fun _ _ _ _ _ => trivial)
    fun _ _ _ _ halt => halt.2.spares

end Descriptor

/-! ## Operations -/

namespace Channel

variable {c : Channel} {length : Nat}

/-- **A wait** leaves the channel as it is, also when there is no descriptor to poll. -/
theorem maintains_mayRetry (here : P c) (direction : Direction) (deadline : Deadline) :
    (c.mayRetry direction deadline : Act κ Bool).Maintains P fun _ => True := by
  have waits : (Act.leaving c (c.waiter.wait c.fd direction deadline) :
      Act κ WaitOutcome).Maintains P fun _ => True := by
    refine fun s => ensures_leaving c ((wait_ensures c.waiter c.fd direction deadline s).mono
      (fun _ _ _ _ _ => trivial) fun es h s' _ halt => ?_)
    rcases halt.2 with ⟨rfl, -⟩ | ⟨-, -, rfl⟩
    · exact nofun
    · rintro message left ⟨⟩
      exact here
  unfold mayRetry
  split
  · exact maintains_pure trivial
  · refine waits.bind fun outcome _ => ?_
    rcases outcome with got | _
    · exact fun s => ensures_require (fun _ => ensures_pure trivial) fun _ _ => nofun
    · exact maintains_pure trivial

/-- **One read toward a need** puts what it brings into the block that is there. -/
theorem maintains_readToward (spans : c.Spans length) (need : Nat) :
    (c.readToward need : Act κ _).Maintains (Spans length) fun r => r.2.Spans length := by
  unfold readToward
  split
  · refine (maintains_log _ _).bind fun _ _ =>
      (Descriptor.maintains_read c.fd need).bind fun outcome _ => ?_
    rcases outcome with bytes | _ | e
    · exact maintains_pure ⟨spans.input, spans.output⟩
    all_goals exact maintains_pure spans
  · refine (maintains_check _).bind fun slot ready =>
      (Descriptor.maintains_read c.fd slot.capacity).bind fun outcome _ => ?_
    have kept : slot.capacity = length :=
      (ReadAhead.capacity_of_beginRefill ready).trans spans.input
    rcases outcome with bytes | _ | e
    · refine (maintains_check _).bind fun full loaded => (maintains_check _).bind
        fun taken took => maintains_pure ⟨?_, spans.output⟩
      exact (ReadAhead.capacity_of_take took).trans
        ((ReadAhead.capacity_of_load loaded).trans kept)
    all_goals exact maintains_pure ⟨kept, spans.output⟩

theorem maintains_receive (spans : c.Spans length) (len low high : Nat) (deadline : Deadline) :
    (c.receive len low high deadline : Act κ _).Maintains (Spans length)
      fun r => r.2.Spans length := by
  unfold receive
  refine (maintains_check _).bind fun _ _ => (maintains_check _).bind fun taken took => ?_
  have after : Spans length { c with input := taken.2 } :=
    ⟨(ReadAhead.capacity_of_take took).trans spans.input, spans.output⟩
  dsimp only
  split
  · exact maintains_pure after
  · refine maintains_loop (fun x => x.2.Spans length) after fun x inv => ?_
    unfold readTurn
    dsimp only
    split
    · exact maintains_pure inv
    · refine (maintains_check _).bind fun need _ =>
        (maintains_readToward inv need).bind fun r kept => ?_
      obtain ⟨outcome, c'⟩ := r
      rcases outcome with (_ | ⟨first, bytes⟩) | _ | e
      · exact maintains_pure kept
      · exact maintains_pure kept
      · refine (maintains_mayRetry kept .readable deadline).bind fun goOn _ => ?_
        rcases goOn with _ | _
        all_goals exact maintains_pure kept
      · exact maintains_pure kept

theorem maintains_readBetween (spans : c.Spans length) (len low high : Nat) (deadline : Deadline) :
    (c.readBetween len low high deadline : Act κ _).Maintains (Spans length)
      fun r => r.2.Spans length := by
  unfold readBetween
  split
  · exact maintains_pure spans
  split
  · exact maintains_pure spans
  · exact maintains_receive spans len low high deadline

theorem maintains_readSome (spans : c.Spans length) (len : Nat) :
    (c.readSome len : Act κ _).Maintains (Spans length) fun r => r.2.Spans length := by
  unfold readSome
  split
  · exact maintains_pure spans
  · refine (maintains_readBetween spans len 1 len .never).bind fun r kept => ?_
    obtain ⟨⟨bytes, _ | e⟩, c'⟩ := r
    all_goals exact maintains_pure kept

theorem maintains_send (here : P c) (data : Bytes) (deadline : Deadline) :
    (c.send data deadline : Act κ _).Maintains P fun _ => True := by
  refine maintains_loop (fun _ => True) trivial fun sent _ => ?_
  unfold sendTurn
  split
  · exact maintains_pure trivial
  · refine (maintains_check _).bind fun rest _ =>
      (Descriptor.maintains_write c.fd rest).bind fun outcome _ => ?_
    rcases outcome with n | _ | e
    · exact maintains_pure trivial
    · refine (maintains_mayRetry here .writable deadline).bind fun goOn _ => ?_
      rcases goOn with _ | _
      all_goals exact maintains_pure trivial
    · exact maintains_pure trivial

/-- **A flush** empties its block or moves the rest of it to the front. -/
theorem maintains_flush (spans : c.Spans length) (deadline : Deadline) :
    (c.flush deadline : Act κ _).Maintains (Spans length) fun r => r.2.Spans length := by
  unfold flush
  split
  · exact maintains_pure spans
  · refine (maintains_send spans c.output.pending deadline).bind fun r _ => ?_
    obtain ⟨sent, _ | e⟩ := r
    · exact (maintains_log _ _).bind fun _ _ => maintains_pure ⟨spans.input, spans.output⟩
    · exact (maintains_check _).bind fun _ dropped => maintains_pure
        ⟨spans.input, (WriteBehind.capacity_of_dropSent dropped).trans spans.output⟩

theorem maintains_collect (spans : c.Spans length) (data : Bytes) :
    (c.collect data : Act κ _).Maintains (Spans length) fun r => r.2.Spans length :=
  (maintains_check _).bind fun _ appended => maintains_pure
    ⟨spans.input, (WriteBehind.capacity_of_append appended).trans spans.output⟩

theorem maintains_write (spans : c.Spans length) (data : Bytes) (deadline : Deadline) :
    (c.write data deadline : Act κ _).Maintains (Spans length) fun r => r.2.Spans length := by
  unfold write
  split
  · exact maintains_collect spans data
  · refine (maintains_flush spans deadline).bind fun r kept => ?_
    obtain ⟨e | _, c'⟩ := r
    · exact maintains_pure kept
    · dsimp only
      split
      · exact maintains_collect kept data
      · refine (maintains_log _ _).bind fun _ _ =>
          (maintains_send kept data deadline).bind fun r _ => ?_
        obtain ⟨sent, _ | e⟩ := r
        all_goals exact maintains_pure kept

theorem maintains_seek (spans : c.Spans length) (position : Nat) :
    (c.seek position : Act κ _).Maintains (Spans length) fun r => r.2.Spans length := by
  refine fun s => (c.seek_ensures position s).mono (fun es r s' _ sought => ?_)
    fun _ _ _ _ halt => halt.2.2.spares
  obtain ⟨result, c'⟩ := r
  cases sought with
  | refused => exact spans
  | moved => exact ⟨spans.input, spans.output⟩

theorem Behind.spares {es : Dialogue} {h : Halt} (behind : c.Behind es h) (here : P c) :
    h.Spares P := by
  obtain ⟨_, -, -, rfl⟩ := behind
  rintro message left ⟨⟩
  exact here

theorem maintains_tell (here : P c) : (c.tell : Act κ _).Maintains P fun _ => True :=
  fun s => (c.tell_ensures s).mono (fun _ _ _ _ _ => trivial)
    fun _ _ _ _ halt => halt.elim (fun asking => asking.2.2.spares) fun behind =>
      behind.spares here

theorem maintains_size (c : Channel) : (c.size : Act κ _).Maintains P fun _ => True :=
  fun s => (c.size_ensures s).mono (fun _ _ _ _ _ => trivial)
    fun _ _ _ _ asking => asking.2.2.spares

theorem maintains_targetPosition (here : P c) (target : SeekTarget) :
    (c.targetPosition target : Act κ _).Maintains P fun _ => True :=
  fun s => (c.targetPosition_ensures target s).mono (fun _ _ _ _ _ => trivial)
    fun _ _ _ _ halt => halt.elim (fun asking => asking.2.2.spares) fun behind =>
      behind.elim fun _ behind => behind.2.spares here

theorem maintains_reposition (spans : c.Spans length) (target : SeekTarget) :
    (c.reposition target : Act κ _).Maintains (Spans length) fun r => r.2.Spans length := by
  unfold reposition
  refine (maintains_flush spans .never).bind fun r kept => ?_
  obtain ⟨e | _, c'⟩ := r
  · exact maintains_pure kept
  · refine (maintains_targetPosition kept target).bind fun found _ => ?_
    rcases found with e | _ | position
    · exact maintains_pure kept
    · exact maintains_pure kept
    · exact (maintains_seek kept position).bind fun _ kept => maintains_pure kept

end Channel

/-- **Every operation keeps the length of both buffers.** -/
theorem Operation.maintains_run {c : Channel} {length : Nat} (spans : c.Spans length)
    (operation : Operation) :
    (operation.run c : Act κ _).Maintains (Channel.Spans length) fun r => r.2.Spans length := by
  have answers {β : Type} {act : Act κ (β × Channel)} {f : β → Answer}
      (h : act.Maintains (Channel.Spans length) fun r => r.2.Spans length) :
      (act >>= fun r => pure (f r.1, r.2) : Act κ (Answer × Channel)).Maintains
        (Channel.Spans length) (fun r => r.2.Spans length) :=
    h.bind fun _ kept => maintains_pure kept
  rcases operation with ⟨len, source⟩ | ⟨len, low, high, source⟩ | ⟨data, source⟩ | source |
    position | _ | _ | _ | len | data | _ | target
  · exact fun s => ensures_resolve source fun deadline =>
      answers (Channel.maintains_receive spans len len len deadline) s
  · exact fun s => ensures_resolve source fun deadline =>
      answers (Channel.maintains_readBetween spans len low high deadline) s
  · exact fun s => ensures_resolve source fun deadline =>
      answers (Channel.maintains_write spans data deadline) s
  · exact fun s => ensures_resolve source fun deadline =>
      answers (Channel.maintains_flush spans deadline) s
  · exact answers (Channel.maintains_seek spans position)
  · exact (Channel.maintains_tell spans).bind fun _ _ => maintains_pure spans
  · exact c.maintains_size.bind fun _ _ => maintains_pure spans
  · exact maintains_pure spans
  · exact answers (Channel.maintains_readSome spans len)
  · exact answers ((Channel.maintains_write spans data .never).bind fun _ kept =>
      maintains_pure kept)
  · exact answers ((Channel.maintains_flush spans .never).bind fun _ kept => maintains_pure kept)
  · exact answers (Channel.maintains_reposition spans target)

/-! ## Beginnings -/

/-- **Buffers are made** with the length that the system names. -/
theorem Act.allocateBuffers_spans (s : System κ) :
    (Act.allocateBuffers : Act κ _).Ensures s
      (fun _ r _ => ∀ buffers, r = .ok buffers →
        buffers.1.capacity = s.bufferLength ∧ buffers.2.capacity = s.bufferLength)
      (fun _ _ _ => True) :=
  (Act.allocateBuffers_makes s).mono (fun _ _ _ _ ⟨_, _, made⟩ buffers is =>
    ⟨ReadAhead.capacity_of_new (made buffers is).1,
      WriteBehind.capacity_of_new (made buffers is).2⟩)
    fun _ _ _ _ _ => trivial

namespace Channel

theorem prepare_spans (fd : Int) (s : System κ) :
    (prepare fd : Act κ _).Ensures s
      (fun _ r _ => ∀ kind input output, r = .ok (kind, input, output) →
        input.capacity = s.bufferLength ∧ output.capacity = s.bufferLength)
      (fun _ _ _ => True) := by
  unfold prepare Descriptor.kindOf
  refine Act.ensures_bind (M := fun _ _ _ => True) ?_ fun es r t reaches _ => ?_
  · exact Act.ensures_bind (ask_ensures (.stat fd) s).onward fun _ _ _ _ _ =>
      Act.ensures_pure trivial
  · rcases r with e | kind
    · exact Act.ensures_pure nofun
    · refine Act.ensures_bind (Act.allocateBuffers_spans t) fun _ r _ _ made => ?_
      refine Act.ensures_pure fun kind input output is => ?_
      rcases r with e | buffers
      · cases is
      · cases is
        rw [← reaches.bufferLength]
        exact made _ rfl

theorem openConfigured_spans (path : String) (flags : Flags) (mode : Nat) (config : Config)
    (waiter : Waiter) (s : System κ) :
    (openConfigured path flags mode config waiter : Act κ _).Ensures s
      (fun _ r _ => ∀ c, r = .ok c → c.Spans s.bufferLength) (fun _ _ _ => True) := by
  unfold openConfigured
  split
  · exact Act.ensures_pure nofun
  refine Act.ensures_bind (openPath_ensures ..).onward fun _ r _ opened _ => ?_
  rcases r with e | fd
  · exact Act.ensures_pure nofun
  refine Act.ensures_bind (waiter.claim_ensures fd _).onward fun _ _ t claimed _ =>
    Act.ensures_bind (prepare_spans fd t) fun _ r _ _ made => ?_
  rcases r with e | ⟨kind, input, output⟩
  · exact Act.ensures_bind (waiter.release_ensures fd _).onward fun _ _ _ _ _ =>
      Act.ensures_bind (Descriptor.closeQuietly_ensures fd _ _).onward fun _ _ _ _ _ =>
        Act.ensures_pure nofun
  · obtain ⟨first, second⟩ := made kind input output rfl
    have length : t.bufferLength = s.bufferLength := (opened.trans claimed).bufferLength
    refine Act.ensures_log _ _ fun j => Act.ensures_pure fun c is => ?_
    cases is
    exact ⟨first.trans length, second.trans length⟩

theorem adoptConfigured_spans (fd : Int) (config : Config) (waiter : Waiter) (s : System κ) :
    (adoptConfigured fd config waiter : Act κ _).Ensures s
      (fun _ r _ => ∀ c, r = .ok c → c.Spans s.bufferLength) (fun _ _ _ => True) := by
  unfold adoptConfigured
  refine Act.ensures_bind (Act.allocateBuffers_spans s) fun _ r _ _ made => ?_
  rcases r with e | ⟨input, output⟩
  · exact Act.ensures_pure nofun
  refine Act.ensures_bind (makeNonblocking_ensures fd waiter _).onward fun _ _ _ _ _ =>
    Act.ensures_bind (waiter.claim_ensures fd _).onward fun _ _ _ _ _ =>
      Act.ensures_log _ _ fun j => Act.ensures_pure fun c is => ?_
  cases is
  exact ⟨(made _ rfl).1, (made _ rfl).2⟩

end Channel

/-- **Every beginning makes buffers of the length that its system names.** -/
theorem Opening.run_spans (opening : Opening) (s : System κ) :
    (opening.run : Act κ _).Ensures s (fun _ r _ => ∀ c, r = .ok c → c.Spans s.bufferLength)
      (fun _ _ _ => True) := by
  rcases opening with ⟨path, flags, mode⟩ | path | ⟨path, flags, mode, config, waiter⟩ | fd |
    ⟨fd, config, waiter⟩
  iterate 3 exact Act.ensures_bind_quiet rfl (.refl s) (Channel.openConfigured_spans ..)
  iterate 2 exact Act.ensures_bind_quiet rfl (.refl s) (Channel.adoptConfigured_spans ..)

/-! ## Runs -/

/-- **The channels that a program can get hold of when buffers have a length**: begun in any way
where that length is named, operated on, and also left behind by an operation that broke a rule. -/
inductive Channel.ReachableAt (κ : Type) [Host κ] (length : Nat) : Channel → Prop
  | begun {c : Channel} {opening : Opening} {s s' : System κ} : s.bufferLength = length →
      opening.run.runOn s = (.ok (.ok c), s') → ReachableAt κ length c
  | operated {c c' : Channel} {operation : Operation} {answer : Answer} {s s' : System κ} :
      ReachableAt κ length c → (operation.run c).runOn s = (.ok (answer, c'), s') →
        ReachableAt κ length c'
  | broken {c left : Channel} {operation : Operation} {message : String} {s s' : System κ} :
      ReachableAt κ length c →
        (operation.run c).runOn s = (.error (.faulted message (some left)), s') →
          ReachableAt κ length left

/-- **All these channels have buffers of that length.** -/
theorem Channel.ReachableAt.spans {c : Channel} {length : Nat} (h : c.ReachableAt κ length) :
    c.Spans length := by
  induction h with
  | @begun c opening s s' named run =>
    obtain ⟨_, _, made⟩ := (opening.run_spans s).of_ok run
    exact named ▸ made c rfl
  | @operated c c' operation answer s s' _ run spans =>
    obtain ⟨_, _, kept⟩ := (operation.maintains_run spans s).of_ok run
    exact kept
  | @broken c left operation message s s' _ run spans =>
    obtain ⟨_, _, spared⟩ := (operation.maintains_run spans s).of_error run
    exact spared message left rfl

end BufferedChannels
