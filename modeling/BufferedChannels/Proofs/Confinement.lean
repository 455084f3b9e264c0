import BufferedChannels.Session.Run
import BufferedChannels.Proofs.Ensures

/-!
# Proofs/Confinement — an operation keeps to its descriptor

Whatever an operation does, every exchange of it **uses the descriptor of its channel** and neither
closes it nor tells anybody of owners, and the channel stays on its descriptor and with its waiter,
also when a rule is broken on the way.  Nothing is assumed of buffers or hosts, so it is enough to
look at the requests that are made: there is one rule for each way in which computations are put
together.
-/

namespace BufferedChannels

/-- **An exchange that uses a descriptor**: it moves bytes or the position, asks or waits. -/
def Exchange.Uses (fd : Int) (e : Exchange) : Prop :=
  match e.request with
  | .read target _ | .write target _ | .seek target .. | .stat target | .poll target ..
  | .wait target .. => target = fd
  | _ => False

/-- **What a channel holds**: a descriptor, of which its waiter was told, if it is still its own. -/
structure Hold where
  fd : Int
  waiter : Waiter
  owned : Bool

/-- What a channel holds. -/
def Channel.hold (c : Channel) : Hold := ⟨c.fd, c.waiter, c.owned⟩

/-- A halt after which the channel holds what it held. -/
def Halt.Leaves (hold : Hold) (h : Halt) : Prop :=
  ∀ message left, h = .faulted message (some left) → left.hold = hold

/-- **Nothing but uses of a descriptor**, and nobody comes to own anything. -/
structure Hold.Used {κ : Type} (hold : Hold) (s : System κ) (es : Dialogue) (s' : System κ) :
    Prop where
  uses : ∀ e ∈ es, e.Uses hold.fd
  ownership : s'.ownership = s.ownership

namespace Act

variable {κ : Type} [Host κ] {α β σ : Type} {hold : Hold} {returns : α → Prop}

/-- **A computation confined to a hold** uses the descriptor only. -/
def Confined (act : Act κ α) (hold : Hold) (returns : α → Prop) : Prop :=
  ∀ s, act.Ensures s (fun es a s' => hold.Used s es s' ∧ returns a)
    (fun es h s' => hold.Used s es s' ∧ h.Leaves hold)

omit [Host κ] in
theorem used_silent (hold : Hold) {s s' : System κ} (same : s'.ownership = s.ownership) :
    hold.Used s [] s' := ⟨List.forall_mem_nil _, same⟩

theorem confined_pure {a : α} (h : returns a) : (pure a : Act κ α).Confined hold returns :=
  fun _ => ensures_pure ⟨used_silent hold rfl, h⟩

theorem confined_throw {e : Halt} (h : e.Leaves hold) :
    (throw e : Act κ α).Confined hold returns :=
  fun _ => ensures_throw ⟨used_silent hold rfl, h⟩

/-- **One part after another.** -/
theorem Confined.bind {act : Act κ α} {next : α → Act κ β} {returns' : β → Prop}
    (first : act.Confined hold returns)
    (rest : ∀ a, returns a → (next a).Confined hold returns') :
    (act >>= next).Confined hold returns' := by
  intro s
  have joined {es es' : Dialogue} {s₁ s₂ : System κ} (before : hold.Used s es s₁)
      (after : hold.Used s₁ es' s₂) : hold.Used s (es ++ es') s₂ :=
    ⟨fun e he => (List.mem_append.1 he).elim (before.uses e) (after.uses e),
      after.ownership.trans before.ownership⟩
  exact ensures_bind (first s) fun _ a s₁ _ post => (rest a post.2 s₁).mono
    (fun _ _ _ _ post' => ⟨joined post.1 post'.1, post'.2⟩)
    fun _ _ _ _ post' => ⟨joined post.1 post'.1, post'.2⟩

/-- **A request of the descriptor** is one use of it. -/
theorem confined_call {r : Request} (uses : ∀ reply, Exchange.Uses hold.fd ⟨r, reply⟩) :
    (call r : Act κ r.Reply).Confined hold (fun _ => True) := fun _ =>
  ensures_ask r (fun _ _ same => ⟨⟨fun _ he => List.mem_singleton.1 he ▸ uses _, same⟩, trivial⟩)
    fun _ => ⟨used_silent hold rfl, nofun⟩

theorem confined_log (level : Log.Level) (message : String) :
    (log level message : Act κ Unit).Confined hold (fun _ => True) := fun s =>
  ⟨[], .ok (), _, runOn_log level message s, reaches_journal s _, used_silent hold rfl, trivial⟩

theorem confined_logLoss (c : Channel) (operation : String) :
    (c.logLoss operation : Act κ Unit).Confined hold (fun _ => True) := by
  intro s
  obtain ⟨j, run⟩ := runOn_logLoss c operation s
  exact ⟨[], .ok (), _, run, reaches_journal s j, used_silent hold rfl, trivial⟩

theorem confined_get : (get : Act κ (System κ)).Confined hold (fun _ => True) := fun s =>
  ⟨[], .ok s, s, runOn_get s, .refl s, used_silent hold rfl, trivial⟩

theorem confined_now : (now : Act κ Nat).Confined hold (fun _ => True) :=
  confined_get.bind fun _ _ => confined_pure trivial

theorem confined_fault (message : String) : (fault message : Act κ α).Confined hold returns :=
  confined_throw nofun

theorem confined_check (r : Except BufferFault α) :
    (check r : Act κ α).Confined hold (fun _ => True) := by
  cases r with
  | ok a => exact confined_pure trivial
  | error broken => exact confined_fault broken.message

theorem confined_require (condition : Bool) (message : String) :
    (require condition message : Act κ Unit).Confined hold (fun _ => True) := by
  cases condition with
  | true => exact confined_pure trivial
  | false => exact fun s => ensures_abort fun j => ⟨used_silent hold rfl, nofun⟩

/-- A computation that leaves a channel leaves what the channel holds. -/
theorem Confined.leaving {act : Act κ α} (h : act.Confined hold returns) {c : Channel}
    (here : c.hold = hold) : (Act.leaving c act).Confined hold returns := fun s =>
  ensures_leaving c ((h s).mono (fun _ _ _ _ post => post) fun es e s' _ post => ⟨post.1, by
    intro message left is
    rcases e with ⟨text, _ | other⟩ | _ | _
    · cases is
      exact here
    · exact post.2 message left is
    · cases is
    · cases is⟩)

/-- **A loop is confined** when its turns are and keep an invariant. -/
theorem confined_loop {turn : σ → Act κ (σ ⊕ α)} (inv : σ → Prop) {x : σ} (start : inv x)
    (step : ∀ x, inv x → (turn x).Confined hold fun r => r.elim inv returns) :
    (loop turn x).Confined hold returns := by
  have all (n : Nat) : ∀ x, inv x → (turns turn n x).Confined hold returns := by
    induction n with
    | zero => exact fun _ _ => confined_throw nofun
    | succ n ih =>
      refine fun x start => (step x start).bind fun r post => ?_
      rcases r with y | a
      · exact ih y post
      · exact confined_pure post
  exact confined_get.bind fun s _ => all (s.budget + 1) x start

end Act

open Act

variable {κ : Type} [Host κ] {hold : Hold}

/-! ## Waits and single calls -/

section

variable {fd : Int}

theorem Waiter.confined_wait (w : Waiter) (here : fd = hold.fd) (direction : Direction)
    (deadline : Deadline) :
    (w.wait fd direction deadline : Act κ WaitOutcome).Confined hold (fun _ => True) := by
  unfold wait
  rcases w with scope | notified
  · dsimp only
    split
    · exact confined_fault _
    · refine confined_loop (fun _ => True) trivial fun _ _ => ?_
      unfold pollTurn
      refine Confined.bind confined_now fun _ _ => Confined.bind (confined_log _ _) fun _ _ =>
        Confined.bind (confined_call fun _ => here) fun reply _ => ?_
      cases (reply : Polled) with
      | ready => exact confined_pure trivial
      | timedOut => exact confined_pure trivial
      | never => exact confined_throw nofun
      | failed e =>
        dsimp only
        split
        · refine Confined.bind confined_now fun _ _ => ?_
          split
          · exact confined_pure trivial
          · exact confined_pure trivial
        · exact Confined.bind (confined_log _ _) fun _ _ => confined_pure trivial
  · exact Confined.bind confined_now fun _ _ => confined_call fun _ => here

namespace Descriptor

theorem confined_retry {α : Type} {ask : Act κ (Except Errno α)}
    (asks : ask.Confined hold fun _ => True) :
    (Act.loop (fun _ => return Attempt.ofReply (← ask)) ()).Confined hold (fun _ => True) :=
  confined_loop (fun _ => True) trivial fun _ _ => Confined.bind asks fun reply _ =>
    confined_pure (by cases Attempt.ofReply reply <;> trivial)

theorem confined_read (here : fd = hold.fd) (len : Nat) :
    (read fd len : Act κ (Attempt Bytes)).Confined hold (fun _ => True) :=
  confined_retry (confined_call fun _ => here)

theorem confined_write (here : fd = hold.fd) (data : Bytes) :
    (write fd data : Act κ (Attempt Nat)).Confined hold (fun _ => True) :=
  confined_retry (confined_call fun _ => here)

theorem confined_seek (here : fd = hold.fd) {offset : Int} {whence : Whence} :
    (do return settle (← Act.call (.seek fd offset whence)) :
      Act κ (Except ChannelError Nat)).Confined hold (fun _ => True) :=
  Confined.bind (confined_call fun _ => here) fun _ _ => confined_pure trivial

theorem confined_seekTo (here : fd = hold.fd) (position : Nat) :
    (seekTo fd position : Act κ (Except ChannelError Nat)).Confined hold (fun _ => True) := by
  unfold seekTo
  split
  · exact confined_pure trivial
  · exact confined_seek here

end Descriptor

end

namespace Channel

variable {c : Channel}

theorem fd_of_hold (here : c.hold = hold) : c.fd = hold.fd := congrArg Hold.fd here

theorem confined_mayRetry (here : c.hold = hold) (direction : Direction) (deadline : Deadline) :
    (c.mayRetry direction deadline : Act κ Bool).Confined hold (fun _ => True) := by
  unfold mayRetry
  split
  · exact confined_pure trivial
  · refine Confined.bind ((c.waiter.confined_wait (fd_of_hold here) direction deadline).leaving
      here) fun outcome _ => ?_
    rcases outcome with got | _
    · exact Confined.bind (confined_require _ _) fun _ _ => confined_pure trivial
    · exact confined_pure trivial

/-! ## Reads -/

theorem confined_readToward (here : c.hold = hold) (need : Nat) :
    (c.readToward need : Act κ _).Confined hold (fun r => r.2.hold = hold) := by
  unfold readToward
  split
  · refine Confined.bind (confined_log _ _) fun _ _ =>
      Confined.bind (Descriptor.confined_read (fd_of_hold here) need) fun outcome _ => ?_
    rcases outcome with bytes | _ | e
    all_goals exact confined_pure here
  · refine Confined.bind (confined_check _) fun slot _ => Confined.bind
      (Descriptor.confined_read (fd_of_hold here) slot.capacity) fun outcome _ => ?_
    rcases outcome with bytes | _ | e
    · exact Confined.bind (confined_check _) fun _ _ => Confined.bind (confined_check _)
        fun _ _ => confined_pure here
    all_goals exact confined_pure here

theorem confined_receive (here : c.hold = hold) (len low high : Nat) (deadline : Deadline) :
    (c.receive len low high deadline : Act κ _).Confined hold (fun r => r.2.hold = hold) := by
  unfold receive
  refine Confined.bind (confined_check _) fun _ _ => Confined.bind (confined_check _)
    fun taken _ => ?_
  dsimp only
  split
  · exact confined_pure here
  · refine confined_loop (fun x => x.2.hold = hold) here fun x inv => ?_
    unfold readTurn
    dsimp only
    split
    · exact confined_pure inv
    · refine Confined.bind (confined_check _) fun need _ =>
        Confined.bind (confined_readToward inv need) fun r same => ?_
      obtain ⟨outcome, c'⟩ := r
      rcases outcome with (_ | ⟨first, bytes⟩) | _ | e
      · exact confined_pure same
      · exact confined_pure same
      · refine Confined.bind (confined_mayRetry same .readable deadline) fun goOn _ => ?_
        rcases goOn with _ | _
        all_goals exact confined_pure same
      · exact confined_pure same

theorem confined_readBetween (here : c.hold = hold) (len low high : Nat) (deadline : Deadline) :
    (c.readBetween len low high deadline : Act κ _).Confined hold (fun r => r.2.hold = hold) := by
  unfold readBetween
  split
  · exact confined_pure here
  split
  · exact confined_pure here
  · exact confined_receive here len low high deadline

theorem confined_readSome (here : c.hold = hold) (len : Nat) :
    (c.readSome len : Act κ _).Confined hold (fun r => r.2.hold = hold) := by
  unfold readSome
  split
  · exact confined_pure here
  · refine Confined.bind (confined_readBetween here len 1 len .never) fun r same => ?_
    obtain ⟨⟨bytes, _ | e⟩, c'⟩ := r
    all_goals exact confined_pure same

/-! ## Writes -/

theorem confined_send (here : c.hold = hold) (data : Bytes) (deadline : Deadline) :
    (c.send data deadline : Act κ _).Confined hold (fun _ => True) := by
  refine confined_loop (fun _ => True) trivial fun sent _ => ?_
  unfold sendTurn
  split
  · exact confined_pure trivial
  · refine Confined.bind (confined_check _) fun rest _ => Confined.bind
      (Descriptor.confined_write (fd_of_hold here) rest) fun outcome _ => ?_
    rcases outcome with n | _ | e
    · exact confined_pure trivial
    · refine Confined.bind (confined_mayRetry here .writable deadline) fun goOn _ => ?_
      rcases goOn with _ | _
      all_goals exact confined_pure trivial
    · exact confined_pure trivial

theorem confined_flush (here : c.hold = hold) (deadline : Deadline) :
    (c.flush deadline : Act κ _).Confined hold (fun r => r.2.hold = hold) := by
  unfold flush
  split
  · exact confined_pure here
  · refine Confined.bind (confined_send here c.output.pending deadline) fun r _ => ?_
    obtain ⟨sent, _ | e⟩ := r
    · exact Confined.bind (confined_log _ _) fun _ _ => confined_pure here
    · exact Confined.bind (confined_check _) fun _ _ => confined_pure here

theorem confined_collect (here : c.hold = hold) (data : Bytes) :
    (c.collect data : Act κ _).Confined hold (fun r => r.2.hold = hold) :=
  Confined.bind (confined_check _) fun _ _ => confined_pure here

theorem confined_write (here : c.hold = hold) (data : Bytes) (deadline : Deadline) :
    (c.write data deadline : Act κ _).Confined hold (fun r => r.2.hold = hold) := by
  unfold write
  split
  · exact confined_collect here data
  · refine Confined.bind (confined_flush here deadline) fun r same => ?_
    obtain ⟨e | _, c'⟩ := r
    · exact confined_pure same
    · dsimp only
      split
      · exact confined_collect same data
      · refine Confined.bind (confined_log _ _) fun _ _ =>
          Confined.bind (confined_send same data deadline) fun r _ => ?_
        obtain ⟨sent, _ | e⟩ := r
        all_goals exact confined_pure same

/-! ## Positions -/

theorem confined_seek (here : c.hold = hold) (position : Nat) :
    (c.seek position : Act κ _).Confined hold (fun r => r.2.hold = hold) := by
  unfold seek
  split
  · exact confined_pure here
  · exact Confined.bind (confined_logLoss c _) fun _ _ => Confined.bind
      (Descriptor.confined_seekTo (fd_of_hold here) position) fun _ _ => confined_pure here

theorem confined_tell (here : c.hold = hold) :
    (c.tell : Act κ _).Confined hold (fun _ => True) := by
  unfold tell
  refine Confined.bind (Descriptor.confined_seek (fd_of_hold here)) fun r _ => ?_
  rcases r with e | physical
  · exact confined_pure trivial
  · dsimp only
    split
    · have stops : (Act.leaving c (Act.fault "attempt to subtract with overflow") :
          Act κ Unit).Confined hold (fun _ => False) := (confined_fault _).leaving here
      exact Confined.bind stops fun _ no => no.elim
    · exact confined_pure trivial

theorem confined_size (here : c.hold = hold) :
    (c.size : Act κ _).Confined hold (fun _ => True) := by
  unfold size
  split
  · exact Confined.bind (confined_log _ _) fun _ _ => confined_pure trivial
  · refine Confined.bind (Descriptor.confined_seek (fd_of_hold here)) fun first _ => ?_
    rcases first with e | position
    · exact confined_pure trivial
    refine Confined.bind (Descriptor.confined_seek (fd_of_hold here)) fun second _ => ?_
    rcases second with e | stop
    · exact confined_pure trivial
    refine Confined.bind (Descriptor.confined_seekTo (fd_of_hold here) position) fun third _ => ?_
    rcases third with e | back
    · exact confined_pure trivial
    · exact confined_pure trivial

theorem confined_targetPosition (here : c.hold = hold) (target : SeekTarget) :
    (c.targetPosition target : Act κ _).Confined hold (fun _ => True) := by
  unfold targetPosition
  rcases target with n | delta | delta
  · exact confined_pure trivial
  · exact Confined.bind (confined_tell here) fun _ _ => confined_pure trivial
  · exact Confined.bind (confined_size here) fun _ _ => confined_pure trivial

theorem confined_reposition (here : c.hold = hold) (target : SeekTarget) :
    (c.reposition target : Act κ _).Confined hold (fun r => r.2.hold = hold) := by
  unfold reposition
  refine Confined.bind (confined_flush here .never) fun r same => ?_
  obtain ⟨e | _, c'⟩ := r
  · exact confined_pure same
  · refine Confined.bind (confined_targetPosition same target) fun found _ => ?_
    rcases found with e | _ | position
    · exact confined_pure same
    · exact confined_pure same
    · exact Confined.bind (confined_seek same position) fun _ same => confined_pure same

end Channel

/-! ## All operations -/

theorem DeadlineSource.confined_resolve (source : DeadlineSource) :
    (source.resolve : Act κ _).Confined hold (fun _ => True) := by
  rcases source with _ | duration | instant
  · exact confined_pure trivial
  · exact Confined.bind confined_now fun _ _ => confined_pure trivial
  · exact confined_pure trivial

/-- **Every operation is confined** to what its channel holds. -/
theorem Operation.confined_run {c : Channel} (here : c.hold = hold) (operation : Operation) :
    (operation.run c : Act κ _).Confined hold (fun r => r.2.hold = hold) := by
  have answers {β : Type} {act : Act κ (β × Channel)} {f : β → Answer}
      (h : act.Confined hold fun r => r.2.hold = hold) :
      (do let (r, c') ← act; return (f r, c') : Act κ (Answer × Channel)).Confined hold
        (fun r => r.2.hold = hold) := h.bind fun _ same => confined_pure same
  rcases operation with ⟨len, source⟩ | ⟨len, low, high, source⟩ | ⟨data, source⟩ | source |
    position | _ | _ | _ | len | data | _ | target
  · exact Confined.bind source.confined_resolve fun deadline _ =>
      answers (Channel.confined_receive here len len len deadline)
  · exact Confined.bind source.confined_resolve fun deadline _ =>
      answers (Channel.confined_readBetween here len low high deadline)
  · exact Confined.bind source.confined_resolve fun deadline _ =>
      answers (Channel.confined_write here data deadline)
  · exact Confined.bind source.confined_resolve fun deadline _ =>
      answers (Channel.confined_flush here deadline)
  · exact answers (Channel.confined_seek here position)
  · exact Confined.bind (Channel.confined_tell here) fun _ _ => confined_pure here
  · exact Confined.bind (Channel.confined_size here) fun _ _ => confined_pure here
  · exact confined_pure here
  · exact answers (Channel.confined_readSome here len)
  · exact answers (Confined.bind (Channel.confined_write here data .never) fun _ same =>
      confined_pure same)
  · exact answers (Confined.bind (Channel.confined_flush here .never) fun _ same =>
      confined_pure same)
  · exact answers (Channel.confined_reposition here target)

end BufferedChannels
