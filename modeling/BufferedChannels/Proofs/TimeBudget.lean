import Mathlib
import BufferedChannels.Proofs.Operating
import BufferedChannels.Proofs.Timeliness

/-!
# Proofs/TimeBudget — one deadline is one budget of time

A read, a write or a flush may wait many times, each wait may be interrupted many times, and every
poll rounds what is left up to a whole millisecond.  The deadline is **absolute**, so the roundings
do not add up: a transfer moves the clock `Within` the instant of its deadline, which is not at all
once that instant has come, and else to less than a millisecond behind it.  The relation is
transitive, and that is what carries it through interruptions, suspensions and loops.
-/

namespace BufferedChannels

namespace Deadline

/-- **The clock moves within a limit**: forward, to less than a millisecond behind the later of
start and limit, and not at all from the limit on. -/
structure Within (limit start stop : Nat) : Prop where
  le : start ≤ stop
  lt : stop < max start limit + millisecond
  still : limit ≤ start → stop = start

variable {limit start mid stop : Nat}

theorem Within.refl (limit start : Nat) : Within limit start start :=
  ⟨Nat.le_refl _, Nat.lt_of_le_of_lt (Nat.le_max_left _ _) (Nat.lt_add_of_pos_right (by decide)),
    fun _ => rfl⟩

/-- **Spans within a limit join**, and only the last of them can go beyond it. -/
theorem Within.trans (h : Within limit start mid) (h' : Within limit mid stop) :
    Within limit start stop := by
  obtain ⟨le, lt, still⟩ := h
  obtain ⟨le', lt', still'⟩ := h'
  exact ⟨Nat.le_trans le le', by omega, by omega⟩

/-- **A poll that takes no longer than its timeout** stays within the limit. -/
theorem Within.of_poll (le : start ≤ stop)
    (short : stop ≤ start + pollMilliseconds (limit - start) * millisecond) :
    Within limit start stop := by
  have less := pollMilliseconds_lt (limit - start)
  refine ⟨le, by omega, fun come => ?_⟩
  -- Nothing is left, and the timeout is zero.
  rw [Nat.sub_eq_zero_of_le come, show pollMilliseconds 0 = 0 from rfl] at short
  omega

end Deadline

/-! ## Prompt runs -/

/-- **An exchange takes no time that it may not take**: only polls move the clock, and a poll lasts
at most its timeout. -/
def Exchange.Prompt (e : Exchange) (start stop : Nat) : Prop :=
  match e.request with
  | .poll _ _ timeout =>
    start ≤ stop ∧ ∀ ms ∈ timeout, stop ≤ start + ms * Deadline.millisecond
  | _ => stop = start

instance (e : Exchange) (start stop : Nat) : Decidable (e.Prompt start stop) := by
  unfold Exchange.Prompt
  split <;> infer_instance

variable {κ : Type} [Host κ]

namespace Host

/-- The host after a dialogue. -/
def after (k : κ) : Dialogue → κ
  | [] => k
  | e :: es => after (answer k e.request).2 es

/-- The exchanges of a dialogue, each with the clock before and after it. -/
def spans (k : κ) : Dialogue → List (Exchange × Nat × Nat)
  | [] => []
  | e :: es =>
    (e, now k, now (answer k e.request).2) :: spans (answer k e.request).2 es

/-- **A prompt run**: each exchange of the dialogue is prompt. -/
def Prompt (k : κ) (es : Dialogue) : Prop :=
  ∀ span ∈ spans k es, span.1.Prompt span.2.1 span.2.2

instance (k : κ) (es : Dialogue) : Decidable (Prompt k es) := List.decidableBAll _ _

theorem after_append (k : κ) (es es' : Dialogue) :
    after k (es ++ es') = after (after k es) es' := by
  induction es generalizing k with
  | nil => rfl
  | cons e es ih => exact ih _

theorem spans_append (k : κ) (es es' : Dialogue) :
    spans k (es ++ es') = spans k es ++ spans (after k es) es' := by
  induction es generalizing k with
  | nil => rfl
  | cons e es ih => exact congrArg (_ :: ·) (ih _)

theorem prompt_append {k : κ} {es es' : Dialogue} :
    Prompt k (es ++ es') ↔ Prompt k es ∧ Prompt (after k es) es' := by
  rw [Prompt, spans_append]
  exact List.forall_mem_append

end Host

/-- **A dialogue takes a host to another within a limit**: it led there, and if it was prompt, then
the clock moved within the limit. -/
structure Host.Passes (limit : Nat) (k : κ) (es : Dialogue) (k' : κ) : Prop where
  host : k' = Host.after k es
  within : Host.Prompt k es → Deadline.Within limit (Host.now k) (Host.now k')

namespace Host.Passes

variable {limit : Nat} {k k' k'' : κ} {es es' : Dialogue}

theorem refl (limit : Nat) (k : κ) : Passes limit k [] k := ⟨rfl, fun _ => .refl limit _⟩

theorem trans (h : Passes limit k es k') (h' : Passes limit k' es' k'') :
    Passes limit k (es ++ es') k'' where
  host := by rw [Host.after_append, ← h.host, h'.host]
  within prompt := by
    obtain ⟨first, rest⟩ := Host.prompt_append.1 prompt
    rw [← h.host] at rest
    exact (h.within first).trans (h'.within rest)

end Host.Passes

/-! ## Computations that keep within a limit -/

namespace Act

variable {α β σ : Type} {limit : Nat} {returns : α → Prop}

/-- **A computation keeps within a limit**, however it ends, and gives such values only. -/
def KeepsWithin (limit : Nat) (act : Act κ α) (returns : α → Prop) : Prop :=
  ∀ s, act.Ensures s (fun es a s' => Host.Passes limit s.host es s'.host ∧ returns a)
    (fun es _ s' => Host.Passes limit s.host es s'.host)

theorem keepsWithin_pure {a : α} (h : returns a) : (pure a : Act κ α).KeepsWithin limit returns :=
  fun _ => ensures_pure ⟨.refl limit _, h⟩

theorem KeepsWithin.imp {act : Act κ α} {returns' : α → Prop} (h : act.KeepsWithin limit returns)
    (weaker : ∀ a, returns a → returns' a) : act.KeepsWithin limit returns' := fun s =>
  (h s).mono (fun _ _ _ _ post => ⟨post.1, weaker _ post.2⟩) fun _ _ _ _ post => post

theorem keepsWithin_throw (h : Halt) : (throw h : Act κ α).KeepsWithin limit returns :=
  fun _ => ensures_throw (.refl limit _)

/-- What follows a span within the limit **lengthens it**. -/
theorem KeepsWithin.following {act : Act κ α} (h : act.KeepsWithin limit returns) {k : κ}
    {es : Dialogue} {s : System κ} (before : Host.Passes limit k es s.host) :
    act.Ensures s (fun es' a s' => Host.Passes limit k (es ++ es') s'.host ∧ returns a)
      (fun es' _ s' => Host.Passes limit k (es ++ es') s'.host) :=
  (h s).mono (fun _ _ _ _ post => ⟨before.trans post.1, post.2⟩)
    fun _ _ _ _ post => before.trans post

/-- **One part after another.** -/
theorem KeepsWithin.bind {act : Act κ α} {next : α → Act κ β} {returns' : β → Prop}
    (first : act.KeepsWithin limit returns)
    (rest : ∀ a, returns a → (next a).KeepsWithin limit returns') :
    (act >>= next).KeepsWithin limit returns' := fun s =>
  ensures_bind (first s) fun _ a _ _ post => (rest a post.2).following post.1

theorem keepsWithin_log (level : Log.Level) (message : String) :
    (log level message : Act κ Unit).KeepsWithin limit (fun _ => True) := fun s =>
  ⟨[], .ok (), _, runOn_log level message s, reaches_journal s _, .refl limit _, trivial⟩

theorem keepsWithin_get : (get : Act κ (System κ)).KeepsWithin limit (fun _ => True) := fun s =>
  ⟨[], .ok s, s, runOn_get s, .refl s, .refl limit _, trivial⟩

theorem keepsWithin_now : (now : Act κ Nat).KeepsWithin limit (fun _ => True) :=
  keepsWithin_get.bind fun _ _ => keepsWithin_pure trivial

theorem keepsWithin_check (r : Except BufferFault α) :
    (check r : Act κ α).KeepsWithin limit (fun _ => True) := by
  cases r with
  | ok a => exact keepsWithin_pure trivial
  | error broken => exact keepsWithin_throw _

theorem keepsWithin_require (condition : Bool) (message : String) :
    (require condition message : Act κ Unit).KeepsWithin limit (fun _ => True) := by
  cases condition with
  | true => exact keepsWithin_pure trivial
  | false => exact fun s => ensures_abort fun j => .refl limit s.host

theorem KeepsWithin.leaving {act : Act κ α} (h : act.KeepsWithin limit returns) (c : Channel) :
    (Act.leaving c act).KeepsWithin limit returns := fun s => ensures_leaving c (h s)

/-- **A loop keeps within a limit** when its turns do. -/
theorem keepsWithin_loop {turn : σ → Act κ (σ ⊕ α)} (inv : σ → Prop) {x : σ} (start : inv x)
    (step : ∀ x, inv x → (turn x).KeepsWithin limit fun r => r.elim inv returns) :
    (loop turn x).KeepsWithin limit returns := by
  have all (n : Nat) : ∀ x, inv x → (turns turn n x).KeepsWithin limit returns := by
    induction n with
    | zero => exact fun _ _ => keepsWithin_throw _
    | succ n ih =>
      refine fun x start => (step x start).bind fun r post => ?_
      rcases r with y | a
      · exact ih y post
      · exact keepsWithin_pure post
  exact keepsWithin_get.bind fun s _ => all (s.budget + 1) x start

/-- **A request** keeps within a limit if a prompt reply to it does. -/
theorem ensures_passes (r : Request) {s : System κ}
    (kept : Exchange.Prompt ⟨r, (Host.answer s.host r).1⟩ (Host.now s.host)
      (Host.now (Host.answer s.host r).2) →
        Deadline.Within limit (Host.now s.host) (Host.now (Host.answer s.host r).2)) :
    (call r : Act κ r.Reply).Ensures s (fun es _ s' => Host.Passes limit s.host es s'.host)
      (fun es _ s' => Host.Passes limit s.host es s'.host) :=
  ensures_exchange r (fun _ _ same _ =>
    ⟨same, fun prompt => same ▸ kept (prompt _ List.mem_cons_self)⟩)
    fun _ => .refl limit _

/-- A request that is no poll leaves the clock alone. -/
theorem keepsWithin_call {r : Request}
    (still : ∀ reply start stop, Exchange.Prompt ⟨r, reply⟩ start stop → stop = start) :
    (call r : Act κ r.Reply).KeepsWithin limit (fun _ => True) := fun _ =>
  (ensures_passes r fun prompt => still _ _ _ prompt ▸ .refl limit _).mono
    (fun _ _ _ _ post => ⟨post, trivial⟩) fun _ _ _ _ post => post

end Act

open Act

variable {limit : Nat} {deadline : Deadline}

/-! ## Waits -/

/-- **One poll keeps within the deadline**: its timeout is what is left, rounded up. -/
theorem Waiter.pollTurn_keepsWithin (is : deadline.instant? = some limit) (fd : Int)
    (direction : Direction) :
    (pollTurn fd direction deadline () : Act κ _).KeepsWithin limit (fun _ => True) := by
  intro s
  have left : deadline.left? (Host.now s.host) = some (limit - Host.now s.host) := by
    rw [Deadline.left?, is]
    rfl
  unfold pollTurn
  refine ensures_now (ensures_log _ _ fun j => ?_)
  rw [left]
  refine ensures_bind (ensures_passes _ fun prompt =>
    .of_poll prompt.1 (prompt.2 _ rfl)) fun es reply s₁ _ polled => ?_
  refine KeepsWithin.following ?_ polled
  cases (reply : Polled) with
  | ready => exact keepsWithin_pure trivial
  | timedOut => exact keepsWithin_pure trivial
  | never => exact keepsWithin_throw _
  | failed e =>
    dsimp only
    split
    · refine KeepsWithin.bind keepsWithin_now fun _ _ => ?_
      split
      · exact keepsWithin_pure trivial
      · exact keepsWithin_pure trivial
    · exact KeepsWithin.bind (keepsWithin_log _ _) fun _ _ => keepsWithin_pure trivial

/-- **A polling wait keeps within its deadline**, however often it is interrupted. -/
theorem Waiter.wait_keepsWithin (is : deadline.instant? = some limit) (scope : Scope) (fd : Int)
    (direction : Direction) :
    ((Waiter.polling scope).wait fd direction deadline : Act κ _).KeepsWithin limit
      (fun _ => True) := by
  unfold wait
  dsimp only
  split
  · exact keepsWithin_throw _
  · exact keepsWithin_loop (fun _ => True) trivial fun _ _ =>
      (pollTurn_keepsWithin is fd direction).imp fun r _ => by cases r <;> trivial

namespace Descriptor

theorem retry_keepsWithin {α : Type} {ask : Act κ (Except Errno α)}
    (asks : ask.KeepsWithin limit fun _ => True) :
    (Act.loop (fun _ => return Attempt.ofReply (← ask)) ()).KeepsWithin limit (fun _ => True) :=
  keepsWithin_loop (fun _ => True) trivial fun _ _ => KeepsWithin.bind asks fun reply _ =>
    keepsWithin_pure (by cases Attempt.ofReply reply <;> trivial)

theorem read_keepsWithin (fd : Int) (len : Nat) :
    (read fd len : Act κ (Attempt Bytes)).KeepsWithin limit (fun _ => True) :=
  retry_keepsWithin (keepsWithin_call fun _ _ _ same => same)

theorem write_keepsWithin (fd : Int) (data : Bytes) :
    (write fd data : Act κ (Attempt Nat)).KeepsWithin limit (fun _ => True) :=
  retry_keepsWithin (keepsWithin_call fun _ _ _ same => same)

end Descriptor

/-! ## Transfers -/

namespace Channel

variable {c : Channel} {scope : Scope}

theorem mayRetry_keepsWithin (is : deadline.instant? = some limit)
    (polls : c.waiter = .polling scope) (direction : Direction) :
    (c.mayRetry direction deadline : Act κ Bool).KeepsWithin limit (fun _ => True) := by
  unfold mayRetry
  split
  · exact keepsWithin_pure trivial
  · rw [polls]
    refine KeepsWithin.bind ((Waiter.wait_keepsWithin is scope c.fd direction).leaving c)
      fun outcome _ => ?_
    rcases outcome with got | _
    · exact KeepsWithin.bind (keepsWithin_require _ _) fun _ _ => keepsWithin_pure trivial
    · exact keepsWithin_pure trivial

theorem readToward_keepsWithin (polls : c.waiter = .polling scope) (need : Nat) :
    (c.readToward need : Act κ _).KeepsWithin limit (fun r => r.2.waiter = .polling scope) := by
  unfold readToward
  split
  · refine KeepsWithin.bind (keepsWithin_log _ _) fun _ _ =>
      KeepsWithin.bind (Descriptor.read_keepsWithin c.fd need) fun outcome _ => ?_
    rcases outcome with bytes | _ | e
    all_goals exact keepsWithin_pure polls
  · refine KeepsWithin.bind (keepsWithin_check _) fun slot _ =>
      KeepsWithin.bind (Descriptor.read_keepsWithin c.fd slot.capacity) fun outcome _ => ?_
    rcases outcome with bytes | _ | e
    · exact KeepsWithin.bind (keepsWithin_check _) fun _ _ =>
        KeepsWithin.bind (keepsWithin_check _) fun _ _ => keepsWithin_pure polls
    all_goals exact keepsWithin_pure polls

theorem readTurn_keepsWithin (is : deadline.instant? = some limit) (len low high : Nat)
    {x : Bytes × Channel} (polls : x.2.waiter = .polling scope) :
    (readTurn len low high deadline x : Act κ _).KeepsWithin limit
      fun r => r.elim (fun y => y.2.waiter = .polling scope) fun _ => True := by
  unfold readTurn
  dsimp only
  split
  · exact keepsWithin_pure trivial
  · refine KeepsWithin.bind (keepsWithin_check _) fun need _ =>
      KeepsWithin.bind (readToward_keepsWithin polls need) fun r same => ?_
    obtain ⟨outcome, c'⟩ := r
    rcases outcome with (_ | ⟨first, bytes⟩) | _ | e
    · exact keepsWithin_pure trivial
    · exact keepsWithin_pure same
    · refine KeepsWithin.bind (mayRetry_keepsWithin is same .readable) fun goOn _ => ?_
      rcases goOn with _ | _
      · exact keepsWithin_pure trivial
      · exact keepsWithin_pure same
    · exact keepsWithin_pure trivial

theorem receive_keepsWithin (is : deadline.instant? = some limit)
    (polls : c.waiter = .polling scope) (len low high : Nat) :
    (c.receive len low high deadline : Act κ _).KeepsWithin limit (fun _ => True) := by
  unfold receive
  refine KeepsWithin.bind (keepsWithin_check _) fun _ _ =>
    KeepsWithin.bind (keepsWithin_check _) fun taken _ => ?_
  dsimp only
  split
  · exact keepsWithin_pure trivial
  · exact keepsWithin_loop (fun x => x.2.waiter = .polling scope) polls fun x inv =>
      readTurn_keepsWithin is len low high inv

theorem readBetween_keepsWithin (is : deadline.instant? = some limit)
    (polls : c.waiter = .polling scope) (len low high : Nat) :
    (c.readBetween len low high deadline : Act κ _).KeepsWithin limit (fun _ => True) := by
  unfold readBetween
  split
  · exact keepsWithin_pure trivial
  split
  · exact keepsWithin_pure trivial
  · exact receive_keepsWithin is polls len low high

theorem send_keepsWithin (is : deadline.instant? = some limit)
    (polls : c.waiter = .polling scope) (data : Bytes) :
    (c.send data deadline : Act κ _).KeepsWithin limit (fun _ => True) := by
  refine keepsWithin_loop (fun _ => True) trivial fun sent _ => ?_
  unfold sendTurn
  split
  · exact keepsWithin_pure trivial
  · refine KeepsWithin.bind (keepsWithin_check _) fun rest _ =>
      KeepsWithin.bind (Descriptor.write_keepsWithin c.fd rest) fun outcome _ => ?_
    rcases outcome with n | _ | e
    · exact keepsWithin_pure trivial
    · refine KeepsWithin.bind (mayRetry_keepsWithin is polls .writable) fun goOn _ => ?_
      rcases goOn with _ | _
      all_goals exact keepsWithin_pure trivial
    · exact keepsWithin_pure trivial

theorem flush_keepsWithin (is : deadline.instant? = some limit)
    (polls : c.waiter = .polling scope) :
    (c.flush deadline : Act κ _).KeepsWithin limit (fun r => r.2.waiter = .polling scope) := by
  unfold flush
  split
  · exact keepsWithin_pure polls
  · refine KeepsWithin.bind (send_keepsWithin is polls c.output.pending) fun r _ => ?_
    obtain ⟨sent, _ | e⟩ := r
    · exact KeepsWithin.bind (keepsWithin_log _ _) fun _ _ => keepsWithin_pure polls
    · exact KeepsWithin.bind (keepsWithin_check _) fun _ _ => keepsWithin_pure polls

theorem collect_keepsWithin (c : Channel) (data : Bytes) :
    (c.collect data : Act κ _).KeepsWithin limit (fun _ => True) :=
  KeepsWithin.bind (keepsWithin_check _) fun _ _ => keepsWithin_pure trivial

theorem write_keepsWithin (is : deadline.instant? = some limit)
    (polls : c.waiter = .polling scope) (data : Bytes) :
    (c.write data deadline : Act κ _).KeepsWithin limit (fun _ => True) := by
  unfold write
  split
  · exact collect_keepsWithin c data
  · refine KeepsWithin.bind (flush_keepsWithin is polls) fun r same => ?_
    obtain ⟨e | _, c'⟩ := r
    · exact keepsWithin_pure trivial
    · dsimp only
      split
      · exact collect_keepsWithin c' data
      · refine KeepsWithin.bind (keepsWithin_log _ _) fun _ _ =>
          KeepsWithin.bind (send_keepsWithin is same data) fun r _ => ?_
        obtain ⟨sent, _ | e⟩ := r
        all_goals exact keepsWithin_pure trivial

end Channel

/-- **Every transfer of a channel that polls keeps within its deadline.** -/
theorem Operation.run_keepsWithin {c : Channel} {scope : Scope} (polls : c.waiter = .polling scope)
    {operation : Operation} {source : DeadlineSource} (has : operation.deadline? = some source)
    {s : System κ} (is : (source.madeAt (Host.now s.host)).instant? = some limit) :
    (operation.run c).Ensures s (fun es _ s' => Host.Passes limit s.host es s'.host)
      (fun es _ s' => Host.Passes limit s.host es s'.host) := by
  have kept {β : Type} {act : Act κ β} {P : β → Prop} (h : act.KeepsWithin limit P) :
      act.Ensures s (fun es _ s' => Host.Passes limit s.host es s'.host)
        (fun es _ s' => Host.Passes limit s.host es s'.host) :=
    (h s).mono (fun _ _ _ _ post => post.1) fun _ _ _ _ post => post
  rcases operation with ⟨len, source⟩ | ⟨len, low, high, source⟩ | ⟨data, source⟩ | source |
    _ | _ | _ | _ | _ | _ | _ | _
  all_goals cases has
  all_goals refine Act.ensures_bind_quiet (runOn_resolve _ s) (.refl s) (ensures_answer ?_)
  · exact kept (Channel.receive_keepsWithin is polls len len len)
  · exact kept (Channel.readBetween_keepsWithin is polls len low high)
  · exact kept (Channel.write_keepsWithin is polls data)
  · exact kept (Channel.flush_keepsWithin is polls)

/-- **One deadline is one budget of time.**  Let a channel that polls run a read, a write or a flush
whose deadline comes at `limit`, and let the run be prompt: nothing but polls moves the clock, and
no poll, whether it is completed, interrupted or failing, lasts longer than its timeout.  However
the operation ends, and however many polls it made, the clock is then less than a millisecond behind
the later of the limit and the beginning, and it stands still if the limit had come at the
beginning. -/
theorem Operation.run_within {c : Channel} {scope : Scope} (polls : c.waiter = .polling scope)
    {operation : Operation} {source : DeadlineSource} (has : operation.deadline? = some source)
    {s s' : System κ} (is : (source.madeAt (Host.now s.host)).instant? = some limit)
    {outcome : Except Halt (Answer × Channel)} (run : (operation.run c).runOn s = (outcome, s'))
    {es : Dialogue} (trace : s'.trace = es.reverse ++ s.trace) (prompt : Host.Prompt s.host es) :
    s'.host = Host.after s.host es ∧
      Host.now s'.host < max (Host.now s.host) limit + Deadline.millisecond ∧
        (limit ≤ Host.now s.host → Host.now s'.host = Host.now s.host) := by
  obtain ⟨es', outcome', s'', run', reaches, post⟩ := Operation.run_keepsWithin polls has is
  obtain ⟨rfl, rfl⟩ := Prod.mk.inj (run.symm.trans run')
  obtain rfl := reaches.eq_of_trace trace
  have passed : Host.Passes limit s.host es' s'.host := by cases outcome <;> exact post
  exact ⟨passed.host, (passed.within prompt).lt, (passed.within prompt).still⟩

/-! A pipe on which polls are interrupted, and a byte comes that is not enough. -/

/-- The kernel of the pipe, and its descriptor. -/
def restlessPipe : System Simulation.Kernel where
  host :=
    { clock := 1000000
      nodes := [("p", { body := .stream {}
                        script := [(.poll, { delay := 2000001, errno? := some .interrupted }),
                          (.poll, { delay := 1500000, errno? := some .interrupted })] })]
      descriptors := [(3, { node := "p", flags := { access := .readWrite } })]
      events := [(5000000, { node := "p", push := [7] })] }
  budget := 40

/-- A read of two bytes that is given seven and a half milliseconds. -/
def restlessRead : Act Simulation.Kernel (Answer × Channel) :=
  (Operation.read 2 (.after 7500000)).run idleChannel

theorem run_within_restlessPipe :
    Host.Prompt restlessPipe.host (restlessRead.runOn restlessPipe).2.trace.reverse ∧
      (restlessRead.runOn restlessPipe).2.trace.countP Exchange.isSuspension = 4 ∧
      Host.now (restlessRead.runOn restlessPipe).2.host < 8500000 + Deadline.millisecond := by
  have prompt : Host.Prompt restlessPipe.host (restlessRead.runOn restlessPipe).2.trace.reverse :=
    by decide +kernel
  have polls : idleChannel.waiter = .polling .shared := rfl
  have has : (Operation.read 2 (.after 7500000)).deadline? = some (.after 7500000) := rfl
  have is : (DeadlineSource.madeAt (Host.now restlessPipe.host) (.after 7500000)).instant? =
    some 8500000 := by decide
  have trace : (restlessRead.runOn restlessPipe).2.trace =
      (restlessRead.runOn restlessPipe).2.trace.reverse.reverse ++ restlessPipe.trace := by
    rw [List.reverse_reverse]
    exact (List.append_nil _).symm
  have run : restlessRead.runOn restlessPipe =
    ((restlessRead.runOn restlessPipe).1, (restlessRead.runOn restlessPipe).2) :=
      (Prod.eta _).symm
  have within := Operation.run_within polls has is run trace prompt
  exact ⟨prompt, by decide +kernel, within.2.1⟩

end BufferedChannels
