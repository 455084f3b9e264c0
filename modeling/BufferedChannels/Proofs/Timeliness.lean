import BufferedChannels.Proofs.Clock
import BufferedChannels.Proofs.CutShort
import BufferedChannels.Proofs.Milliseconds
import BufferedChannels.Proofs.Operating

/-!
# Proofs/Timeliness — a timeout is not early

On a punctual host, a polling wait that times out has a deadline, and by then either the deadline
has passed or the **longest poll** was waited out in full: the deadline is `Due`.  The first holds
of every deadline that one poll can reach, and a deadline farther away is given up early.  Reads,
writes and flushes time out only by such a wait (`CutShort`), so the same holds of them.
-/

namespace BufferedChannels

namespace Deadline

/-- **A deadline is due**, for a wait that began at `start`: its instant has come, or the longest
poll has been waited out.  Without an instant it is never due. -/
def Due (d : Deadline) (start now : Nat) : Prop :=
  ∃ t, d.instant? = some t ∧ min t (start + longestPoll * millisecond) ≤ now

variable {d : Deadline} {start mid now : Nat}

theorem not_due_never : ¬ never.Due start now := nofun

theorem due_of_hasPassed (h : d.hasPassed now = true) : d.Due start now := by
  obtain ⟨t, is, le⟩ := hasPassed_iff.1 h
  exact ⟨t, is, Nat.le_trans (Nat.min_le_left _ _) le⟩

/-- **A deadline that one poll can reach** has passed when it is due. -/
theorem Due.hasPassed (h : d.Due start now)
    (near : ∀ t, d.instant? = some t → t ≤ start + longestPoll * millisecond) :
    d.hasPassed now = true := by
  obtain ⟨t, is, le⟩ := h
  exact hasPassed_iff.2 ⟨t, is, Nat.min_eq_left (near t is) ▸ le⟩

/-- What is due for a wait is due for all that began before it. -/
theorem Due.earlier (h : d.Due mid now) (le : start ≤ mid) : d.Due start now := by
  obtain ⟨t, is, due⟩ := h
  exact ⟨t, is, by omega⟩

/-- **A timeout that was waited out** leaves the deadline due. -/
theorem due_of_timeout {ms : Nat} (is : (d.left? mid).map pollMilliseconds = some ms)
    (le : mid + ms * millisecond ≤ now) : d.Due mid now := by
  obtain ⟨left, remains, rfl⟩ := Option.map_eq_some_iff.1 is
  obtain ⟨t, at_, rfl⟩ := Option.map_eq_some_iff.1 remains
  have covers := min_le_pollMilliseconds (t - mid)
  exact ⟨t, at_, by omega⟩

end Deadline

variable {κ : Type} [Host κ] [Host.Punctual κ]

/-! ## Waits -/

/-- **A poll that timed out** took at least its timeout, whatever memory was asked for around it. -/
theorem System.Reaches.timeout_le {s s' : System κ} {fd : Int} {direction : Direction}
    {timeout : Option Nat} (h : s.Reaches [⟨.poll fd direction timeout, Polled.timedOut⟩] s') :
    ∃ ms, timeout = some ms ∧
      Host.now s.host + ms * Deadline.millisecond ≤ Host.now s'.host := by
  obtain ⟨k, r, before, same, after⟩ := h.host.next (P := fun k => Host.now s.host ≤ Host.now k)
    (fun k le => Nat.le_trans le (Host.Punctual.now_le_allocate k)) (Nat.le_refl _)
  obtain ⟨rfl, reply⟩ := Exchange.mk.inj same
  obtain ⟨ms, is, le⟩ := Host.Punctual.timedOut k fd direction timeout (eq_of_heq reply).symm
  have later := after.now_le
  exact ⟨ms, is, by omega⟩

/-- **Polling times out** only when the deadline is due. -/
theorem poll_due (fd : Int) (direction : Direction) (deadline : Deadline) (s : System κ) :
    (Act.loop (Waiter.pollTurn fd direction deadline) ()).Ensures s
      (fun _ outcome s' => outcome = .timedOut →
        deadline.Due (Host.now s.host) (Host.now s'.host))
      (fun _ _ _ => True) := by
  refine Act.ensures_loop (fun _ _ _ => True) trivial fun es _ s₁ reached _ => ?_
  have began := reached.now_le
  refine Waiter.pollTurn_ensures (P := fun reply s' =>
      s₁.Reaches [Waiter.pollAt fd direction deadline (Host.now s₁.host) reply] s')
    (fun _ _ => trivial) (fun _ _ reaches _ _ => reaches) (fun _ _ => nofun)
    (fun s' reaches _ => ?_) (fun _ _ => trivial)
    (fun _ _ _ _ passed _ => Deadline.due_of_hasPassed passed) (fun _ _ _ _ => trivial)
    fun _ _ _ _ _ => nofun
  obtain ⟨ms, is, le⟩ := reaches.timeout_le
  exact (Deadline.due_of_timeout is le).earlier began

/-- **A polling wait times out** only when its deadline is due. -/
theorem Waiter.due_of_timedOut {scope : Scope} {fd : Int} {direction : Direction}
    {deadline : Deadline} {s s' : System κ}
    (run : ((Waiter.polling scope).wait fd direction deadline).runOn s = (.ok .timedOut, s')) :
    deadline.Due (Host.now s.host) (Host.now s'.host) := by
  unfold Waiter.wait at run
  dsimp only at run
  split at run
  · cases run
  · obtain ⟨_, _, due⟩ := (poll_due fd direction deadline s).of_ok run
    exact due rfl

/-! ## Transfers -/

/-- **A transfer that is cut short by a timeout** is so when its deadline is due. -/
theorem Channel.CutShort.due {c : Channel} {direction : Direction} {deadline : Deadline}
    {s s' : System κ} {es : Dialogue} {e : ChannelError}
    (h : c.CutShort direction deadline s es e s') {scope : Scope}
    (polls : c.waiter = .polling scope) (timeout : e.isTimeout = true) :
    deadline.Due (Host.now s.host) (Host.now s'.host) := by
  cases h with
  | refused => cases timeout
  | late _ _ _ before _ timedOut =>
    rw [polls] at timedOut
    exact (Waiter.due_of_timedOut timedOut).earlier before.now_le

/-- The deadline that a source makes at a time. -/
def DeadlineSource.madeAt (now : Nat) : DeadlineSource → Deadline
  | .never => .never
  | .after duration => .after now duration
  | .ofInstant instant => .ofInstant instant

omit [Host.Punctual κ] in
theorem runOn_resolve (source : DeadlineSource) (s : System κ) :
    (source.resolve : Act κ Deadline).runOn s = (.ok (source.madeAt (Host.now s.host)), s) := by
  cases source <;> rfl

/-- The deadline of a transfer. -/
def Operation.deadline? : Operation → Option DeadlineSource
  | .read _ source | .readBetween _ _ _ source | .write _ source | .flush source => some source
  | _ => none

/-- Whether an answer says that a deadline passed. -/
def Answer.isTimeout : Answer → Bool
  | .reading r => r.error?.any ChannelError.isTimeout
  | .count (.error e) | .finished (.error e) => e.isTimeout
  | _ => false

/-- The failure of a transfer. -/
def Answer.failure? : Answer → Option ChannelError
  | .reading r => r.error?
  | .count (.error e) | .finished (.error e) => some e
  | _ => none

theorem Answer.isTimeout_eq (answer : Answer) :
    answer.isTimeout = answer.failure?.any ChannelError.isTimeout := by
  cases answer with
  | count result | finished result => cases result <;> rfl
  | _ => rfl

omit [Host.Punctual κ] in
/-- **A transfer that fails** was cut short, or its marks were refused. -/
theorem Operation.run_cutShort {operation : Operation} {source : DeadlineSource}
    (has : operation.deadline? = some source) {c : Channel} (wf : c.WellFormed) (s : System κ) :
    (operation.run c).Ensures s
      (fun es r s' => ∀ e, r.1.failure? = some e → (∃ rule, e = .invalidArgument rule) ∨
        ∃ direction, c.CutShort direction (source.madeAt (Host.now s.host)) s es e s')
      (fun _ _ _ => True) := by
  have reads (len low high : Nat) (marks : low ≤ high) (fits : high ≤ len) (deadline : Deadline) :
      (c.receive len low high deadline).Ensures s
        (fun es r s' => ∀ e, (Answer.reading r.1).failure? = some e →
          (∃ rule, e = .invalidArgument rule) ∨
            ∃ direction, c.CutShort direction deadline s es e s') (fun _ _ _ => True) :=
    (Channel.receive_endsReading wf marks fits deadline s).mono
      (fun _ _ _ _ ends e failed => .inr ⟨_, ends.cut e failed⟩) fun _ _ _ _ _ => trivial
  rcases operation with ⟨len, source⟩ | ⟨len, low, high, source⟩ | ⟨data, source⟩ | source |
    _ | _ | _ | _ | _ | _ | _ | _
  all_goals cases has
  all_goals refine Act.ensures_bind_quiet (runOn_resolve _ s) (.refl s) (ensures_answer ?_)
  · -- `read`
    exact reads len len len (Nat.le_refl _) (Nat.le_refl _) _
  · -- `readBetween`
    unfold Channel.readBetween
    split
    · exact Act.ensures_pure fun e is => .inl ⟨_, (Option.some.inj is).symm⟩
    split
    · exact Act.ensures_pure fun e is => .inl ⟨_, (Option.some.inj is).symm⟩
    · exact reads len low high (by omega) (by omega) _
  · -- `write`
    refine (Channel.write_cutShort wf data _ s).mono (fun _ r _ _ cut e failed => ?_)
      fun _ _ _ _ _ => trivial
    obtain ⟨e | n, c'⟩ := r
    · exact .inr ⟨_, Option.some.inj failed ▸ cut e rfl⟩
    · cases failed
  · -- `flush`
    refine (Channel.flush_cutShort wf _ s).mono (fun _ r _ _ cut e failed => ?_)
      fun _ _ _ _ _ => trivial
    obtain ⟨e | _, c'⟩ := r
    · exact .inr ⟨_, Option.some.inj failed ▸ cut e rfl⟩
    · cases failed

/-- **A transfer times out** only when its deadline is due. -/
theorem Operation.run_due {operation : Operation} {source : DeadlineSource}
    (has : operation.deadline? = some source) {c : Channel} (wf : c.WellFormed) {scope : Scope}
    (polls : c.waiter = .polling scope) (s : System κ) :
    (operation.run c).Ensures s
      (fun _ r s' => r.1.isTimeout = true →
        (source.madeAt (Host.now s.host)).Due (Host.now s.host) (Host.now s'.host))
      (fun _ _ _ => True) := by
  refine (Operation.run_cutShort has wf s).mono (fun es r s' _ cut late => ?_)
    fun _ _ _ _ _ => trivial
  rw [Answer.isTimeout_eq] at late
  obtain ⟨e, failed, late⟩ := (Option.any_eq_true _ _).1 late
  obtain ⟨rule, rfl⟩ | ⟨direction, cut⟩ := cut e failed
  · cases late
  · exact cut.due polls late

/-! ## Timeouts -/

/-- **A timeout comes when its deadline is due.**  When a polling wait times out, or a read, a
write or a flush of a channel that polls, then there is a deadline, and by now it has passed or the
longest poll has been waited out since the beginning. -/
theorem timeout_due (scope : Scope) (s s' : System κ) :
    (∀ fd direction deadline,
        ((Waiter.polling scope).wait fd direction deadline).runOn s = (.ok .timedOut, s') →
          deadline.Due (Host.now s.host) (Host.now s'.host)) ∧
      ∀ (c c' : Channel) (operation : Operation) (source : DeadlineSource) (answer : Answer),
        c.WellFormed → c.waiter = .polling scope → operation.deadline? = some source →
          (operation.run c).runOn s = (.ok (answer, c'), s') → answer.isTimeout = true →
            (source.madeAt (Host.now s.host)).Due (Host.now s.host) (Host.now s'.host) := by
  refine ⟨fun fd direction deadline run => Waiter.due_of_timedOut run,
    fun c c' operation source answer wf polls has run late => ?_⟩
  obtain ⟨_, _, due⟩ := (Operation.run_due has wf polls s).of_ok run
  exact due late

/-! A pipe on which nothing ever happens. -/

/-- The kernel of the pipe, and its descriptor. -/
def idlePipe : System Simulation.Kernel where
  host :=
    { nodes := [("p", { body := .stream {} })]
      descriptors := [(3, { node := "p", flags := { access := .readWrite } })] }
  budget := 40

/-- A channel on the pipe that polls. -/
def idleChannel : Channel :=
  { fd := 3, kind := .unasked, input := ⟨[0, 0, 0, 0], 0, 0⟩, output := ⟨[0, 0, 0, 0], 0⟩,
    verbose := false, waiter := .polling .shared }

theorem idleChannel_wellFormed : idleChannel.WellFormed :=
  ⟨⟨Nat.zero_le _, fun _ => rfl⟩, Nat.zero_le _⟩

/-- A wait for bytes that ends after five milliseconds. -/
def idleWait : Act Simulation.Kernel WaitOutcome :=
  (Waiter.polling .shared).wait 3 .readable (.ofInstant 5000000)

/-- A read that is given seven milliseconds. -/
def idleRead : Act Simulation.Kernel (Answer × Channel) :=
  (Operation.read 2 (.after 7000000)).run idleChannel

theorem timeout_due_idlePipe :
    (Deadline.ofInstant 5000000).Due 0 (Host.now (idleWait.runOn idlePipe).2.host) ∧
      (Deadline.after 0 7000000).Due 0 (Host.now (idleRead.runOn idlePipe).2.host) := by
  have waited : idleWait.runOn idlePipe = (.ok .timedOut, (idleWait.runOn idlePipe).2) := rfl
  have read : idleRead.runOn idlePipe =
      (.ok (.reading ⟨[], some (.timedOut 0)⟩, idleChannel), (idleRead.runOn idlePipe).2) := rfl
  have wf : idleChannel.WellFormed :=
    ⟨⟨Nat.zero_le _, fun _ => rfl⟩, Nat.zero_le _⟩
  exact ⟨(timeout_due .shared idlePipe _).1 3 .readable _ waited,
    (timeout_due .shared idlePipe _).2 _ _ _ (.after 7000000) _ wf rfl rfl read rfl⟩

/-- **A deadline that one poll cannot reach is given up early**: the longest poll lasts less than
twenty-five days, and the deadline here is farther away. -/
theorem not_timeout_only_after_deadline : ¬ ∀ (s s' : System Simulation.Kernel) (scope : Scope)
    (fd : Int) (direction : Direction) (deadline : Deadline),
      ((Waiter.polling scope).wait fd direction deadline).runOn s = (.ok .timedOut, s') →
        deadline.hasPassed (Host.now s'.host) = true := fun onTime =>
  absurd (onTime idlePipe _ .shared 3 .readable (.ofInstant 3000000000000000) rfl) (by decide)

end BufferedChannels
