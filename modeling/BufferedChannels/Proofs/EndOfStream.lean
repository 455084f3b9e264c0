import BufferedChannels.Proofs.Conservation
import BufferedChannels.Proofs.CutShort
import BufferedChannels.Proofs.Wire

/-!
# Proofs/EndOfStream — what a channel remembers of the end

The mark `ended` of a channel tells **whether a read of it came back empty** since the channel was
made or last moved, whatever was done with it and on whatever host (`Channel.Recalls.ended_eq`); and
when the mark comes to be set, nothing is buffered.  So on a source that does not grow, a channel at
the end has handed on **the whole of it** (`History.whole_of_ended`).
-/

namespace BufferedChannels

/-! ## Moves -/

/-- A request for a position counted from the start. -/
def Exchange.isMove (e : Exchange) : Bool :=
  match e.request with
  | .seek _ _ .start => true
  | _ => false

/-- How often a target is moved to on the way to its position: measuring a file moves back. -/
def SeekTarget.detours : SeekTarget → Nat
  | .finish _ => 1
  | _ => 0

/-- **Whether an operation moves its channel** to a position that the kernel can name, whatever the
kernel replies. -/
def Operation.relocates : Operation → Dialogue → Bool
  | .seek position, _ => position ≤ Descriptor.maxOffset
  | .reposition target, es => target.detours < es.countP Exchange.isMove
  | _, _ => false

namespace Channel

variable {c c' : Channel} {es : Dialogue}

theorem countP_isMove_of_writes (h : es.Writes c) : es.countP Exchange.isMove = 0 := by
  refine List.countP_eq_zero.2 fun e he => ?_
  obtain ⟨_, waits⟩ | ⟨data, reply, _, rfl⟩ := h e he
  · obtain ⟨request, reply⟩ := e
    cases request <;> first | exact Bool.false_ne_true | cases waits
  · exact Bool.false_ne_true

/-- **Finding a target** takes its detours, if it names a position. -/
theorem Targeted.countP_isMove {target : SeekTarget} {r : Except ChannelError (Option Nat)}
    (h : c.Targeted target es r) : es.countP Exchange.isMove ≤ target.detours ∧
      ∀ position, r = .ok (some position) → es.countP Exchange.isMove = target.detours := by
  rcases h with _ | ⟨_, _ | _⟩ | ⟨_, _ | _ | _ | _ | _ | _⟩
  all_goals simp [SeekTarget.detours, List.countP_cons, Descriptor.seeking, Exchange.isMove,
    Except.map]

/-! ## What is noticed of an end -/

/-- **What a channel notices of a dialogue**: whether the end was seen in it, and then nothing is
buffered. -/
structure Notices (c : Channel) (es : Dialogue) (c' : Channel) : Prop where
  ended : c'.ended = (c.ended || es.sawEnd)
  empty : es.sawEnd = true → c'.input.live = []

/-- Where the end is not seen, the mark stays. -/
theorem notices_of_unseen (unseen : es.sawEnd = false) (same : c'.ended = c.ended) :
    c.Notices es c' where
  ended := by rw [unseen, Bool.or_false, same]
  empty := fun seen => absurd (unseen.symm.trans seen) Bool.false_ne_true

theorem notices_of_still (still : ∀ e ∈ es, e.isStill = true) : c.Notices es c :=
  notices_of_unseen (Dialogue.Fruitless.of_still c.fd still).sawEnd rfl

theorem Rewritten.ended (h : c.Rewritten c') : c'.ended = c.ended := by rw [h.same]

theorem Rewritten.notices (h : c.Rewritten c') (writes : es.Writes c) : c.Notices es c' :=
  notices_of_unseen writes.sawEnd h.ended

/-- A broken rule of which nothing more is said leaves no channel. -/
theorem faulted_none_ne (message message' : String) (left : Channel) :
    Halt.faulted message none ≠ .faulted message' (some left) := fun is => by cases is

/-- **The channel that a halt leaves** has seen no end since. -/
def Unnoticed (c : Channel) (es : Dialogue) (h : Halt) : Prop :=
  ∀ message left, h = .faulted message (some left) → left.ended = c.ended ∧ es.sawEnd = false

theorem Behind.unnoticed {h : Halt} (behind : c.Behind es h) : c.Unnoticed es h := by
  obtain ⟨physical, rfl, _, rfl⟩ := behind
  intro message left is
  obtain ⟨_, rfl⟩ : _ ∧ c = left := by simpa using is
  exact ⟨rfl, rfl⟩

variable {κ : Type} [Host κ]

omit [Host κ] in
theorem HaltsAsking.unnoticed {h : Halt} {s : System κ} (halts : c.HaltsAsking es h s) :
    c.Unnoticed es h := by
  obtain ⟨_, _, rfl, _⟩ := halts
  nofun

/-! ## Reads -/

/-- A wait that breaks a rule leaves its channel as it was. -/
theorem mayRetry_unnoticed (c : Channel) (direction : Direction) (deadline : Deadline)
    (s : System κ) :
    (c.mayRetry direction deadline).Ensures s (fun _ _ _ => True)
      (fun es h _ => c.Unnoticed es h) := by
  unfold mayRetry
  cases c.kind.alwaysReady with
  | true => exact Act.ensures_pure trivial
  | false =>
    refine Act.ensures_bind (M := fun _ _ _ => True) (Act.ensures_leaving c ((wait_ensures c.waiter
      c.fd direction deadline s).mono (fun _ _ _ _ _ => trivial)
      fun es h s' _ ⟨waits, halt⟩ message left is => ?_)) fun es outcome s' _ _ => ?_
    · obtain ⟨rfl, _⟩ | ⟨_, _, rfl⟩ := halt
      · cases is
      · cases is
        exact ⟨rfl, (Dialogue.Fruitless.of_still c.fd fun e he =>
          Exchange.isStill_of_isSuspension (waits e he)).sawEnd⟩
    · cases outcome with
      | timedOut => exact Act.ensures_pure trivial
      | ready got => exact Act.ensures_require (fun _ => Act.ensures_pure trivial) fun _ _ => nofun

/-- One read toward a need leaves no channel when it halts. -/
theorem readToward_leavesNone (c : Channel) (need : Nat) (s : System κ) :
    (c.readToward need).Ensures s (fun _ _ _ => True)
      (fun _ h _ => ∀ message left, h ≠ .faulted message (some left)) := by
  have attempt (len : Nat) (s : System κ) : (Descriptor.read c.fd len).Ensures s (fun _ _ _ => True)
      (fun _ h _ => ∀ message left, h ≠ .faulted message (some left)) :=
    (Descriptor.read_ensures c.fd len s).mono (fun _ _ _ _ _ => trivial)
      fun _ _ _ _ ⟨_, spent⟩ => spent.1 ▸ nofun
  unfold readToward
  split
  · refine Act.ensures_log _ _ fun j => Act.ensures_bind (attempt need _) fun _ outcome _ _ _ => ?_
    rcases outcome with bytes | _ | e
    all_goals exact Act.ensures_pure trivial
  · refine Act.ensures_check_or (fun slot _ => ?_) fun _ _ => faulted_none_ne _
    refine Act.ensures_bind (attempt slot.capacity s) fun _ outcome _ _ _ => ?_
    rcases outcome with bytes | _ | e
    · exact Act.ensures_check_or (fun loaded _ => Act.ensures_check_or
        (fun taken _ => Act.ensures_pure trivial) fun _ _ => faulted_none_ne _)
        fun _ _ => faulted_none_ne _
    all_goals exact Act.ensures_pure trivial

/-- **A turn of a read** that halts has seen no end. -/
theorem readTurn_unnoticed {c₀ : Channel} (wf : c₀.WellFormed) {len low high : Nat}
    (marks : low ≤ high) (fits : high ≤ len) (deadline : Deadline) {received : Bytes}
    (h : c₀.Receiving low high es received c) (s : System κ) :
    (readTurn len low high deadline (received, c)).Ensures s
      (Act.turned (fun _ _ _ => True) (fun _ _ _ => True) es)
      (fun es' halt _ => c₀.Unnoticed (es ++ es') halt) := by
  refine readTurn_ensures_of_attempt wf marks fits h (fun _ => (readToward_leavesNone c _ s).mono
    (fun _ _ _ _ h => h) fun _ _ _ _ none message left is => absurd is (none message left))
    (fun _ => trivial) (fun _ _ _ _ _ _ => trivial) (fun _ _ _ _ _ _ _ _ => trivial)
    (fun _ _ _ _ _ _ _ => trivial) fun es' c' s' _ before toward _ => ?_
  have next := h.toward marks before toward nofun
  refine (c'.mayRetry_unnoticed .readable deadline s').mono
    (fun _ _ _ _ _ => ⟨fun _ => trivial, fun _ => trivial⟩)
    fun ws halt _ _ unnoticed message left is => ?_
  obtain ⟨same, unseen⟩ := unnoticed message left is
  rw [same, ← List.append_assoc, Dialogue.sawEnd_append, next.sawEnd, unseen]
  exact ⟨next.ended, rfl⟩

/-- **A read notices the end** exactly when it sees it. -/
theorem receive_notices (wf : c.WellFormed) {len low high : Nat} (marks : low ≤ high)
    (fits : high ≤ len) (deadline : Deadline) (s : System κ) :
    (c.receive len low high deadline).Ensures s (fun es r _ => c.Notices es r.2)
      (fun es h _ => c.Unnoticed es h) := by
  have halts : (c.receive len low high deadline).Ensures s (fun _ _ _ => True)
      (fun es h _ => c.Unnoticed es h) :=
    receive_ensures_of_turns wf marks fits (fun _ _ _ => True) (fun _ _ _ => trivial)
      (fun _ _ _ _ => trivial) fun _ _ s' _ h _ => readTurn_unnoticed wf marks fits deadline h s'
  refine ((receive_ensures wf marks fits deadline s).and ((receive_endsReading wf marks fits
    deadline s).and halts)).mono (fun es r _ _ ⟨received, ends, _⟩ =>
      ⟨received.ended, fun seen => ?_⟩) fun _ _ _ _ halts => halts.2.2
  have unseen (no : es.sawEnd = false) : r.2.input.live = [] :=
    absurd (no.symm.trans seen) Bool.false_ne_true
  cases failed : r.1.error? with
  | some e => exact unseen (received.failed e failed).2.2
  | none =>
    rcases Nat.lt_or_ge r.1.bytes.length low with under | enough
    · exact (received.short failed under).1
    · exact unseen (ends.complete enough).2

theorem readBetween_notices (wf : c.WellFormed) (len low high : Nat) (deadline : Deadline)
    (s : System κ) :
    (c.readBetween len low high deadline).Ensures s (fun es r _ => c.Notices es r.2)
      (fun es h _ => c.Unnoticed es h) := by
  unfold readBetween
  split
  · exact Act.ensures_pure (notices_of_unseen rfl rfl)
  split
  · exact Act.ensures_pure (notices_of_unseen rfl rfl)
  · exact receive_notices wf (by omega) (by omega) deadline s

theorem readSome_notices (wf : c.WellFormed) (len : Nat) (s : System κ) :
    (c.readSome len).Ensures s (fun es r _ => c.Notices es r.2)
      (fun es h _ => c.Unnoticed es h) := by
  unfold readSome
  split
  · exact Act.ensures_pure (notices_of_unseen rfl rfl)
  · refine Act.ensures_bind (readBetween_notices wf len 1 len .never s) fun es r _ _ notices => ?_
    obtain ⟨⟨bytes, error?⟩, c'⟩ := r
    rw [← List.append_nil es] at notices
    rcases error? with _ | e
    all_goals exact Act.ensures_pure notices

/-! ## Writes -/

/-- A halt that leaves the mark as it is. -/
def KeepsMark (c : Channel) (h : Halt) : Prop :=
  ∀ message left, h = .faulted message (some left) → left.ended = c.ended

omit [Host κ] in
theorem HaltsWriting.unnoticed {most : Nat} {h : Halt} {s : System κ}
    (halts : c.HaltsWriting most es h s) (keeps : c.KeepsMark h) : c.Unnoticed es h :=
  fun message left is => ⟨keeps message left is, halts.2.1.sawEnd⟩

theorem send_keepsMark (c : Channel) (data : Bytes) (deadline : Deadline) (s : System κ) :
    (c.send data deadline).Ensures s (fun _ _ _ => True) (fun _ h _ => c.KeepsMark h) := by
  refine Act.ensures_loop (fun _ _ _ => True) trivial fun es sent s' _ _ => ?_
  refine sendTurn_ensures_of_attempt (fun _ => (Descriptor.write_ensures c.fd _ s').mono
    (fun _ _ _ _ h => h) fun _ _ _ _ ⟨_, spent⟩ => spent.1 ▸ nofun) (fun _ => trivial)
    (fun _ _ _ _ _ _ => trivial) (fun _ _ _ _ _ _ => trivial) fun es' s₁ _ _ _ _ => ?_
  exact (c.mayRetry_unnoticed .writable deadline s₁).mono
    (fun _ _ _ _ _ => ⟨fun _ => trivial, fun _ => trivial⟩)
    fun _ _ _ _ unnoticed message left is => (unnoticed message left is).1

theorem flush_notices (wf : c.WellFormed) (deadline : Deadline) (s : System κ) :
    (c.flush deadline).Ensures s (fun es r _ => c.Flushed es r.1 r.2)
      (fun es h _ => c.Unnoticed es h) := by
  have keeps : (c.flush deadline).Ensures s (fun _ _ _ => True) (fun _ h _ => c.KeepsMark h) :=
    flush_ensures_of_send wf (c.send_keepsMark _ deadline s) (fun _ => trivial)
      (fun _ _ _ _ _ _ _ _ _ _ => trivial) fun _ _ _ _ _ _ _ _ _ _ => trivial
  exact ((flush_ensures wf deadline s).and keeps).mono (fun _ _ _ _ done => done.1)
    fun _ _ _ _ halts => halts.1.unnoticed halts.2

theorem write_notices (wf : c.WellFormed) (data : Bytes) (deadline : Deadline) (s : System κ) :
    (c.write data deadline).Ensures s (fun es r _ => c.Notices es r.2)
      (fun es h _ => c.Unnoticed es h) := by
  have keeps : (c.write data deadline).Ensures s (fun _ _ _ => True)
      (fun _ h _ => c.KeepsMark h) := by
    refine write_ensures_of_ways wf ((flush_notices wf deadline s).mono (fun _ _ _ _ h => h)
      fun _ _ _ _ unnoticed message left is => (unnoticed message left is).1)
      (fun _ _ _ _ => trivial) (fun _ _ _ _ _ _ _ => trivial)
      (fun _ _ _ _ _ _ _ _ _ _ => trivial) fun es c₁ s' j _ _ flushed _ _ => ?_
    exact (c₁.send_keepsMark data deadline _).mono (fun _ _ _ _ _ => trivial)
      fun _ _ _ _ keeps message left is => (keeps message left is).trans flushed.rewritten.ended
  exact ((write_ensures wf data deadline s).and keeps).mono
    (fun _ _ _ _ done => done.1.rewritten.notices done.1.writes)
    fun _ _ _ _ halts => halts.1.unnoticed halts.2

/-! ## Moves after a flush -/

/-- **A move after a flush** forgets the end if it is made, and sees none if it is not. -/
theorem Repositioned.notices {target : SeekTarget} {r : Except StandardError Nat}
    (h : c.Repositioned target es r c') :
    ((Operation.reposition target).relocates es = true → c'.ended = false) ∧
      ((Operation.reposition target).relocates es = false → c.Notices es c') := by
  have count {es es' : Dialogue} (writes : es.Writes c) :
      (es ++ es').countP Exchange.isMove = es'.countP Exchange.isMove := by
    rw [List.countP_append, countP_isMove_of_writes writes, Nat.zero_add]
  have stays {es es' : Dialogue} {c₁ : Channel} {r : Except ChannelError Unit}
      (flushed : c.Flushed es r c₁) (seeks : es'.Seeks c₁.fd)
      (few : es'.countP Exchange.isMove ≤ target.detours) :
      ((Operation.reposition target).relocates (es ++ es') = true → c₁.ended = false) ∧
        ((Operation.reposition target).relocates (es ++ es') = false →
          c.Notices (es ++ es') c₁) := by
    refine ⟨fun moved => ?_, fun _ => notices_of_unseen ?_ flushed.rewritten.ended⟩
    · have moved : target.detours < (es ++ es').countP Exchange.isMove := of_decide_eq_true moved
      rw [count flushed.writes] at moved
      omega
    · rw [Dialogue.sawEnd_append, flushed.writes.sawEnd,
        (Dialogue.Fruitless.of_still c₁.fd seeks.still).sawEnd]
      rfl
  rcases h with flushed | ⟨flushed, targeted⟩ | ⟨flushed, targeted⟩ | ⟨flushed, targeted, sought⟩
  · have here := stays flushed .nil (Nat.zero_le _)
    rw [List.append_nil] at here
    exact here
  · exact stays flushed targeted.seeks.1 targeted.countP_isMove.1
  · exact stays flushed targeted.seeks.1 targeted.countP_isMove.1
  · have seeks := targeted.seeks.1.append sought.seeks
    obtain ⟨few, reached⟩ := targeted.countP_isMove
    rcases sought with _ | _
    · exact stays flushed seeks (by rw [List.append_nil]; exact few)
    · refine ⟨fun _ => rfl, fun stays => ?_⟩
      have stays := of_decide_eq_false stays
      rw [count flushed.writes, List.countP_append, reached _ rfl] at stays
      exact absurd (Nat.lt_succ_self target.detours) stays

theorem reposition_notices (wf : c.WellFormed) (target : SeekTarget) (s : System κ) :
    (c.reposition target).Ensures s (fun es r _ => c.Repositioned target es r.1 r.2)
      (fun es h _ => c.Unnoticed es h) := by
  have after {es es' : Dialogue} {r : Except ChannelError Unit} {c₁ : Channel} {h : Halt}
      (flushed : c.Flushed es r c₁) (unnoticed : c₁.Unnoticed es' h) :
      c.Unnoticed (es ++ es') h := by
    intro message left is
    obtain ⟨same, unseen⟩ := unnoticed message left is
    rw [Dialogue.sawEnd_append, flushed.writes.sawEnd, unseen, same]
    exact ⟨flushed.rewritten.ended, rfl⟩
  have halts : (c.reposition target).Ensures s (fun _ _ _ => True)
      (fun es h _ => c.Unnoticed es h) := by
    unfold reposition
    refine Act.ensures_bind (flush_notices wf .never s) fun es r s' _ flushed => ?_
    obtain ⟨result, c'⟩ := r
    rcases result with e | _
    · exact Act.ensures_pure trivial
    refine Act.ensures_bind ((c'.targetPosition_ensures target s').mono (fun _ _ _ _ h => h)
      fun _ _ _ _ halts => after flushed ?_) fun es' r t _ targeted => ?_
    · obtain asking | ⟨_, _, behind⟩ := halts
      · exact asking.unnoticed
      · exact behind.unnoticed
    rcases r with e | _ | position
    · exact Act.ensures_pure trivial
    · exact Act.ensures_pure trivial
    · refine Act.ensures_bind ((c'.seek_ensures position t).mono (fun _ _ _ _ _ => trivial)
        fun es'' h _ _ ⟨_, _, spent⟩ => ?_) fun _ _ _ _ _ => Act.ensures_pure trivial
      obtain ⟨rfl, _⟩ := spent
      nofun
  exact ((reposition_ensures wf target s).and halts).mono (fun _ _ _ _ done => done.1)
    fun _ _ _ _ halts => halts.2

end Channel

/-! ## Operations -/

/-- **What an operation notices**: a move forgets the end, and anything else notices it. -/
structure Operation.Notices (operation : Operation) (c : Channel) (es : Dialogue) (c' : Channel) :
    Prop where
  forgets : operation.relocates es = true → c'.ended = false
  notices : operation.relocates es = false → c.Notices es c'

variable {κ : Type} [Host κ] {c c' : Channel}

/-- **What every operation notices of the end**, also one that breaks a rule. -/
theorem Operation.run_notices (operation : Operation) (wf : c.WellFormed) (s : System κ) :
    (operation.run c).Ensures s (fun es r _ => operation.Notices c es r.2)
      (fun es h _ => c.Unnoticed es h) := by
  have stays {operation : Operation} {es : Dialogue} {c' : Channel}
      (no : operation.relocates es = false) (notices : c.Notices es c') :
      operation.Notices c es c' :=
    ⟨fun moves => absurd (no.symm.trans moves) Bool.false_ne_true, fun _ => notices⟩
  rcases operation with ⟨len, source⟩ | ⟨len, low, high, source⟩ | ⟨data, source⟩ | source |
    position | _ | _ | _ | len | data | _ | target
  · -- `read`
    refine ensures_resolve source fun deadline => ensures_answer ?_
    exact (Channel.receive_notices wf (Nat.le_refl _) (Nat.le_refl _) deadline s).mono
      (fun _ _ _ _ notices => stays rfl notices) fun _ _ _ _ halts => halts
  · -- `readBetween`
    refine ensures_resolve source fun deadline => ensures_answer ?_
    exact (Channel.readBetween_notices wf len low high deadline s).mono
      (fun _ _ _ _ notices => stays rfl notices) fun _ _ _ _ halts => halts
  · -- `write`
    refine ensures_resolve source fun deadline => ensures_answer ?_
    exact (Channel.write_notices wf data deadline s).mono
      (fun _ _ _ _ notices => stays rfl notices) fun _ _ _ _ halts => halts
  · -- `flush`
    refine ensures_resolve source fun deadline => ensures_answer ?_
    exact (Channel.flush_notices wf deadline s).mono (fun _ _ _ _ flushed =>
      stays rfl (flushed.rewritten.notices flushed.writes)) fun _ _ _ _ halts => halts
  · -- `seek`
    refine ensures_answer ((c.seek_ensures position s).mono (fun _ r _ _ sought => ?_)
      fun _ _ _ _ halts => halts.unnoticed)
    obtain ⟨result, c'⟩ := r
    rcases sought with beyond | ⟨_, le⟩
    · exact stays (decide_eq_false (Nat.not_le.2 beyond)) (Channel.notices_of_unseen rfl rfl)
    · exact ⟨fun _ => rfl, fun no => absurd le (of_decide_eq_false no)⟩
  · -- `tell`
    exact ensures_answer_same ((c.tell_ensures s).mono
      (fun _ _ _ _ told => stays rfl (Channel.notices_of_still told.seeks.still))
      fun _ _ _ _ halts => halts.elim (·.unnoticed) (·.unnoticed))
  · -- `size`
    exact ensures_answer_same ((c.size_ensures s).mono
      (fun _ _ _ _ sized => stays rfl (Channel.notices_of_still sized.seeks.still))
      fun _ _ _ _ halts => halts.unnoticed)
  · -- `info`
    exact Act.ensures_pure (stays rfl (Channel.notices_of_unseen rfl rfl))
  · -- `readSome`
    exact ensures_answer ((Channel.readSome_notices wf len s).mono
      (fun _ _ _ _ notices => stays rfl notices) fun _ _ _ _ halts => halts)
  · -- `writeAll`
    refine ensures_answer (Act.ensures_bind (Channel.write_notices wf data .never s)
      fun es _ _ _ notices => Act.ensures_pure ?_)
    rw [List.append_nil]
    exact stays rfl notices
  · -- `flushAll`
    refine ensures_answer (Act.ensures_bind (Channel.flush_notices wf .never s)
      fun es _ _ _ flushed => Act.ensures_pure ?_)
    rw [List.append_nil]
    exact stays rfl (flushed.rewritten.notices flushed.writes)
  · -- `reposition`
    exact ensures_answer ((Channel.reposition_notices wf target s).mono
      (fun _ _ _ _ done => ⟨done.notices.1, done.notices.2⟩) fun _ _ _ _ halts => halts)

/-- **A deed has noticed** what every operation notices. -/
theorem Deed.Done.notices {d : Deed} (h : d.Done κ c c') (wf : c.WellFormed) :
    d.operation.Notices c d.exchanges c' := by
  obtain ⟨s, s', run, noted⟩ := h
  exact (d.operation.run_notices wf s).of_noted run noted

/-- **Nothing is buffered when the mark comes to be set.** -/
theorem Deed.Done.drained {d : Deed} (h : d.Done κ c c') (wf : c.WellFormed)
    (before : c.ended = false) (after : c'.ended = true) : c'.input.live = [] := by
  have noticed := h.notices wf
  cases moves : d.operation.relocates d.exchanges with
  | true => exact absurd ((noticed.forgets moves).symm.trans after) Bool.false_ne_true
  | false =>
    obtain ⟨ended, empty⟩ := noticed.notices moves
    rw [before, Bool.false_or] at ended
    exact empty (ended.symm.trans after)

/-! ## What a channel recalls -/

/-- What holds of all values of the second part holds of the whole, whatever came first. -/
theorem Act.ensures_after {α β : Type} {act : Act κ α} {next : α → Act κ β} {s : System κ}
    {P : β → Prop} {M : Dialogue → α → System κ → Prop}
    {halts : Dialogue → Halt → System κ → Prop} (first : act.Ensures s M halts)
    (rest : ∀ a s', (next a).Ensures s' (fun _ b _ => P b) fun _ _ _ => True) :
    (act >>= next).Ensures s (fun _ b _ => P b) fun _ _ _ => True :=
  ensures_bind (first.mono (fun _ _ _ _ h => h) fun _ _ _ _ _ => trivial)
    fun _ a s' _ _ => rest a s'

namespace Channel

/-- A channel that is opened does not bear the mark. -/
theorem openConfigured_unmarked (path : String) (flags : Flags) (mode : Nat) (config : Config)
    (waiter : Waiter) (s : System κ) : (openConfigured path flags mode config waiter).Ensures s
      (fun _ r _ => ∀ c, r = .ok c → c.ended = false) (fun _ _ _ => True) := by
  unfold openConfigured
  split
  · exact Act.ensures_pure nofun
  refine Act.ensures_after (openPath_ensures _ _ _ s) fun r s₁ => ?_
  rcases r with e | fd
  · exact Act.ensures_pure nofun
  refine Act.ensures_after (waiter.claim_ensures fd s₁) fun _ s₂ => ?_
  refine Act.ensures_after (prepare_ensures fd s₂) fun r s₃ => ?_
  rcases r with e | ⟨kind, input, output⟩
  · exact Act.ensures_after (waiter.release_ensures fd s₃) fun _ s₄ =>
      Act.ensures_after (Descriptor.closeQuietly_ensures fd _ s₄) fun _ _ => Act.ensures_pure nofun
  · refine Act.ensures_log _ _ fun j => Act.ensures_pure fun c made => ?_
    obtain rfl := Except.ok.inj made
    rfl

/-- …nor does one that is adopted, and its kind is not asked. -/
theorem adoptConfigured_unmarked (fd : Int) (config : Config) (waiter : Waiter) (s : System κ) :
    (adoptConfigured fd config waiter).Ensures s
      (fun _ r _ => ∀ c, r = .ok c → c.ended = false ∧ c.kind = .unasked)
      (fun _ _ _ => True) := by
  unfold adoptConfigured
  refine Act.ensures_after (Act.allocateBuffers_ensures s) fun r s₁ => ?_
  rcases r with e | ⟨input, output⟩
  · exact Act.ensures_pure nofun
  refine Act.ensures_after (makeNonblocking_ensures fd waiter s₁) fun _ s₂ => ?_
  refine Act.ensures_after (waiter.claim_ensures fd s₂) fun _ s₃ => ?_
  refine Act.ensures_log _ _ fun j => Act.ensures_pure fun c made => ?_
  obtain rfl := Except.ok.inj made
  exact ⟨rfl, rfl⟩

end Channel

/-- **A channel that begins** has not seen the end. -/
theorem Opening.run_unmarked (opening : Opening) (s : System κ) :
    (opening.run).Ensures s (fun _ r _ => ∀ c, r = .ok c → c.ended = false)
      (fun _ _ _ => True) := by
  rcases opening with ⟨path, flags, mode⟩ | path | ⟨path, flags, mode, config, waiter⟩ | fd |
    ⟨fd, config, waiter⟩
  iterate 3 exact Act.ensures_bind_quiet rfl (.refl s) (Channel.openConfigured_unmarked ..)
  iterate 2 exact Act.ensures_bind_quiet rfl (.refl s) ((Channel.adoptConfigured_unmarked ..).mono
    (fun _ _ _ _ begun c made => (begun c made).1) fun _ _ _ _ _ => trivial)

/-- **The exchanges of a channel since it was made or last moved**, over any operations on any
systems; one that breaks a rule may leave the channel as well. -/
inductive Channel.Recalls (κ : Type) [Host κ] : Channel → Dialogue → Prop
  | begun {c : Channel} {opening : Opening} {s s' : System κ} :
      opening.run.runOn s = (.ok (.ok c), s') → Recalls κ c []
  | operated {c c' : Channel} {es : Dialogue} {d : Deed} : Recalls κ c es → d.Done κ c c' →
      Recalls κ c' (if d.operation.relocates d.exchanges then [] else es ++ d.exchanges)
  | broken {c left : Channel} {es es' : Dialogue} {operation : Operation} {message : String}
      {s s' : System κ} : Recalls κ c es →
        (operation.run c).runOn s = (.error (.faulted message (some left)), s') →
        s'.trace = es'.reverse ++ s.trace → Recalls κ left (es ++ es')

namespace Channel.Recalls

variable {es : Dialogue}

theorem reachable (h : c.Recalls κ es) : c.Reachable κ := by
  induction h with
  | begun run => exact .begun run
  | operated _ done ih =>
    obtain ⟨_, _, run, _⟩ := done
    exact .operated ih run
  | broken _ run _ ih => exact .broken ih run

/-- **The mark tells whether the end was seen** since the channel was made or last moved. -/
theorem ended_eq (h : c.Recalls κ es) : c.ended = es.sawEnd := by
  induction h with
  | @begun c opening s s' run =>
    obtain ⟨_, _, unmarked⟩ := (opening.run_unmarked s).of_ok run
    exact unmarked c rfl
  | @operated c c' es d before done ih =>
    have noticed := done.notices before.reachable.wellFormed
    cases moves : d.operation.relocates d.exchanges with
    | true =>
      rw [if_pos rfl]
      exact noticed.forgets moves
    | false =>
      rw [if_neg Bool.false_ne_true, (noticed.notices moves).ended, ih, Dialogue.sawEnd_append]
  | @broken c left es es' operation message s s' before run noted ih =>
    obtain ⟨_, reaches, unnoticed⟩ :=
      (operation.run_notices before.reachable.wellFormed s).of_error run
    obtain rfl := reaches.eq_of_trace noted
    obtain ⟨same, unseen⟩ := unnoticed message left rfl
    rw [same, ih, Dialogue.sawEnd_append, unseen, Bool.or_false]

end Channel.Recalls

/-! ## Sources that do not grow -/

/-- **A dialogue draws from a source** on a descriptor, and leaves the rest of it: its reads bring
the bytes of the source in their order, and only at the end of the source they come back empty. -/
inductive Dialogue.Draws (fd : Int) : Bytes → Dialogue → Bytes → Prop
  | nil (source : Bytes) : Draws fd source [] source
  | idle {e : Exchange} {source rest : Bytes} {es : Dialogue} : e.deliveredOn fd = [] →
      e.isEnd = false → Draws fd source es rest → Draws fd source (e :: es) rest
  | read {len : Nat} {bytes source rest : Bytes} {es : Dialogue} : (bytes = [] → source = []) →
      Draws fd source es rest →
        Draws fd (bytes ++ source) (Descriptor.reading fd len (.ok bytes) :: es) rest

namespace Dialogue.Draws

variable {fd : Int} {source rest : Bytes} {es es' : Dialogue}

/-- What was delivered and what is left are the source. -/
theorem delivered (h : Draws fd source es rest) : source = es.delivered fd ++ rest := by
  induction h with
  | nil source => rfl
  | idle none _ _ ih =>
    rw [delivered_cons, none]
    exact ih
  | read _ _ ih =>
    rw [delivered_cons, Descriptor.reading, Exchange.deliveredOn_read_ok, List.append_assoc, ← ih]

/-- Where the end is seen, nothing is left. -/
theorem eq_nil_of_sawEnd (h : Draws fd source es rest) (seen : es.sawEnd = true) : rest = [] := by
  induction h with
  | nil source => cases seen
  | @idle e _ _ es _ notEnd _ ih =>
    have : (e.isEnd || es.sawEnd) = true := seen
    rw [notEnd, Bool.false_or] at this
    exact ih this
  | @read len bytes source rest es only later ih =>
    rcases bytes with _ | ⟨first, bytes⟩
    · have whole := later.delivered
      rw [only rfl] at whole
      exact (List.append_eq_nil_iff.1 whole.symm).2
    · exact ih seen

theorem split (h : Draws fd source (es ++ es') rest) :
    ∃ middle, Draws fd source es middle ∧ Draws fd middle es' rest := by
  generalize whole : es ++ es' = all at h
  induction h generalizing es with
  | nil source =>
    obtain ⟨rfl, rfl⟩ := List.append_eq_nil_iff.1 whole
    exact ⟨source, .nil source, .nil source⟩
  | @idle e source rest all none notEnd later ih =>
    rcases es with _ | ⟨first, es⟩
    · obtain rfl : es' = _ := whole
      exact ⟨source, .nil source, .idle none notEnd later⟩
    · obtain ⟨rfl, tail⟩ := List.cons.inj whole
      obtain ⟨middle, before, after⟩ := ih tail
      exact ⟨middle, .idle none notEnd before, after⟩
  | @read len bytes source rest all only later ih =>
    rcases es with _ | ⟨first, es⟩
    · obtain rfl : es' = _ := whole
      exact ⟨_, .nil _, .read only later⟩
    · obtain ⟨rfl, tail⟩ := List.cons.inj whole
      obtain ⟨middle, before, after⟩ := ih tail
      exact ⟨middle, .read only before, after⟩

end Dialogue.Draws

/-- What does not move the position does not move the channel. -/
theorem Operation.relocates_of_moves (operation : Operation) (stays : operation.moves = false)
    (es : Dialogue) : operation.relocates es = false := by
  cases operation <;> first | rfl | cases stays

/-- **A channel that a deed brings to the end**, or leaves there, has nothing buffered and nothing
to come. -/
theorem Deed.Done.drained_of_ended {d : Deed} {source rest : Bytes} (done : d.Done κ c c')
    (wf : c.WellFormed)
    (stays : d.operation.moves = false) (draws : d.exchanges.Draws c.fd source rest)
    (before : c.ended = true → c.input.live = [] ∧ source = []) (ended : c'.ended = true) :
    c'.input.live = [] ∧ rest = [] := by
  cases marked : c.ended with
  | true =>
    obtain ⟨empty, rfl⟩ := before marked
    obtain ⟨nothing, none⟩ := List.append_eq_nil_iff.1 draws.delivered.symm
    have conserved := (done.performed wf).input stays
    rw [empty, nothing] at conserved
    exact ⟨(List.append_eq_nil_iff.1 conserved.symm).2, none⟩
  | false =>
    have seen := ((done.notices wf).notices (d.operation.relocates_of_moves stays _)).ended
    rw [marked, Bool.false_or] at seen
    exact ⟨done.drained wf marked ended, draws.eq_nil_of_sawEnd (seen.symm.trans ended)⟩

namespace History

variable {ds : List Deed} {source rest : Bytes}

theorem wellFormed (wf : c.WellFormed) (h : History κ c ds c') : c'.WellFormed := by
  induction h with
  | nil => exact wf
  | cons done _ ih => exact ih (done.performed wf).wellFormed

/-- …and so it stays. -/
theorem drained_of_ended (wf : c.WellFormed) (h : History κ c ds c')
    (stays : ∀ d ∈ ds, d.operation.moves = false) (draws : (exchangesOf ds).Draws c.fd source rest)
    (before : c.ended = true → c.input.live = [] ∧ source = []) (ended : c'.ended = true) :
    c'.input.live = [] ∧ rest = [] := by
  induction h generalizing source with
  | nil c =>
    obtain ⟨empty, rfl⟩ := before ended
    exact ⟨empty, draws.delivered.symm⟩
  | @cons c c₁ c' d ds done _ ih =>
    obtain ⟨stay, later⟩ := List.forall_mem_cons.1 stays
    have performed := done.performed wf
    obtain ⟨middle, first, after⟩ := draws.split
    exact ih performed.wellFormed later (performed.fd ▸ after)
      (done.drained_of_ended wf stay first before) ended

/-- **At the end of a source that does not grow**, a channel has handed on the whole of it, after
what was buffered, and nothing is buffered any more. -/
theorem whole_of_ended (wf : c.WellFormed) (h : History κ c ds c')
    (stays : ∀ d ∈ ds, d.operation.moves = false) (draws : (exchangesOf ds).Draws c.fd source rest)
    (unmarked : c.ended = false) (ended : c'.ended = true) :
    c'.liveCount = 0 ∧ ds.flatMap Deed.handed = c.input.live ++ source := by
  obtain ⟨empty, none⟩ := h.drained_of_ended wf stays draws
    (fun marked => absurd (unmarked.symm.trans marked) Bool.false_ne_true) ended
  have conserved := h.input_eq wf stays
  rw [empty, List.append_nil] at conserved
  refine ⟨(ReadAhead.live_eq_nil_iff (h.wellFormed wf).input).1 empty, ?_⟩
  rw [draws.delivered, none, List.append_nil, conserved]

end History

end BufferedChannels
