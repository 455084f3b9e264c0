import BufferedChannels.Channel.Stream
import BufferedChannels.Proofs.Attempts

/-!
# Proofs/Reading — what a read takes, hands on and keeps

The bytes that were buffered and those that the descriptor delivers are, in this order, the bytes
handed on and those that stay buffered: `Received` says so of a whole read, whatever ended it.  The
invariant of the loop (`Receiving`) is the same equation with one more fact, that **the buffer is
empty as long as the low mark is not reached**, which is what a refill needs.
-/

namespace BufferedChannels

/-! ## Reads that bring nothing -/

/-- **Whether a read came back empty**, which is the end of the stream. -/
def Exchange.isEnd : Exchange → Bool
  | ⟨.read _ _, .ok []⟩ => true
  | _ => false

theorem Exchange.isEnd_of_isStill {e : Exchange} (h : e.isStill = true) : e.isEnd = false := by
  obtain ⟨request, reply⟩ := e
  cases request <;> first | rfl | cases h

namespace Dialogue

/-- Whether the end of the stream was seen. -/
def sawEnd (es : Dialogue) : Bool := es.any Exchange.isEnd

@[simp] theorem sawEnd_append (es es' : Dialogue) :
    sawEnd (es ++ es') = (sawEnd es || sawEnd es') := List.any_append

/-- Nothing is delivered, and no end is seen. -/
structure Fruitless (fd : Int) (es : Dialogue) : Prop where
  delivered : es.delivered fd = []
  sawEnd : es.sawEnd = false

theorem Fruitless.of_still (fd : Int) {es : Dialogue} (h : ∀ e ∈ es, e.isStill = true) :
    es.Fruitless fd :=
  ⟨delivered_of_still h, List.any_eq_false.2 fun e he => by
    rw [Exchange.isEnd_of_isStill (h e he)]
    exact Bool.false_ne_true⟩

theorem Fruitless.of_interrupted (fd : Int) {source : Int} {len : Nat} {es : Dialogue}
    (h : Interrupted (Descriptor.reading source len) es) : es.Fruitless fd where
  delivered := delivered_eq_nil fun e he => by
    obtain ⟨_, _, rfl⟩ := h e he
    rfl
  sawEnd := List.any_eq_false.2 fun e he => by
    obtain ⟨_, _, rfl⟩ := h e he
    exact Bool.false_ne_true

/-- **Every exchange is a wait or a read** of a channel's descriptor for at least one byte. -/
def Reads (c : Channel) (es : Dialogue) : Prop :=
  ∀ e ∈ es, (c.kind.alwaysReady = false ∧ e.isSuspension = true) ∨
    ∃ len reply, 0 < len ∧ e = Descriptor.reading c.fd len reply

variable {c : Channel} {es es' : Dialogue}

theorem Reads.append (h : es.Reads c) (h' : es'.Reads c) : (es ++ es').Reads c :=
  fun e he => (List.mem_append.1 he).elim (h e) (h' e)

theorem Reads.of_waits (h : c.Waits es) : es.Reads c := fun e he => .inl (h e he)

theorem Reads.of_interrupted {len : Nat} (pos : 0 < len)
    (h : Interrupted (Descriptor.reading c.fd len) es) : es.Reads c := by
  intro e he
  obtain ⟨errno, _, rfl⟩ := h e he
  exact .inr ⟨len, .error errno, pos, rfl⟩

/-- Reads have nothing accepted. -/
theorem Reads.accepted (h : es.Reads c) (target : Int) : es.accepted target = [] :=
  accepted_eq_nil fun e he => by
    obtain ⟨_, wait⟩ | ⟨len, reply, _, rfl⟩ := h e he
    · exact Exchange.acceptedOn_of_isStill (Exchange.isStill_of_isSuspension wait)
    · rfl

/-- **The end of the stream comes last**: a read comes back empty, and none did before. -/
def EndsEmpty (fd : Int) (es : Dialogue) : Prop :=
  ∃ before len, 0 < len ∧ es = before ++ [Descriptor.reading fd len (.ok [])] ∧
    before.sawEnd = false

theorem EndsEmpty.sawEnd {fd : Int} (h : es.EndsEmpty fd) : es.sawEnd = true := by
  obtain ⟨before, len, _, rfl, _⟩ := h
  rw [sawEnd_append]
  exact Bool.or_true _

end Dialogue

namespace Attempt

/-- The bytes that an attempt brought. -/
def bytes : Attempt Bytes → Bytes
  | .moved bytes => bytes
  | _ => []

theorem bytes_mustWait : mustWait.bytes = [] := rfl

theorem bytes_failed (e : Errno) : (failed e).bytes = [] := rfl

end Attempt

/-! ## An attempt at a read -/

section AttemptedRead

variable {fd : Int} {len : Nat} {es : Dialogue} {outcome : Attempt Bytes}

theorem Attempted.reads {c : Channel} (h : Attempted (Descriptor.reading c.fd len) es outcome)
    (pos : 0 < len) : es.Reads c := by
  obtain ⟨before, reply, idle, rfl, _⟩ := h
  exact (Dialogue.Reads.of_interrupted pos idle).append fun e he =>
    .inr ⟨len, reply, pos, List.mem_singleton.1 he⟩

/-- **An attempt delivers what it brings.** -/
theorem Attempted.delivered (h : Attempted (Descriptor.reading fd len) es outcome) :
    es.delivered fd = outcome.bytes := by
  obtain ⟨before, reply, idle, rfl, hr⟩ := h
  have last : Exchange.deliveredOn fd (Descriptor.reading fd len reply) = outcome.bytes := by
    rcases outcome with bytes | _ | e
    · rw [Attempt.ofReply_eq_moved hr]
      exact Exchange.deliveredOn_read_ok fd len bytes
    · obtain ⟨e, rfl, _⟩ := Attempt.ofReply_eq_mustWait hr
      rfl
    · obtain ⟨e, rfl, _⟩ := Attempt.ofReply_eq_failed hr
      rfl
  rw [Dialogue.delivered_append, (Dialogue.Fruitless.of_interrupted fd idle).delivered,
    Dialogue.delivered_cons, last, Dialogue.delivered_nil, List.append_nil, List.nil_append]

/-- An attempt that brings nothing but was answered saw the end. -/
theorem Attempted.endsEmpty (h : Attempted (Descriptor.reading fd len) es (.moved []))
    (pos : 0 < len) : es.EndsEmpty fd := by
  obtain ⟨before, reply, idle, rfl, hr⟩ := h
  rw [Attempt.ofReply_eq_moved hr]
  exact ⟨before, len, pos, rfl, (Dialogue.Fruitless.of_interrupted fd idle).sawEnd⟩

/-- **An attempt sees the end** when it is answered with nothing. -/
theorem Attempted.sawEnd (h : Attempted (Descriptor.reading fd len) es outcome) :
    es.sawEnd = true ↔ outcome = .moved [] := by
  obtain ⟨before, reply, idle, rfl, hr⟩ := h
  rw [Dialogue.sawEnd_append, (Dialogue.Fruitless.of_interrupted fd idle).sawEnd,
    Bool.false_or]
  rcases outcome with bytes | _ | e
  · rw [Attempt.ofReply_eq_moved hr]
    cases bytes <;> simp [Dialogue.sawEnd, Descriptor.reading, Exchange.isEnd]
  · obtain ⟨e, rfl, _⟩ := Attempt.ofReply_eq_mustWait hr
    simp [Dialogue.sawEnd, Descriptor.reading, Exchange.isEnd]
  · obtain ⟨e, rfl, _⟩ := Attempt.ofReply_eq_failed hr
    simp [Dialogue.sawEnd, Descriptor.reading, Exchange.isEnd]

theorem Attempted.sawEnd_eq {bytes : Bytes}
    (h : Attempted (Descriptor.reading fd len) es (.moved bytes)) : es.sawEnd = bytes.isEmpty := by
  rw [Bool.eq_iff_iff, h.sawEnd, List.isEmpty_iff, Attempt.moved.injEq]

/-- A moderate attempt brings at most what was asked for. -/
theorem Attempted.length_le {bytes : Bytes}
    (h : Attempted (Descriptor.reading fd len) es (.moved bytes)) (moderate : es.Moderate) :
    bytes.length ≤ len := moderate _ h.mem

end AttemptedRead

/-! ## One read toward a need -/

namespace Channel

/-- **A channel of which only the reading side changed**, with the rules of its buffer kept. -/
structure Reread (c c' : Channel) : Prop where
  same : c' = { c with input := c'.input, ended := c'.ended }
  wellFormed : c'.input.WellFormed
  capacity : c'.input.capacity = c.input.capacity

namespace Reread

variable {c c' c'' : Channel}

theorem refl (wf : c.input.WellFormed) : c.Reread c := ⟨rfl, wf, rfl⟩

theorem fd (h : c.Reread c') : c'.fd = c.fd := by rw [h.same]

theorem kind (h : c.Reread c') : c'.kind = c.kind := by rw [h.same]

theorem output (h : c.Reread c') : c'.output = c.output := by rw [h.same]

theorem waiter (h : c.Reread c') : c'.waiter = c.waiter := by rw [h.same]

/-- What reads the one reads the other. -/
theorem reads {es : Dialogue} (h : c.Reread c') (reads : es.Reads c') : es.Reads c := by
  unfold Dialogue.Reads
  rw [← h.fd, ← h.kind]
  exact reads

theorem trans (h : c.Reread c') (h' : c'.Reread c'') : c.Reread c'' where
  same := by rw [h'.same, h.same]
  wellFormed := h'.wellFormed
  capacity := h'.capacity.trans h.capacity

end Reread

variable {κ : Type} [Host κ]

/-- **What one read toward a need brings**: bytes for the caller, and a surplus only if the need is
met. -/
structure Toward (c : Channel) (need : Nat) (es : Dialogue) (outcome : Attempt Bytes)
    (c' : Channel) : Prop where
  reread : c.Reread c'
  asked : es ≠ []
  reads : es.Reads c
  delivered : es.delivered c.fd = outcome.bytes ++ c'.input.live
  surplus : c'.input.live ≠ [] → outcome.bytes.length = need
  sawEnd : es.sawEnd = true ↔ outcome = .moved []
  ended : c'.ended = (c.ended || es.sawEnd)
  endsEmpty : outcome = .moved [] → es.EndsEmpty c.fd
  le : es.Moderate → outcome.bytes.length ≤ need

/-- **What is left of a read that halts**: unless the host moved too much, nothing came of it. -/
def HaltsIn (c : Channel) (es : Dialogue) (h : Halt) (s : System κ) : Prop :=
  c.MayHalt es h s ∧ es.Reads c ∧ (es.Moderate → es.Fruitless c.fd)

omit [Host κ] in
theorem haltsIn_of_interrupted {c : Channel} {len : Nat} {es : Dialogue} {h : Halt} {s : System κ}
    (pos : 0 < len) (idle : Interrupted (Descriptor.reading c.fd len) es) (spent : Spent h s) :
    c.HaltsIn es h s := by
  obtain ⟨rfl, hb⟩ := spent
  exact ⟨.spent hb, .of_interrupted pos idle, fun _ => .of_interrupted c.fd idle⟩

/-- An attempt that does not move bytes leaves the channel as it was, but for the place of its empty
buffer. -/
theorem toward_of_idle {c : Channel} {need len : Nat} {es : Dialogue} {outcome : Attempt Bytes}
    {slot : ReadAhead} (pos : 0 < len)
    (attempt : Attempted (Descriptor.reading c.fd len) es outcome) (idle : outcome.bytes = [])
    (notEnd : outcome ≠ .moved []) (empty : slot.live = []) (wf : slot.WellFormed)
    (capacity : slot.capacity = c.input.capacity) :
    c.Toward need es outcome { c with input := slot } where
  reread := ⟨rfl, wf, capacity⟩
  asked := attempt.ne_nil
  reads := attempt.reads pos
  delivered := by rw [attempt.delivered, empty, List.append_nil]
  surplus := fun h => absurd empty h
  sawEnd := attempt.sawEnd
  ended := by
    rw [Bool.eq_false_iff.2 (mt attempt.sawEnd.1 notEnd), Bool.or_false]
  endsEmpty := fun h => absurd h notEnd
  le := by
    intro _
    rw [idle]
    exact Nat.zero_le need

/-- An attempt at a direct read hands on what it moves. -/
theorem toward_of_direct {c : Channel} {need : Nat} {es : Dialogue} {bytes : Bytes} (pos : 0 < need)
    (attempt : Attempted (Descriptor.reading c.fd need) es (.moved bytes))
    (wf : c.input.WellFormed) (empty : c.input.live = []) :
    c.Toward need es (.moved bytes) (c.sawBytes bytes) where
  reread := ⟨rfl, wf, rfl⟩
  asked := attempt.ne_nil
  reads := attempt.reads pos
  delivered := by
    rw [attempt.delivered]
    exact (List.append_nil _).symm.trans (congrArg (bytes ++ ·) empty.symm)
  surplus := fun h => absurd empty h
  sawEnd := attempt.sawEnd
  ended := by rw [attempt.sawEnd_eq]; rfl
  endsEmpty := by
    intro h
    cases h
    exact attempt.endsEmpty pos
  le := fun moderate => attempt.length_le moderate

/-- **An attempt at a refill** hands on as much of what it moves as is needed, and keeps the
surplus. -/
theorem toward_of_refill {c : Channel} {need len : Nat} {es : Dialogue} {filled : Bytes}
    {rest : ReadAhead} (pos : 0 < need) (room : 0 < len)
    (attempt : Attempted (Descriptor.reading c.fd len) es (.moved filled))
    (live : rest.live = filled.drop need) (wf : rest.WellFormed)
    (capacity : rest.capacity = c.input.capacity) :
    c.Toward need es (.moved (filled.take need))
      ({ c with input := rest }.sawBytes (filled.take need)) := by
  have none : filled.take need = [] ↔ filled = [] :=
    List.take_eq_nil_iff.trans (or_iff_right (Nat.ne_of_gt pos))
  exact {
    reread := ⟨rfl, wf, capacity⟩
    asked := attempt.ne_nil
    reads := attempt.reads room
    delivered := by
      rw [attempt.delivered]
      exact (List.take_append_drop need filled).symm.trans (congrArg (_ ++ ·) live.symm)
    surplus := by
      intro h
      have excess : need < filled.length :=
        Nat.lt_of_not_le fun fits => h (live.trans (List.drop_eq_nil_of_le fits))
      exact List.length_take_of_le (Nat.le_of_lt excess)
    sawEnd := by rw [attempt.sawEnd, Attempt.moved.injEq, Attempt.moved.injEq, none]
    ended := by
      have same : (filled.take need).isEmpty = filled.isEmpty := by
        rw [Bool.eq_iff_iff, List.isEmpty_iff, List.isEmpty_iff, none]
      rw [attempt.sawEnd_eq, ← same]
      rfl
    endsEmpty := by
      intro h
      obtain rfl := none.1 (Attempt.moved.inj h)
      exact attempt.endsEmpty room
    le := fun _ => List.length_take_le need filled }

/-- **One read toward a need** with an empty buffer. -/
theorem readToward_ensures {c : Channel} (wf : c.WellFormed) (empty : c.input.live = [])
    {need : Nat} (pos : 0 < need) (s : System κ) :
    (c.readToward need).Ensures s (fun es r _ => c.Toward need es r.1 r.2)
      (fun es h s' => c.HaltsIn es h s') := by
  unfold readToward
  split
  · -- The need is larger than the buffer, which is left alone.
    refine Act.ensures_log _ _ fun j => ?_
    refine Act.ensures_bind ((Descriptor.read_ensures c.fd need _).mono (fun _ _ _ _ h => h)
      fun _ _ _ _ ⟨idle, spent⟩ => haltsIn_of_interrupted pos idle spent)
      fun es outcome s' _ attempt => ?_
    rcases outcome with bytes | _ | e
    all_goals
      refine Act.ensures_pure ?_
      rw [List.append_nil]
    · exact toward_of_direct pos attempt wf.input empty
    · exact toward_of_idle pos attempt rfl nofun empty wf.input rfl
    · exact toward_of_idle pos attempt rfl nofun empty wf.input rfl
  · next le =>
    obtain ⟨slot, hslot, hlive, hcap, hwf⟩ := ReadAhead.beginRefill_eq wf.input empty
    have room : 0 < slot.capacity := by omega
    refine Act.ensures_check hslot ?_
    refine Act.ensures_bind ((Descriptor.read_ensures c.fd slot.capacity _).mono
      (fun _ _ _ _ h => h) fun _ _ _ _ ⟨idle, spent⟩ => haltsIn_of_interrupted room idle spent)
      fun es outcome s' _ attempt => ?_
    rcases outcome with filled | _ | e
    · refine Act.ensures_check_or (fun loaded hload => ?_) fun broken hload => ?_
      · obtain ⟨full, hfull, flive, fcap, fwf⟩ :=
          ReadAhead.load_eq (ReadAhead.length_le_of_load hload)
        obtain rfl : loaded = full := Except.ok.inj (hload.symm.trans hfull)
        obtain ⟨rest, htake, rlive, rcap, rwf⟩ := ReadAhead.take_eq fwf need
        refine Act.ensures_check htake (Act.ensures_pure ?_)
        rw [List.append_nil, flive]
        exact toward_of_refill pos room attempt (flive ▸ rlive) rwf (rcap.trans (fcap.trans hcap))
      · -- The refill brought more than the block holds.
        have excess : ¬ (Descriptor.reading c.fd slot.capacity (.ok filled)).Moderate := by
          intro fits
          obtain ⟨full, hfull, _⟩ := ReadAhead.load_eq (b := slot) fits
          cases hload.symm.trans hfull
        rw [List.append_nil]
        exact ⟨.overfull attempt.mem excess, attempt.reads room,
          fun moderate => absurd (moderate _ attempt.mem) excess⟩
    all_goals
      refine Act.ensures_pure ?_
      rw [List.append_nil]
      exact toward_of_idle room attempt rfl nofun hlive hwf hcap

/-! ## The loop of a read -/

/-- **The invariant of a read** that has received some bytes: what was buffered and what came since
are the bytes received and those buffered now, of which there are none before the low mark. -/
structure Receiving (c₀ : Channel) (low high : Nat) (es : Dialogue) (received : Bytes)
    (c : Channel) : Prop where
  reread : c₀.Reread c
  reads : es.Reads c₀
  conserved : c₀.input.live ++ es.delivered c₀.fd = received ++ c.input.live
  drained : received.length < low → c.input.live = []
  sawEnd : es.sawEnd = false
  ended : c.ended = c₀.ended
  le : es.Moderate → received.length ≤ high

/-- **What every read keeps to**: it changes the reading side only, no byte is lost or made up, and
a failure counts the bytes that came before it. -/
structure HandsOn (c : Channel) (es : Dialogue) (r : Reading) (c' : Channel) : Prop where
  reread : c.Reread c'
  reads : es.Reads c
  conserved : c.input.live ++ es.delivered c.fd = r.bytes ++ c'.input.live
  ended : c'.ended = (c.ended || es.sawEnd)
  counted : ∀ e, r.error? = some e → e.transferred = r.bytes.length

/-- **What a read comes to**: it fails only below the low mark, and it brings fewer bytes than that
without a failure only at the end of the stream. -/
structure Received (c : Channel) (low high : Nat) (es : Dialogue) (r : Reading) (c' : Channel) :
    Prop extends c.HandsOn es r c' where
  le : es.Moderate → r.bytes.length ≤ high
  failed : ∀ e, r.error? = some e →
    r.bytes.length < low ∧ c'.input.live = [] ∧ es.sawEnd = false
  short : r.error? = none → r.bytes.length < low → c'.input.live = [] ∧ es.EndsEmpty c.fd

/-- **What is left of a read that halts**: unless the host moved too much, fewer bytes came than the
low mark. -/
def HaltsReading (c : Channel) (low : Nat) (es : Dialogue) (h : Halt) (s : System κ) : Prop :=
  c.MayHalt es h s ∧ es.Reads c ∧
    (es.Moderate → es.sawEnd = false ∧ (es.delivered c.fd).length < low)

theorem Receiving.wellFormed {c₀ c : Channel} {low high : Nat} {es : Dialogue} {received : Bytes}
    (h : c₀.Receiving low high es received c) (wf : c₀.WellFormed) : c.WellFormed :=
  ⟨h.reread.wellFormed, h.reread.output ▸ wf.output⟩

/-- The bytes delivered before the low mark are fewer than that. -/
theorem Receiving.length_delivered_lt {c₀ c : Channel} {low high : Nat} {es : Dialogue}
    {received : Bytes} (h : c₀.Receiving low high es received c) (before : received.length < low) :
    (es.delivered c₀.fd).length < low := by
  have total := congrArg List.length h.conserved
  rw [h.drained before, List.append_nil, List.length_append] at total
  omega

theorem window_eq {len start stop : Nat} (h : start ≤ stop) (h' : stop ≤ len) :
    window len start stop = .ok (stop - start) := by
  rw [window, if_neg (Nat.not_lt.2 h), if_neg (Nat.not_lt.2 h')]

section Turn

variable {c₀ c c' : Channel} {low high : Nat} {es es' : Dialogue} {received : Bytes}

/-- **A turn that does not see the end keeps the invariant.** -/
theorem Receiving.toward (h : c₀.Receiving low high es received c) (marks : low ≤ high)
    (before : received.length < low) {outcome : Attempt Bytes}
    (toward : c.Toward (high - received.length) es' outcome c') (notEnd : outcome ≠ .moved []) :
    c₀.Receiving low high (es ++ es') (received ++ outcome.bytes) c' := by
  have unseen : es'.sawEnd = false := Bool.eq_false_iff.2 (mt toward.sawEnd.1 notEnd)
  have here : es'.delivered c₀.fd = outcome.bytes ++ c'.input.live :=
    h.reread.fd ▸ toward.delivered
  refine ⟨h.reread.trans toward.reread, h.reads.append (h.reread.reads toward.reads), ?_, ?_, ?_,
    ?_, fun moderate => ?_⟩
  · have so := h.conserved
    rw [h.drained before, List.append_nil] at so
    rw [Dialogue.delivered_append, ← List.append_assoc, so, here, List.append_assoc]
  · -- A surplus is kept only when the high mark is reached.
    intro still
    rw [List.length_append] at still
    by_cases none : c'.input.live = []
    · exact none
    · have met : outcome.bytes.length = high - received.length := toward.surplus none
      omega
  · rw [Dialogue.sawEnd_append, h.sawEnd, unseen, Bool.or_false]
  · rw [toward.ended, unseen, Bool.or_false, h.ended]
  · have fits : outcome.bytes.length ≤ high - received.length := toward.le moderate.right
    rw [List.length_append]
    omega

/-- Waiting keeps the invariant. -/
theorem Receiving.suspended (h : c₀.Receiving low high es received c) (waits : c.Waits es') :
    c₀.Receiving low high (es ++ es') received c where
  reread := h.reread
  reads := h.reads.append (h.reread.reads (.of_waits waits))
  conserved := by
    rw [Dialogue.delivered_append, Dialogue.delivered_of_still waits.still, List.append_nil]
    exact h.conserved
  drained := h.drained
  sawEnd := by
    rw [Dialogue.sawEnd_append, h.sawEnd, (Dialogue.Fruitless.of_still c.fd waits.still).sawEnd,
      Bool.or_false]
  ended := h.ended
  le := fun moderate => h.le moderate.left

/-- A read that has reached its low mark is done. -/
theorem Receiving.done (h : c₀.Receiving low high es received c) (reached : low ≤ received.length) :
    c₀.Received low high es ⟨received, none⟩ c where
  reread := h.reread
  reads := h.reads
  conserved := h.conserved
  ended := by rw [h.ended, h.sawEnd, Bool.or_false]
  counted := fun _ no => nomatch no
  le := h.le
  failed := fun _ no => nomatch no
  short := fun _ under => absurd reached (Nat.not_le.2 under)

/-- A read that is cut short counts what it received. -/
theorem Receiving.cut (h : c₀.Receiving low high es received c) (before : received.length < low)
    {e : ChannelError} (count : e.transferred = received.length) :
    c₀.Received low high es ⟨received, some e⟩ c where
  reread := h.reread
  reads := h.reads
  conserved := h.conserved
  ended := by rw [h.ended, h.sawEnd, Bool.or_false]
  counted := fun _ he => Option.some.inj he ▸ count
  le := h.le
  failed := fun _ _ => ⟨before, h.drained before, h.sawEnd⟩
  short := fun no => nomatch no

/-- **A read that sees the end** hands on what came before it. -/
theorem Receiving.finished (h : c₀.Receiving low high es received c) (marks : low ≤ high)
    (before : received.length < low)
    (toward : c.Toward (high - received.length) es' (.moved []) c') :
    c₀.Received low high (es ++ es') ⟨received, none⟩ c' := by
  have empty : c'.input.live = [] := by
    by_cases none : c'.input.live = []
    · exact none
    · have met : 0 = high - received.length := toward.surplus none
      omega
  have here : es'.delivered c₀.fd = [] := by
    rw [← h.reread.fd, toward.delivered, empty]
    rfl
  obtain ⟨front, len, pos, rfl, unseen⟩ := toward.endsEmpty rfl
  refine ⟨⟨h.reread.trans toward.reread, h.reads.append (h.reread.reads toward.reads), ?_, ?_,
    fun _ no => nomatch no⟩, fun moderate => h.le moderate.left, fun _ no => (nomatch no),
    fun _ _ => ⟨empty, ?_⟩⟩
  · rw [Dialogue.delivered_append, here, List.append_nil, empty, h.conserved, h.drained before]
  · rw [toward.ended, Dialogue.sawEnd_append es, h.sawEnd, Bool.false_or, h.ended]
  · refine ⟨es ++ front, len, pos, ?_, ?_⟩
    · rw [h.reread.fd, List.append_assoc]
    · rw [Dialogue.sawEnd_append, h.sawEnd, unseen, Bool.or_false]

/-- A halt in a turn leaves the read below its low mark. -/
theorem Receiving.halts (h : c₀.Receiving low high es received c) (before : received.length < low)
    {halt : Halt} {κ : Type} {s : System κ} (reads : es'.Reads c)
    (fruitless : es'.Moderate → es'.Fruitless c.fd) (mayHalt : c.MayHalt es' halt s) :
    c₀.HaltsReading low (es ++ es') halt s := by
  refine ⟨mayHalt.append_left.congr h.reread.fd.symm h.reread.kind.symm h.reread.waiter.symm,
    h.reads.append (h.reread.reads reads), fun moderate => ?_⟩
  have none := fruitless moderate.right
  rw [h.reread.fd] at none
  rw [Dialogue.sawEnd_append, h.sawEnd, none.sawEnd, Dialogue.delivered_append, none.delivered,
    List.append_nil]
  exact ⟨rfl, h.length_delivered_lt before⟩

/-- **The ways of a turn of a read**: enough was received before, or a read toward the need comes to
the end, brings bytes, fails or has to wait. -/
theorem readTurn_ensures_of_attempt (wf : c₀.WellFormed) (marks : low ≤ high) {len : Nat}
    (fits : high ≤ len) {deadline : Deadline} (h : c₀.Receiving low high es received c)
    {s : System κ} {attempts : Dialogue → Attempt Bytes × Channel → System κ → Prop}
    {inv : Dialogue → Bytes × Channel → System κ → Prop}
    {returns : Dialogue → Reading × Channel → System κ → Prop}
    {halts : Dialogue → Halt → System κ → Prop}
    (attempt : received.length < low →
      (c.readToward (high - received.length)).Ensures s attempts halts)
    (enough : low ≤ received.length → returns es (⟨received, none⟩, c) s)
    (ended : ∀ es' c' s', received.length < low →
      c.Toward (high - received.length) es' (.moved []) c' → attempts es' (.moved [], c') s' →
        returns (es ++ es') (⟨received, none⟩, c') s')
    (moved : ∀ es' bytes c' s', received.length < low → bytes ≠ [] →
      c.Toward (high - received.length) es' (.moved bytes) c' →
        attempts es' (.moved bytes, c') s' → inv (es ++ es') (received ++ bytes, c') s')
    (failed : ∀ es' e c' s', received.length < low →
      c.Toward (high - received.length) es' (.failed e) c' → attempts es' (.failed e, c') s' →
        returns (es ++ es') (⟨received, some (.os e received.length)⟩, c') s')
    (wait : ∀ es' c' s', s.Reaches es' s' → received.length < low →
      c.Toward (high - received.length) es' .mustWait c' → attempts es' (.mustWait, c') s' →
        (c'.mayRetry .readable deadline).Ensures s'
          (fun ws goOn t => (goOn = true → inv (es ++ (es' ++ ws)) (received, c') t) ∧
            (goOn = false → returns (es ++ (es' ++ ws))
              (⟨received, some (.timedOut received.length)⟩, c') t))
          (fun ws halt t => halts (es' ++ ws) halt t)) :
    (readTurn len low high deadline (received, c)).Ensures s (Act.turned inv returns es) halts := by
  unfold readTurn
  dsimp only
  split
  · next reached =>
    refine Act.ensures_pure ?_
    show returns (es ++ []) (⟨received, none⟩, c) s
    rw [List.append_nil]
    exact enough reached
  · next under =>
    have before : received.length < low := Nat.lt_of_not_le under
    have need : 0 < high - received.length := by omega
    refine Act.ensures_check (window_eq (by omega) fits) ?_
    refine Act.ensures_bind (((attempt before).and (readToward_ensures (h.wellFormed wf)
      (h.drained before) need s)).mono (fun _ _ _ _ h => h) fun _ _ _ _ halts => halts.1)
      fun es' r s' reaches ⟨kept, toward⟩ => ?_
    obtain ⟨(_ | ⟨first, bytes⟩) | _ | e, c'⟩ := r
    · refine Act.ensures_pure ?_
      rw [List.append_nil]
      exact ended es' c' s' before toward kept
    · refine Act.ensures_pure ?_
      rw [List.append_nil]
      exact ⟨toward.asked, moved es' _ c' s' before (List.cons_ne_nil _ _) toward kept⟩
    · refine Act.ensures_bind (wait es' c' s' reaches before toward kept)
        fun ws goOn t _ waited => ?_
      rcases goOn with _ | _
      all_goals
        refine Act.ensures_pure ?_
        rw [List.append_nil]
      · exact waited.2 rfl
      · exact ⟨List.append_ne_nil_of_left_ne_nil toward.asked _, waited.1 rfl⟩
    · refine Act.ensures_pure ?_
      rw [List.append_nil]
      exact failed es' e c' s' before toward kept

/-- **One turn of a read** keeps the invariant or ends the read. -/
theorem readTurn_ensures (wf : c₀.WellFormed) (marks : low ≤ high) {len : Nat} (fits : high ≤ len)
    (deadline : Deadline) (h : c₀.Receiving low high es received c) (s : System κ) :
    (readTurn len low high deadline (received, c)).Ensures s
      (Act.turned (fun es x _ => c₀.Receiving low high es x.1 x.2)
        (fun es r _ => c₀.Received low high es r.1 r.2) es)
      (fun es' halt s' => c₀.HaltsReading low (es ++ es') halt s') := by
  have attempt (before : received.length < low) :
      (c.readToward (high - received.length)).Ensures s (fun _ _ _ => True)
        (fun es' halt s' => c₀.HaltsReading low (es ++ es') halt s') :=
    (readToward_ensures (h.wellFormed wf) (h.drained before) (by omega) s).mono
      (fun _ _ _ _ _ => trivial) fun _ _ _ _ halts => h.halts before halts.2.1 halts.2.2 halts.1
  refine readTurn_ensures_of_attempt wf marks fits h attempt h.done
    (fun es' c' s' before toward _ => h.finished marks before toward)
    (fun es' bytes c' s' before some toward _ => h.toward marks before toward fun is =>
      absurd (Attempt.moved.inj is) some)
    (fun es' e c' s' before toward _ => ?_) fun es' c' s' _ before toward _ => ?_
  all_goals have next := h.toward marks before toward nofun
  · rw [Attempt.bytes_failed, List.append_nil] at next
    exact next.cut before rfl
  · rw [Attempt.bytes_mustWait, List.append_nil] at next
    refine (mayRetry_ensures (next.wellFormed wf) .readable deadline s').mono
      (fun ws goOn t _ waits => ?_) fun ws halt t _ halts => ?_
    all_goals rw [← List.append_assoc]
    · have after := next.suspended waits.1
      exact ⟨fun _ => after, fun _ => after.cut before rfl⟩
    · exact next.halts before (.of_waits halts.1) (fun _ => .of_still _ halts.1.still) halts.2

end Turn

/-! ## Whole reads -/

variable {c : Channel} {len low high : Nat}

/-- **A read begins with what is buffered**, up to the high mark, and then keeps its invariant and
whatever else its turns keep: what is shown of a read that needs no turn, and of every turn that
ends the read, holds of the whole read. -/
theorem receive_ensures_of_begun (wf : c.WellFormed) (marks : low ≤ high) (fits : high ≤ len)
    {deadline : Deadline} {s : System κ} {returns : Dialogue → Reading × Channel → System κ → Prop}
    {halts : Dialogue → Halt → System κ → Prop} (inv : Dialogue → Bytes × Channel → System κ → Prop)
    (start : ∀ c', c.Receiving low high [] (c.input.live.take high) c' →
      c'.input.live = c.input.live.drop high → inv [] (c.input.live.take high, c') s)
    (done : ∀ c', c.Receiving low high [] (c.input.live.take high) c' →
      c'.input.live = c.input.live.drop high → low ≤ c.liveCount →
        returns [] (⟨c.input.live.take high, none⟩, c') s)
    (turn : ∀ es x s', s.Reaches es s' → c.Receiving low high es x.1 x.2 → inv es x s' →
      (readTurn len low high deadline x).Ensures s' (Act.turned inv returns es)
        (fun es' => halts (es ++ es'))) :
    (c.receive len low high deadline).Ensures s returns halts := by
  obtain ⟨rest, taken, live, capacity, rwf⟩ := ReadAhead.take_eq wf.input high
  have buffered : c.input.live.length = c.liveCount := ReadAhead.length_live wf.input
  have whole : c.input.live = c.input.live.take high ++ rest.live := by
    rw [live, List.take_append_drop]
  have drained : (c.input.live.take high).length < low → rest.live = [] := by
    intro under
    rw [live]
    rw [List.length_take] at under
    exact List.drop_eq_nil_of_le (by omega)
  have begun : c.Receiving low high [] (c.input.live.take high) { c with input := rest } :=
    ⟨⟨rfl, rwf, capacity⟩, List.forall_mem_nil _,
      (List.append_nil _).trans whole, drained, rfl, rfl, fun _ => List.length_take_le high _⟩
  unfold receive
  refine Act.ensures_check (window_eq (Nat.zero_le _) fits) (Act.ensures_check taken ?_)
  dsimp only
  split
  · next enough => exact Act.ensures_pure (done _ begun live enough)
  · refine Act.ensures_loop (fun es x s' => c.Receiving low high es x.1 x.2 ∧ inv es x s')
      ⟨begun, start _ begun live⟩ fun es x s' reached ⟨receiving, kept⟩ => ?_
    refine ((readTurn_ensures wf marks fits deadline receiving s').and
      (turn es x s' reached receiving kept)).mono (fun es' r t _ both => ?_)
      fun _ _ _ _ halts => halts.2
    obtain ⟨receiving, kept⟩ := both
    cases r with
    | inl y => exact ⟨kept.1, receiving.2, kept.2⟩
    | inr r => exact kept

/-- **A read keeps its invariant** and whatever else its turns keep, where it does not matter what
was buffered. -/
theorem receive_ensures_of_turns (wf : c.WellFormed) (marks : low ≤ high) (fits : high ≤ len)
    {deadline : Deadline} {s : System κ} {returns : Dialogue → Reading × Channel → System κ → Prop}
    {halts : Dialogue → Halt → System κ → Prop} (inv : Dialogue → Bytes × Channel → System κ → Prop)
    (start : ∀ received c', c.Receiving low high [] received c' → inv [] (received, c') s)
    (done : ∀ received c', c.Receiving low high [] received c' → low ≤ received.length →
      returns [] (⟨received, none⟩, c') s)
    (turn : ∀ es x s', s.Reaches es s' → c.Receiving low high es x.1 x.2 → inv es x s' →
      (readTurn len low high deadline x).Ensures s' (Act.turned inv returns es)
        (fun es' => halts (es ++ es'))) :
    (c.receive len low high deadline).Ensures s returns halts := by
  refine receive_ensures_of_begun wf marks fits inv (fun c' begun _ => start _ c' begun)
    (fun c' begun _ enough => done _ c' begun ?_) turn
  have buffered : c.input.live.length = c.liveCount := ReadAhead.length_live wf.input
  rw [List.length_take]
  omega

/-- **A read conserves the input**: from the draining of the buffer to the last refill. -/
theorem receive_ensures (wf : c.WellFormed) (marks : low ≤ high) (fits : high ≤ len)
    (deadline : Deadline) (s : System κ) :
    (c.receive len low high deadline).Ensures s (fun es r _ => c.Received low high es r.1 r.2)
      (fun es h s' => c.HaltsReading low es h s') := by
  refine receive_ensures_of_turns wf marks fits (fun es x _ => c.Receiving low high es x.1 x.2)
    (fun _ _ begun => begun) (fun _ _ begun reached => begun.done reached)
    fun _ _ s' _ h _ => readTurn_ensures wf marks fits deadline h s'

/-- **A read whose marks do not fit** is refused with the channel untouched. -/
structure Refused (c : Channel) (es : Dialogue) (r : Reading) (c' : Channel) : Prop where
  silent : es = []
  same : c' = c
  bytes : r.bytes = []
  error : ∃ rule, r.error? = some (.invalidArgument rule)

theorem Refused.handsOn {es : Dialogue} {r : Reading} {c' : Channel} (wf : c.WellFormed)
    (h : c.Refused es r c') : c.HandsOn es r c' := by
  obtain ⟨rfl, rfl, bytes, rule, error⟩ := h
  refine ⟨.refl wf.input, List.forall_mem_nil _, ?_, (Bool.or_false _).symm,
    fun e he => ?_⟩
  · rw [bytes, Dialogue.delivered_nil, List.append_nil, List.nil_append]
  · rw [error] at he
    rw [← Option.some.inj he, bytes]
    rfl

/-- **A read between marks** is refused exactly when the marks do not fit. -/
theorem readBetween_ensures (wf : c.WellFormed) (len low high : Nat) (deadline : Deadline)
    (s : System κ) :
    (c.readBetween len low high deadline).Ensures s
      (fun es r _ => (low ≤ high ∧ high ≤ len ∧ c.Received low high es r.1 r.2) ∨
        ((high < low ∨ len < high) ∧ c.Refused es r.1 r.2))
      (fun es h s' => c.HaltsReading low es h s') := by
  unfold readBetween
  split
  · next crossed => exact Act.ensures_pure (.inr ⟨.inl crossed, rfl, rfl, rfl, _, rfl⟩)
  · next marks =>
    split
    · next beyond => exact Act.ensures_pure (.inr ⟨.inr beyond, rfl, rfl, rfl, _, rfl⟩)
    · next fits =>
      have marks : low ≤ high := Nat.not_lt.1 marks
      have fits : high ≤ len := Nat.not_lt.1 fits
      exact (receive_ensures wf marks fits deadline s).mono
        (fun _ _ _ _ received => .inl ⟨marks, fits, received⟩) fun _ _ _ _ halts => halts

theorem read_ensures (wf : c.WellFormed) (len : Nat) (deadline : Deadline) (s : System κ) :
    (c.read len deadline).Ensures s (fun es r _ => c.Received len len es r.1 r.2)
      (fun es h s' => c.HaltsReading len es h s') :=
  receive_ensures wf (Nat.le_refl _) (Nat.le_refl _) deadline s

/-- The result of a plain read, which does not hand on the bytes that came before a failure. -/
def plainResult (r : Reading) : Except StandardError Bytes :=
  match r.error? with
  | none => .ok r.bytes
  | some e => .error e.toStandard

/-- **A plain read** of at least one byte is a read that stops at its first byte, and what is
ensured of that is ensured of it. -/
theorem readSome_ensures_of_receive (some : len ≠ 0) {s : System κ}
    {returns : Dialogue → Except StandardError Bytes × Channel → System κ → Prop}
    {halts : Dialogue → Halt → System κ → Prop}
    (receives : (c.receive len 1 len .never).Ensures s
      (fun es r s' => returns es (plainResult r.1, r.2) s') halts) :
    (c.readSome len).Ensures s returns halts := by
  have low : ¬ 1 > len := Nat.not_lt.2 (Nat.pos_of_ne_zero some)
  unfold readSome readBetween
  rw [if_neg some, if_neg low, if_neg (Nat.lt_irrefl len)]
  refine Act.ensures_bind receives fun es r s' _ post => ?_
  obtain ⟨⟨bytes, _ | e⟩, c'⟩ := r
  all_goals
    refine Act.ensures_pure ?_
    rw [List.append_nil]
    exact post

/-- **A plain read** of no bytes does nothing, and any other waits for the first byte only. -/
theorem readSome_ensures (wf : c.WellFormed) (len : Nat) (s : System κ) :
    (c.readSome len).Ensures s
      (fun es r _ => (len = 0 ∧ es = [] ∧ r = (.ok [], c)) ∨
        ∃ reading, c.Received 1 len es reading r.2 ∧ r.1 = plainResult reading)
      (fun es h s' => c.HaltsReading 1 es h s') := by
  by_cases none : len = 0
  · unfold readSome
    rw [if_pos none]
    exact Act.ensures_pure (.inl ⟨none, rfl, rfl⟩)
  · exact readSome_ensures_of_receive none ((receive_ensures wf (Nat.pos_of_ne_zero none)
      (Nat.le_refl _) .never s).mono (fun _ _ _ _ received => .inr ⟨_, received, rfl⟩)
      fun _ _ _ _ halts => halts)

/-- **A plain read that fails has nothing to hand on**. -/
theorem Received.bytes_eq_nil {high : Nat} {es : Dialogue} {r : Reading} {c' : Channel}
    (h : c.Received 1 high es r c') {e : ChannelError} (failed : r.error? = some e) :
    r.bytes = [] :=
  List.length_eq_zero_iff.1 (Nat.lt_one_iff.1 (h.failed e failed).1)

end Channel

end BufferedChannels
