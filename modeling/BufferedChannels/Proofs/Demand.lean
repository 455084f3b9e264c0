import Mathlib
import BufferedChannels.Proofs.Conservation
import BufferedChannels.Proofs.CutShort

/-!
# Proofs/Demand — how much a read asks for, and where it stops

A read calls its descriptor only **as long as it is below its low mark**, and each time for what it
needs up to the high mark or for as much as its buffer holds, whichever is more.  It stops with
bytes in its buffer only at the high mark.  Both are read off one invariant of its turns
(`Measured`), and from it and from what every read comes to (`Received`) both kinds of read are told
from their first look at the buffer to their answer.
-/

namespace BufferedChannels

/-! ## Dialogues, exchange by exchange -/

namespace Dialogue

/-- **Every exchange is as wanted**, seen with the exchanges before it. -/
def Throughout (P : Dialogue → Exchange → Prop) (es : Dialogue) : Prop :=
  ∀ before e after, es = before ++ e :: after → P before e

variable {P : Dialogue → Exchange → Prop} {es es' : Dialogue}

theorem Throughout.nil : Throughout P [] := fun _ _ _ whole =>
  absurd whole.symm (List.append_ne_nil_of_right_ne_nil _ (List.cons_ne_nil _ _))

theorem Throughout.append (h : es.Throughout P)
    (h' : es'.Throughout fun before => P (es ++ before)) : (es ++ es').Throughout P := by
  intro before e after whole
  rcases List.append_eq_append_iff.1 whole with ⟨between, rfl, tail⟩ | ⟨between, rfl, tail⟩
  · exact h' between e after tail
  · rcases between with _ | ⟨first, between⟩
    · -- The exchange is the first of the second part.
      have later := h' [] e after tail.symm
      rwa [List.append_nil, List.append_nil] at later
    · obtain ⟨rfl, _⟩ := List.cons.inj tail
      exact h before e between rfl

/-- What holds of an exchange wherever it stands holds throughout. -/
theorem Throughout.of_mem (h : ∀ e ∈ es, ∀ before, P before e) : es.Throughout P :=
  fun before e _ whole => h e (whole ▸ List.mem_append_right _ List.mem_cons_self) before

theorem Throughout.mono {Q : Dialogue → Exchange → Prop} (h : es.Throughout P)
    (implies : ∀ before e, P before e → Q before e) : es.Throughout Q :=
  fun before e after whole => implies before e (h before e after whole)

end Dialogue

/-- **An attempt makes one call over and over**, and nothing is delivered before its end. -/
theorem Attempted.throughout {fd : Int} {len : Nat} {es : Dialogue} {outcome : Attempt Bytes}
    (h : Attempted (Descriptor.reading fd len) es outcome) :
    es.Throughout fun before e =>
      before.delivered fd = [] ∧ ∃ reply, e = Descriptor.reading fd len reply := by
  obtain ⟨idle, reply, interrupted, rfl, _⟩ := h
  have silent {before : Dialogue} (part : ∀ e ∈ before, e ∈ idle) : before.delivered fd = [] :=
    (Dialogue.Fruitless.of_interrupted fd fun e he => interrupted e (part e he)).delivered
  refine Dialogue.Throughout.append (fun before e after whole => ?_) fun before e after whole => ?_
  · refine ⟨silent fun e he => whole ▸ List.mem_append_left _ he, ?_⟩
    obtain ⟨errno, _, same⟩ := interrupted e (whole ▸ List.mem_append_right _ List.mem_cons_self)
    exact ⟨_, same⟩
  · obtain ⟨rfl, rfl, _⟩ : before = [] ∧ e = Descriptor.reading fd len reply ∧ after = [] := by
      rcases before with _ | ⟨first, before⟩
      · obtain ⟨rfl, rfl⟩ := List.cons.inj whole
        exact ⟨rfl, rfl, rfl⟩
      · have more := congrArg List.length whole
        simp at more
    rw [List.append_nil]
    exact ⟨silent fun _ he => he, reply, rfl⟩

namespace Channel

/-! ## What a read asks for -/

/-- **A read of a channel may ask** for bytes while those that it has, from its buffer and from its
calls so far, do not reach the low mark; and then it asks for what is missing at the high mark or
for as much as its buffer holds, whichever is more. -/
def Asks (c : Channel) (low high : Nat) (before : Dialogue) (e : Exchange) : Prop :=
  ∀ len reply, e = Descriptor.reading c.fd len reply →
    c.liveCount + (before.delivered c.fd).length < low ∧
      len = max (high - (c.liveCount + (before.delivered c.fd).length)) c.input.capacity

/-- **How far a read went** that received some bytes and left a channel: it asked for no more than
it may, and bytes stay in its buffer only at the high mark. -/
structure Measured (c₀ : Channel) (low high : Nat) (es : Dialogue) (received : Bytes)
    (c : Channel) : Prop where
  asked : es.Throughout (c₀.Asks low high)
  surplus : c.input.live ≠ [] → received.length = high

variable {c₀ c c' : Channel} {low high : Nat} {es es' : Dialogue} {received : Bytes}

/-- A read below its low mark has received what was buffered and what was delivered. -/
theorem Receiving.length_received (h : c₀.Receiving low high es received c) (wf : c₀.WellFormed)
    (before : received.length < low) :
    received.length = c₀.liveCount + (es.delivered c₀.fd).length := by
  have total := congrArg List.length h.conserved
  rw [h.drained before, List.append_nil, List.length_append, ReadAhead.length_live wf.input]
    at total
  exact total.symm

/-- **One read toward the need goes no farther than it may.** -/
theorem Measured.toward (m : c₀.Measured low high es received c) (wf : c₀.WellFormed)
    (marks : low ≤ high) (h : c₀.Receiving low high es received c)
    (before : received.length < low) {outcome attempted : Attempt Bytes}
    (attempt : Attempted (Descriptor.reading c.fd (max (high - received.length) c.input.capacity))
      es' attempted)
    (toward : c.Toward (high - received.length) es' outcome c') :
    c₀.Measured low high (es ++ es') (received ++ outcome.bytes) c' where
  asked := by
    refine m.asked.append (attempt.throughout.mono fun between e ⟨silent, reply, is⟩ => ?_)
    intro len reply' same
    obtain ⟨request, _⟩ := Exchange.mk.inj (is.symm.trans same)
    obtain ⟨_, rfl⟩ := Request.read.inj request
    rw [Dialogue.delivered_append, ← h.reread.fd, silent, List.append_nil, h.reread.fd,
      ← h.length_received wf before, ← h.reread.capacity]
    exact ⟨before, rfl⟩
  surplus := by
    intro some
    have met : outcome.bytes.length = high - received.length := toward.surplus some
    rw [List.length_append]
    omega

/-- Waiting asks for nothing. -/
theorem Measured.suspended (m : c₀.Measured low high es received c) (waits : c'.Waits es') :
    c₀.Measured low high (es ++ es') received c where
  asked := m.asked.append <| .of_mem fun e he _ _ _ is => by
    have suspends := (waits e he).2
    rw [is] at suspends
    cases suspends
  surplus := m.surplus

variable {κ : Type} [Host κ] {len : Nat}

/-- **One turn of a read** goes no farther than it may. -/
theorem readTurn_measured (wf : c₀.WellFormed) (marks : low ≤ high) (fits : high ≤ len)
    (deadline : Deadline) (h : c₀.Receiving low high es received c)
    (m : c₀.Measured low high es received c) (s : System κ) :
    (readTurn len low high deadline (received, c)).Ensures s
      (Act.turned (fun es x _ => c₀.Measured low high es x.1 x.2)
        (fun es r _ => c₀.Measured low high es r.1.bytes r.2) es)
      (fun _ _ _ => True) := by
  refine readTurn_ensures_of_attempt wf marks fits h (fun _ => (readToward_asked _ s).mono
    (fun _ _ _ _ asked => asked) fun _ _ _ _ _ => trivial) (fun _ => m)
    (fun es' c' _ before toward ⟨_, attempt, _⟩ => ?_)
    (fun es' bytes c' _ before _ toward ⟨_, attempt, _⟩ =>
      m.toward wf marks h before attempt toward)
    (fun es' e c' _ before toward ⟨_, attempt, _⟩ => ?_)
    fun es' c' s' _ before toward ⟨_, attempt, _⟩ => ?_
  all_goals
    have next := m.toward wf marks h before attempt toward
    rw [show Attempt.bytes _ = [] from rfl, List.append_nil] at next
  · exact next
  · exact next
  · have wf' : c'.WellFormed :=
      ⟨toward.reread.wellFormed, toward.reread.output ▸ (h.wellFormed wf).output⟩
    refine (mayRetry_ensures wf' .readable deadline s').mono (fun ws _ _ _ waits => ?_)
      fun _ _ _ _ _ => trivial
    rw [← List.append_assoc]
    exact ⟨fun _ => next.suspended waits.1, fun _ => next.suspended waits.1⟩

/-- **A read goes no farther than it may**, from its buffer to its last call. -/
theorem receive_measured (wf : c.WellFormed) (marks : low ≤ high) (fits : high ≤ len)
    (deadline : Deadline) (s : System κ) :
    (c.receive len low high deadline).Ensures s
      (fun es r _ => c.Measured low high es r.1.bytes r.2) (fun _ _ _ => True) := by
  have begun (c' : Channel) (rest : c'.input.live = c.input.live.drop high) :
      c.Measured low high [] (c.input.live.take high) c' := by
    refine ⟨.nil, fun some => List.length_take_of_le ?_⟩
    rw [rest, ne_eq, List.drop_eq_nil_iff] at some
    omega
  exact receive_ensures_of_begun wf marks fits (fun es x _ => c.Measured low high es x.1 x.2)
    (fun c' _ rest => begun c' rest) (fun c' _ rest _ => begun c' rest)
    fun es x s' _ receiving measured => readTurn_measured wf marks fits deadline receiving measured
      s'

/-! ## From the first look at the buffer to the answer -/

/-- **What is certain of a read that returned**, with the bytes it had to reach and those it could
bring. -/
structure Returned (c : Channel) (low high : Nat) (es : Dialogue) (r : Reading) (c' : Channel) :
    Prop where
  /-- The bytes handed on and those that stay are those that were buffered and those that came. -/
  conserved : c.input.live ++ es.delivered c.fd = r.bytes ++ c'.input.live
  /-- No more than the high mark comes, unless the host moved more than it was asked for. -/
  le : es.Moderate → r.bytes.length ≤ high
  /-- Less than the low mark comes when the last call met the end, and the channel says so. -/
  short : r.error? = none → r.bytes.length < low → es.EndsEmpty c.fd ∧ c'.ended = true
  /-- Bytes stay buffered only at the high mark. -/
  surplus : c'.input.live ≠ [] → r.error? = none ∧ r.bytes.length = high
  /-- No call is made from the low mark on. -/
  asked : es.Throughout (c.Asks low high)
  /-- A failure counts what came, which is below the low mark, and is no end. -/
  cut : ∀ e, r.error? = some e →
    e.transferred = r.bytes.length ∧ e.transferred < low ∧ c'.ended = c.ended

/-- A read that fails or stops short of the high mark leaves nothing buffered. -/
theorem Returned.drained {r : Reading} (h : c.Returned low high es r c')
    (part : ¬ (r.error? = none ∧ r.bytes.length = high)) : c'.input.live = [] :=
  Decidable.byContradiction fun some => part (h.surplus some)

theorem Received.returned {r : Reading} (h : c.Received low high es r c')
    (m : c.Measured low high es r.bytes c') : c.Returned low high es r c' where
  conserved := h.conserved
  le := h.le
  short := fun fine under => by
    have ends := (h.short fine under).2
    rw [h.ended, ends.sawEnd, Bool.or_true]
    exact ⟨ends, rfl⟩
  surplus := fun some => by
    refine ⟨Option.eq_none_iff_forall_not_mem.2 fun e failed => ?_, m.surplus some⟩
    exact some (h.failed e failed).2.1
  asked := m.asked
  cut := fun e failed => by
    obtain ⟨under, _, unseen⟩ := h.failed e failed
    rw [h.counted e failed, h.ended, unseen, Bool.or_false]
    exact ⟨rfl, under, rfl⟩

/-- **A read that returns** has done what is certain of it. -/
theorem receive_returned (wf : c.WellFormed) (marks : low ≤ high) (fits : high ≤ len)
    {deadline : Deadline} {r : Reading} {s s' : System κ}
    (run : (c.receive len low high deadline).runOn s = (.ok (r, c'), s'))
    (noted : s'.trace = es.reverse ++ s.trace) : c.Returned low high es r c' := by
  obtain ⟨received, measured⟩ := ((receive_ensures wf marks fits deadline s).and
    (receive_measured wf marks fits deadline s)).of_noted run noted
  exact received.returned measured

/-- **A read whose low mark is buffered** takes what it may from the buffer, and nothing else
happens. -/
theorem runOn_receive_of_buffered (wf : c.WellFormed) (fits : high ≤ len)
    (buffered : low ≤ c.liveCount) (deadline : Deadline) (s : System κ) :
    ∃ bytes c', (c.receive len low high deadline).runOn s = (.ok (⟨bytes, none⟩, c'), s) ∧
      bytes.length = min c.liveCount high ∧ bytes ++ c'.input.live = c.input.live := by
  obtain ⟨rest, taken, live, -⟩ := ReadAhead.take_eq wf.input high
  refine ⟨c.input.live.take high, { c with input := rest }, ?_, ?_, ?_⟩
  · rw [receive, window_eq (Nat.zero_le _) fits, Nat.sub_zero, Act.runOn_check, taken,
      Act.runOn_check]
    dsimp only
    rw [if_pos buffered]
    rfl
  · rw [List.length_take, ReadAhead.length_live wf.input, Nat.min_comm]
    rfl
  · rw [live, List.take_append_drop]

/-- **A read between marks, told in full.**  Marks that do not fit are refused with the channel and
its surroundings as they were.  Otherwise a read whose low mark is buffered returns without a call,
with as much of the buffer as the high mark lets through; and whenever it returns, it did what is
certain of a read with these marks. -/
theorem readBetween_returned (wf : c.WellFormed) (len low high : Nat) (deadline : Deadline)
    (s : System κ) :
    (high < low ∨ len < high → ∃ rule, (c.readBetween len low high deadline).runOn s =
        (.ok (⟨[], some (.invalidArgument rule)⟩, c), s)) ∧
      (low ≤ high → high ≤ len →
        (low ≤ c.liveCount → ∃ bytes c',
          (c.readBetween len low high deadline).runOn s = (.ok (⟨bytes, none⟩, c'), s) ∧
            bytes.length = min c.liveCount high ∧ bytes ++ c'.input.live = c.input.live) ∧
        ∀ es r c' s', (c.readBetween len low high deadline).runOn s = (.ok (r, c'), s') →
          s'.trace = es.reverse ++ s.trace → c.Returned low high es r c') := by
  refine ⟨fun unfit => ?_, fun marks fits => ?_⟩
  · rw [readBetween]
    by_cases crossed : low > high
    · exact ⟨_, by rw [if_pos crossed]; rfl⟩
    · have beyond : high > len := unfit.resolve_left crossed
      exact ⟨_, by rw [if_neg crossed, if_pos beyond]; rfl⟩
  · have accepted : (c.readBetween len low high deadline : Act κ _) =
        c.receive len low high deadline := by
      rw [readBetween, if_neg (Nat.not_lt.2 marks), if_neg (Nat.not_lt.2 fits)]
    rw [accepted]
    exact ⟨fun buffered => runOn_receive_of_buffered wf fits buffered deadline s,
      fun _ _ _ _ run noted => receive_returned wf marks fits run noted⟩

/-! A pipe that gives its first bytes in small portions and interrupts a call between them. -/

/-- The kernel of the pipe, and its descriptor. -/
def sipping : System Simulation.Kernel where
  host :=
    { nodes := [("p", {
        body := .stream { unread := [1, 2, 3, 4, 5, 6, 7, 8, 9], hungUp := true }
        script := [(.read, { max? := some 2 }), (.read, { max? := some 1 }),
          (.read, { errno? := some ⟨4⟩ })] })]
      descriptors := [(3, { node := "p", flags := { access := .readWrite } })] }
  budget := 40
  bufferLength := 4

/-- Its channel with a given buffer. -/
def sippingChannel (input : ReadAhead) (ended : Bool) : Channel :=
  { fd := 3, kind := .unasked, input, output := ⟨[0, 0, 0, 0], 0⟩, ended, verbose := false,
    waiter := .polling .shared }

theorem sippingChannel_wellFormed {input : ReadAhead} (wf : input.WellFormed) (ended : Bool) :
    (sippingChannel input ended).WellFormed := ⟨wf, Nat.zero_le 4⟩

/-- The channel with one byte read ahead. -/
def sippedChannel : Channel := sippingChannel ⟨[1, 2, 0, 0], 1, 1⟩ false

/-- The pipe after the byte before it was read. -/
def sipped : System Simulation.Kernel :=
  (do
    let _ ← (Opening.adopt 3).run
    (sippingChannel ⟨[0, 0, 0, 0], 0, 0⟩ false).read 1 .never : Act _ _).runOn sipping |>.2

/-- The channel after a read between three and five bytes, with a byte too many. -/
def drunkChannel : Channel := sippingChannel ⟨[4, 5, 6, 7], 3, 1⟩ false

/-- The pipe after that read. -/
def drunk : System Simulation.Kernel := ((sippedChannel.readBetween 9 3 5 .never).runOn sipped).2

/-- What passes in it: two refills, the second at the second try. -/
def sips : Dialogue :=
  [Descriptor.reading 3 4 (.ok [3]), Descriptor.reading 3 4 (.error ⟨4⟩),
    Descriptor.reading 3 4 (.ok [4, 5, 6, 7])]

theorem readBetween_returned_sipped :
    (∃ rule, (sippedChannel.readBetween 9 5 3 .never).runOn sipped =
        (.ok (⟨[], some (.invalidArgument rule)⟩, sippedChannel), sipped)) ∧
      (∃ bytes c', (drunkChannel.readBetween 9 1 5 .never).runOn drunk =
          (.ok (⟨bytes, none⟩, c'), drunk) ∧
        bytes.length = min 1 5 ∧ bytes ++ c'.input.live = [7]) ∧
      sippedChannel.Returned 3 5 sips ⟨[2, 3, 4, 5, 6], none⟩ drunkChannel := by
  have wf : sippedChannel.WellFormed :=
    sippingChannel_wellFormed ⟨by decide, by decide⟩ false
  have wf' : drunkChannel.WellFormed := sippingChannel_wellFormed ⟨by decide, by decide⟩ false
  have run : (sippedChannel.readBetween 9 3 5 .never).runOn sipped =
      (.ok (⟨[2, 3, 4, 5, 6], none⟩, drunkChannel), drunk) := by cbv
  have noted : drunk.trace = sips.reverse ++ sipped.trace := by cbv
  exact ⟨(readBetween_returned wf 9 5 3 .never sipped).1 (.inl (by decide)),
    ((readBetween_returned wf' 9 1 5 .never drunk).2 (by decide) (by decide)).1 (by decide),
    ((readBetween_returned wf 9 3 5 .never sipped).2 (by decide) (by decide)).2 _ _ _ _ run noted⟩

/-- **A read of an exact length, told in full.**  A read whose length is buffered returns it without
a call.  Whenever a read returns without a failure, it brings its length, or less when the last call
met the end, which empties the buffer and is remembered; a failure comes below the length, with an
empty buffer and no end seen.  It asks for what is missing or for as much as its buffer holds,
whichever is more, and bytes stay buffered only behind the whole length. -/
theorem read_returned (wf : c.WellFormed) (len : Nat) (deadline : Deadline) (s : System κ) :
    (len ≤ c.liveCount → ∃ bytes c',
        (c.read len deadline).runOn s = (.ok (⟨bytes, none⟩, c'), s) ∧
          bytes.length = len ∧ bytes ++ c'.input.live = c.input.live) ∧
      ∀ (es : Dialogue) (r : Reading) c' s', (c.read len deadline).runOn s = (.ok (r, c'), s') →
        s'.trace = es.reverse ++ s.trace →
          (r.error? = none → es.Moderate → r.bytes.length = len ∨
            r.bytes.length < len ∧ es.EndsEmpty c.fd ∧ c'.ended = true ∧ c'.input.live = []) ∧
          (∀ e, r.error? = some e →
            e.transferred < len ∧ c'.input.live = [] ∧ c'.ended = c.ended) ∧
          es.Throughout (c.Asks len len) ∧
          (c'.input.live ≠ [] → r.error? = none ∧ r.bytes.length = len) := by
  refine ⟨fun buffered => ?_, fun es r c' s' run noted => ?_⟩
  · obtain ⟨bytes, c', run, count, rest⟩ :=
      runOn_receive_of_buffered wf (Nat.le_refl len) buffered deadline s
    exact ⟨bytes, c', run, count.trans (Nat.min_eq_right buffered), rest⟩
  · have returned : c.Returned len len es r c' :=
      receive_returned wf (Nat.le_refl _) (Nat.le_refl _) run noted
    refine ⟨fun fine moderate => ?_, fun e failed => ?_, returned.asked, returned.surplus⟩
    · refine (Nat.lt_or_eq_of_le (returned.le moderate)).symm.imp_right fun under => ?_
      obtain ⟨ends, ended⟩ := returned.short fine under
      exact ⟨under, ends, ended, returned.drained fun whole => Nat.ne_of_lt under whole.2⟩
    · obtain ⟨_, under, ended⟩ := returned.cut e failed
      exact ⟨under, returned.drained fun whole => (nomatch failed.symm.trans whole.1), ended⟩

/-- The channel after everything was read. -/
def drainedChannel : Channel := sippingChannel ⟨[4, 5, 6, 7], 0, 0⟩ true

/-- What passes until then: a call past the buffer, and one that meets the end. -/
def lastSips : Dialogue := [Descriptor.reading 3 5 (.ok [8, 9]), Descriptor.reading 3 4 (.ok [])]

theorem read_returned_drunk :
    (∃ bytes c', (drunkChannel.read 1 .never).runOn drunk = (.ok (⟨bytes, none⟩, c'), drunk) ∧
        bytes.length = 1 ∧ bytes ++ c'.input.live = [7]) ∧
      ([7, 8, 9].length = 6 ∨
        [7, 8, 9].length < 6 ∧ lastSips.EndsEmpty 3 ∧ drainedChannel.ended = true ∧
          drainedChannel.input.live = []) ∧
      lastSips.Throughout (drunkChannel.Asks 6 6) := by
  have wf : drunkChannel.WellFormed := sippingChannel_wellFormed ⟨by decide, by decide⟩ false
  have run : (drunkChannel.read 6 .never).runOn drunk =
      (.ok (⟨[7, 8, 9], none⟩, drainedChannel),
        ((drunkChannel.read 6 .never).runOn drunk).2) := by cbv
  have noted : ((drunkChannel.read 6 .never).runOn drunk).2.trace =
      lastSips.reverse ++ drunk.trace := by cbv
  have moderate : lastSips.Moderate :=
    List.forall_mem_cons.2 ⟨show 2 ≤ 5 by decide, List.forall_mem_singleton.2 (Nat.zero_le 4)⟩
  have told := (read_returned wf 6 .never drunk).2 _ _ _ _ run noted
  exact ⟨(read_returned wf 1 .never drunk).1 (by decide), told.1 rfl moderate, told.2.2.1⟩

end Channel

end BufferedChannels
