import Mathlib
import BufferedChannels.Proofs.Bounds
import BufferedChannels.Proofs.HungUp
import BufferedChannels.Proofs.Resubmission
import BufferedChannels.Proofs.Timeliness

/-!
# Proofs/Fragmentation — how a kernel cuts up transfers does not show

A kernel may move fewer bytes than it was asked to, interrupt calls and have a channel wait.  Over
a stream that hung up none of it shows.  A `Flow` is what a channel and its stream hold **wherever
the bytes stand**, in the buffer or still in the kernel, and its reads, writes and flushes know of
no calls at all.  A channel in use `Holds` a flow, every transfer returns and keeps it so, and a
run observes what the flow gives (`Flow.Holds.observe_eq`).  So two runs observe the same, whatever
the scripts.
-/

namespace BufferedChannels

open Simulation

/-! ## Transfers and what they show -/

/-- **A transfer that waits as long as it takes**: so many bytes are read, data is written, or what
is pending is sent. -/
inductive Transfer where
  | read (len : Nat)
  | write (data : Bytes)
  | flush

/-- A transfer as an operation, without a deadline. -/
def Transfer.operation : Transfer → Operation
  | read len => .read len .never
  | write data => .write data .never
  | flush => .flush .never

/-- The number of bytes that a transfer asks to move. -/
def Transfer.size : Transfer → Nat
  | read len => len
  | write data => data.length
  | flush => 0

/-- **What shows after a transfer**: its answer, whether the end was seen, how many bytes are
pending, and the bytes that arrived at the stream. -/
structure Observation where
  answer : Answer
  ended : Bool
  pendingCount : Nat
  written? : Option Bytes

/-- **What a run of transfers shows**, each of which may make so many exchanges, if all of them
return. -/
def observe (budget : Nat) (path : String) (c : Channel) (s : System Kernel) :
    List Transfer → Option (List Observation)
  | [] => some []
  | transfer :: rest =>
    match (transfer.operation.run c).runOn { s with budget } with
    | (.ok (answer, c'), s') => (observe budget path c' s' rest).map fun later =>
        ⟨answer, c'.ended, c'.pendingCount, s'.host.written? path⟩ :: later
    | _ => none

/-! ## Flows -/

/-- **What a channel and its stream hold**, wherever it stands: the bytes to come, whether they were
read ahead or not, those pending and those that arrived. -/
structure Flow where
  terms : Terms
  capacity : Nat
  incoming : Bytes
  pending : Bytes
  written : Bytes
  ended : Bool

namespace Flow

/-- The failure of a transfer that the descriptor is not open for. -/
def refusal : ChannelError := .os .badDescriptor 0

/-- **Reading** takes as many bytes as there are, and the end shows when there are too few. -/
def read (f : Flow) (len : Nat) : Reading × Flow :=
  if 0 < len ∧ f.terms.allows .readable = false then (⟨[], some refusal⟩, f)
  else (⟨f.incoming.take len, none⟩,
    { f with incoming := f.incoming.drop len, ended := f.ended || f.incoming.length < len })

/-- Bytes are sent, and others stay pending. -/
def send (f : Flow) (bytes pending : Bytes) : Flow :=
  { f with pending, written := f.written ++ f.terms.arriving bytes }

/-- **Writing** takes the data and leaves it pending where it fits, beside what is pending or alone;
what is not left pending is sent. -/
def write (f : Flow) (data : Bytes) : Except ChannelError Nat × Flow :=
  if f.pending.length + data.length ≤ f.capacity then
    (.ok data.length, { f with pending := f.pending ++ data })
  else if f.terms.allows .writable = false then (.error refusal, f)
  else if data.length ≤ f.capacity then (.ok data.length, f.send f.pending data)
  else (.ok data.length, f.send (f.pending ++ data) [])

/-- **Flushing** sends what is pending. -/
def flush (f : Flow) : Except ChannelError Unit × Flow :=
  if f.pending = [] then (.ok (), f)
  else if f.terms.allows .writable = false then (.error refusal, f)
  else (.ok (), f.send f.pending [])

/-- A transfer on a flow. -/
def after (f : Flow) : Transfer → Answer × Flow
  | .read len => (.reading (f.read len).1, (f.read len).2)
  | .write data => (.count (f.write data).1, (f.write data).2)
  | .flush => (.finished f.flush.1, f.flush.2)

/-- The buffer keeps its size. -/
theorem capacity_after (f : Flow) (transfer : Transfer) :
    (f.after transfer).2.capacity = f.capacity := by
  rcases transfer with len | data | _
  · show (f.read len).2.capacity = f.capacity
    unfold read
    split <;> rfl
  · show (f.write data).2.capacity = f.capacity
    unfold write
    repeat' split
    all_goals rfl
  · show f.flush.2.capacity = f.capacity
    unfold flush
    repeat' split
    all_goals rfl

/-- **What a run of transfers is to show.** -/
def observe (f : Flow) : List Transfer → List Observation
  | [] => []
  | transfer :: rest =>
    let next := f.after transfer
    ⟨next.1, next.2.ended, next.2.pending.length, some next.2.written⟩ :: next.2.observe rest

end Flow

/-! ## What a write leaves pending -/

namespace Channel

/-- **What a write that succeeds leaves pending**: the data beside what was pending, the data
alone, or nothing when the data is larger than the buffer. -/
inductive Leaves (c : Channel) (data : Bytes) : Bytes → Prop
  | together : c.output.pending.length + data.length ≤ c.output.capacity →
      Leaves c data (c.output.pending ++ data)
  | alone : c.output.capacity < c.output.pending.length + data.length →
      data.length ≤ c.output.capacity → Leaves c data data
  | nothing : c.output.capacity < data.length → Leaves c data []

variable {κ : Type} [Host κ] {c : Channel}

/-- **How a write ends**: it succeeds and leaves pending what fits, or it fails, and then the data
did not fit beside what was pending. -/
def EndsWriting (c : Channel) (data : Bytes) (c' : Channel) : Except ChannelError Nat → Prop
  | .ok _ => c.Leaves data c'.output.pending
  | .error _ => c.output.capacity < c.output.pending.length + data.length

theorem write_endsWriting (wf : c.WellFormed) (data : Bytes) (deadline : Deadline) (s : System κ) :
    (c.write data deadline).Ensures s (fun _ r _ => c.EndsWriting data r.2 r.1)
      (fun _ _ _ => True) := by
  have count := WriteBehind.length_pending wf.output
  have excess (full : ¬ c.output.hasRoom data.length = true) :
      c.output.capacity < c.output.pending.length + data.length := by
    rw [WriteBehind.hasRoom_iff wf.output, ← count, Nat.not_le] at full
    exact full
  refine write_ensures_of_ways wf ((flush_ensures wf deadline s).mono (fun _ _ _ _ h => h)
    fun _ _ _ _ _ => trivial) (fun c' room _ more => ?_) (fun _ _ _ _ full _ _ => excess full)
    (fun es c₁ c' s' full flushed _ room _ more => ?_) fun es c₁ s' j _ full flushed _ large => ?_
  · rw [WriteBehind.hasRoom_iff wf.output, ← count] at room
    show c.Leaves data c'.output.pending
    rw [more]
    exact .together room
  all_goals
    have wf₁ := flushed.rewritten.toWellFormed wf
    have none : c₁.output.pending = [] := (flushed.done rfl).1
  · have empty := WriteBehind.length_pending wf₁.output
    rw [none, List.length_nil] at empty
    rw [WriteBehind.hasRoom_iff wf₁.output, ← empty, Nat.zero_add,
      flushed.rewritten.capacity] at room
    show c.Leaves data c'.output.pending
    rw [more, none, List.nil_append]
    exact .alone (excess full) room
  · have large := capacity_lt_of_noRoom wf₁.output none large
    rw [flushed.rewritten.capacity] at large
    refine (send_ensures wf₁ data deadline _).mono (fun es' r t _ _ => ?_) fun _ _ _ _ _ => trivial
    obtain ⟨sent, _ | e⟩ := r
    · show c.Leaves data c₁.output.pending
      rw [none]
      exact .nothing large
    · exact excess full

omit [Host κ] in
/-- **A write that fails without a byte accepted** took nothing. -/
theorem CutWrite.unchanged {c' : Channel} {data : Bytes} {e : ChannelError} {es : Dialogue}
    (cut : c.CutWrite data e c') (written : c.Written data es (.error e) c')
    (none : es.accepted c.fd = []) : e.transferred = 0 ∧ c'.output.pending = c.output.pending := by
  have total := written.conserved
  rw [none, List.nil_append, takenBy] at total
  have zero : e.transferred = 0 := by
    refine Nat.eq_zero_of_not_pos fun some => ?_
    have empty := (cut.direct some).2
    have count := congrArg List.length total
    rw [empty, List.length_nil, List.length_append, List.length_take] at count
    have short := cut.short
    omega
  rw [zero, List.take_zero, List.append_nil] at total
  exact ⟨zero, total⟩

end Channel

/-! ## What a transfer over a stream comes to -/

namespace Wire

variable {terms : Terms} {c : Channel} {w w' : Wire} {es : Dialogue}

/-- **A transfer halts** for want of a budget only. -/
theorem Converses.spent (h : w.Converses terms c.fd es w') {halt : Halt} {s : System Kernel}
    (mayHalt : c.MayHalt es halt s) {scope : Scope} (polls : c.waiter = .polling scope)
    (number : c.fd ≠ Waiter.noDescriptor) (moderate : es.Moderate) : s.budget = 0 := by
  cases mayHalt with
  | spent hb => exact hb
  | never _ mem =>
    obtain ⟨_, _, reply⟩ := h.of_mem mem
    exact absurd reply Replies.not_never
  | noDescriptor _ _ none => exact absurd none number
  | woken _ waits =>
    rw [polls] at waits
    cases waits
  | overfull mem excess => exact absurd (moderate _ mem) excess

/-- **A transfer fails** only when the descriptor refuses it. -/
theorem Converses.refusal (h : w.Converses terms c.fd es w') {direction : Direction}
    {s s' : System Kernel} {e : ChannelError} (cut : c.CutShort direction .never s es e s')
    {scope : Scope} (polls : c.waiter = .polling scope) :
    e = .os .badDescriptor e.transferred ∧ terms.allows direction = false := by
  cases cut with
  | @refused before last x n _ fails retried blocked =>
    obtain ⟨_, _, reply⟩ := h.of_mem (List.mem_append_right before (List.mem_singleton.2 rfl))
    obtain ⟨rfl, not⟩ := reply.refuses fails fun again => again.elim retried blocked
    exact ⟨rfl, not⟩
  | late _ _ _ _ _ timedOut =>
    -- Without a deadline no wait times out.
    rw [polls] at timedOut
    exact absurd (Waiter.due_of_timedOut timedOut) Deadline.not_due_never

end Wire

/-! ## Channels that hold a flow -/

namespace Flow

/-- **A channel in use holds a flow**: the bytes to come are those read ahead and those unread,
what is pending is in its buffer, and the kernel feeds it a stream that keeps what arrived. -/
structure Holds (f : Flow) (path : String) (w : Wire) (c : Channel) (k : Kernel) : Prop where
  feeds : k.Feeds c.fd path f.terms w
  wellFormed : c.WellFormed
  polls : ∃ scope, c.waiter = .polling scope
  number : c.fd ≠ Waiter.noDescriptor
  capacity : c.output.capacity = f.capacity
  incoming : c.input.live ++ w.unread = f.incoming
  pending : c.output.pending = f.pending
  written : w.written = f.written
  ended : c.ended = f.ended
  unreadable : f.terms.allows .readable = false → c.input.live = []

namespace Holds

variable {f : Flow} {path : String} {w w' : Wire} {c c' : Channel} {k k' : Kernel} {es : Dialogue}
  {s s' : System Kernel}

/-! ### One side of the channel changes -/

/-- **Reading** changes what is to come, and whether the end was seen. -/
theorem reread (h : f.Holds path w c k) (same : c.Reread c')
    (feeds : k'.Feeds c.fd path f.terms w') (written : w'.written = w.written)
    (unreadable : f.terms.allows .readable = false → c'.input.live = []) :
    Holds { f with incoming := c'.input.live ++ w'.unread, ended := c'.ended } path w' c' k' where
  feeds := same.fd.symm ▸ feeds
  wellFormed := ⟨same.wellFormed, same.output ▸ h.wellFormed.output⟩
  polls := same.waiter.symm ▸ h.polls
  number := same.fd.symm ▸ h.number
  capacity := by rw [same.output, h.capacity]
  incoming := rfl
  pending := by rw [same.output, h.pending]
  written := written.trans h.written
  ended := rfl
  unreadable := unreadable

/-- **Writing** changes what is pending and what arrived. -/
theorem rewritten (h : f.Holds path w c k) (same : c.Rewritten c')
    (feeds : k'.Feeds c.fd path f.terms w') (unread : w'.unread = w.unread) :
    Holds { f with pending := c'.output.pending, written := w'.written } path w' c' k' where
  feeds := same.fd.symm ▸ feeds
  wellFormed := same.toWellFormed h.wellFormed
  polls := same.waiter.symm ▸ h.polls
  number := same.fd.symm ▸ h.number
  capacity := same.capacity.trans h.capacity
  incoming := by rw [same.input, unread, h.incoming]
  pending := rfl
  written := rfl
  ended := by rw [same.same, h.ended]
  unreadable := fun not => same.input.symm ▸ h.unreadable not

/-! ### What transfers come to -/

/-- **What a read comes to.** -/
theorem after_read (h : f.Holds path w c k) {len : Nat} {r : Reading}
    (received : c.Received len len es r c') (ends : c.EndsReading len .never s es r s')
    (converses : w.Converses f.terms c.fd es w') (feeds : k'.Feeds c.fd path f.terms w')
    (moderate : es.Moderate) : (f.read len).1 = r ∧ (f.read len).2.Holds path w' c' k' := by
  have carried := converses.carried
  obtain ⟨scope, polls⟩ := h.polls
  have refused (e : ChannelError) (failed : r.error? = some e) :=
    converses.refusal (ends.cut e failed) polls
  -- Whatever the read brings, what is to come afterwards follows it.
  have total : f.incoming = r.bytes ++ (c'.input.live ++ w'.unread) := by
    rw [← h.incoming, carried.unread, ← List.append_assoc, received.conserved, List.append_assoc]
  have unreadable (not : f.terms.allows .readable = false) : r.bytes = [] ∧ c'.input.live = [] := by
    have empty := received.conserved
    rw [h.unreadable not, (carried.unreadable not).1] at empty
    exact List.append_eq_nil_iff.1 empty.symm
  have kept := h.reread received.reread feeds
    (carried.written_eq (received.reads.accepted c.fd)) fun not => (unreadable not).2
  rw [received.ended, h.ended] at kept
  obtain ⟨bytes, error?⟩ := r
  dsimp only at total unreadable
  unfold read
  split
  · next closed =>
    -- Nothing was read ahead and nothing comes, so the read is refused.
    obtain ⟨rfl, _⟩ := unreadable closed.2
    have unseen := (carried.unreadable closed.2).2
    rw [List.nil_append] at total
    rw [← total, unseen, Bool.or_false] at kept
    refine ⟨?_, kept⟩
    rcases error? with _ | e
    · have short := received.short rfl closed.1
      rw [short.2.sawEnd] at unseen
      cases unseen
    · rw [(refused e rfl).1, received.counted e rfl]
      rfl
  · next opened =>
    -- A read that may go on does not fail.
    obtain rfl : error? = none := by
      cases error? with
      | none => rfl
      | some e =>
        have under := (received.failed e rfl).1
        exact absurd ⟨Nat.zero_lt_of_lt under, (refused e rfl).2⟩ opened
    have count := congrArg List.length total
    rw [List.length_append] at count
    by_cases enough : len ≤ bytes.length
    · obtain rfl : bytes.length = len := Nat.le_antisymm (received.le moderate) enough
      rw [(ends.complete enough).2] at kept
      rw [decide_eq_false (by omega), total, List.take_left, List.drop_left]
      exact ⟨rfl, kept⟩
    · obtain ⟨live, ending⟩ := received.short rfl (Nat.lt_of_not_le enough)
      have all : c'.input.live ++ w'.unread = [] := by
        rw [live, carried.ended ending.sawEnd]
        rfl
      rw [all, List.append_nil] at total
      rw [all, ending.sawEnd] at kept
      subst total
      rw [decide_eq_true (by omega), List.take_of_length_le (by omega),
        List.drop_of_length_le (by omega)]
      exact ⟨rfl, kept⟩

/-- **What a flush comes to.** -/
theorem after_flush (h : f.Holds path w c k) {r : Except ChannelError Unit}
    (flushed : c.Flushed es r c')
    (cut : ∀ e, r = .error e → c.CutShort .writable .never s es e s')
    (converses : w.Converses f.terms c.fd es w') (feeds : k'.Feeds c.fd path f.terms w') :
    f.flush.1 = r ∧ f.flush.2.Holds path w' c' k' := by
  have carried := converses.carried
  obtain ⟨scope, polls⟩ := h.polls
  have kept := h.rewritten flushed.rewritten feeds
    (carried.unread_eq (flushed.writes.delivered c.fd))
  have total := flushed.conserved
  rw [h.pending] at total
  rw [carried.written, h.written] at kept
  unfold flush
  split
  · next none =>
    obtain rfl := flushed.idle (h.pending.trans none)
    rw [Dialogue.accepted_nil, List.nil_append] at total
    rw [total, Dialogue.accepted_nil, Terms.arriving_nil, List.append_nil] at kept
    refine ⟨?_, kept⟩
    rcases r with e | _
    · exact absurd (total.trans none) (flushed.failed e rfl).1
    · rfl
  · next some =>
    split
    · next closed =>
      rw [carried.unwritable closed, List.nil_append] at total
      rw [total, carried.unwritable closed, Terms.arriving_nil, List.append_nil] at kept
      refine ⟨?_, kept⟩
      rcases r with e | _
      · rw [(converses.refusal (cut e rfl) polls).1, (flushed.failed e rfl).2,
          carried.unwritable closed]
        rfl
      · exact absurd (total.symm.trans (flushed.done rfl).1) some
    · next opened =>
      rcases r with e | _
      · exact absurd (converses.refusal (cut e rfl) polls).2 opened
      · rw [(flushed.done rfl).1, List.append_nil] at total
        rw [(flushed.done rfl).1, total] at kept
        exact ⟨rfl, kept⟩

/-- **What a write comes to.** -/
theorem after_write (h : f.Holds path w c k) {data : Bytes} {r : Except ChannelError Nat}
    (written : c.Written data es r c') (ends : c.EndsWriting data c' r)
    (cutWrite : ∀ e, r = .error e → c.CutWrite data e c')
    (cut : ∀ e, r = .error e → c.CutShort .writable .never s es e s')
    (converses : w.Converses f.terms c.fd es w') (feeds : k'.Feeds c.fd path f.terms w')
    (moderate : es.Moderate) : (f.write data).1 = r ∧ (f.write data).2.Holds path w' c' k' := by
  have carried := converses.carried
  obtain ⟨scope, polls⟩ := h.polls
  have kept := h.rewritten written.rewritten feeds
    (carried.unread_eq (written.writes.delivered c.fd))
  rw [carried.written, h.written] at kept
  rcases r with e | n
  · obtain ⟨is, closed⟩ := converses.refusal (cut e rfl) polls
    obtain ⟨zero, same⟩ := (cutWrite e rfl).unchanged written (carried.unwritable closed)
    have full : c.output.capacity < c.output.pending.length + data.length := ends
    rw [h.capacity, h.pending] at full
    rw [same, h.pending, carried.unwritable closed, Terms.arriving_nil, List.append_nil] at kept
    rw [write, if_neg (Nat.not_le.2 full), if_pos closed, is, zero]
    exact ⟨rfl, kept⟩
  · obtain rfl := written.counted moderate n rfl
    have total := written.conserved
    rw [Channel.takenBy, h.pending] at total
    have leaves : c.Leaves data c'.output.pending := ends
    generalize c'.output.pending = pending at leaves total kept
    cases leaves with
    | together room =>
      rw [h.capacity, h.pending] at room
      rw [h.pending] at total kept
      rw [List.append_left_eq_self.1 total, Terms.arriving_nil, List.append_nil] at kept
      rw [write, if_pos room]
      exact ⟨rfl, kept⟩
    | alone full fits =>
      rw [h.capacity, h.pending] at full
      rw [h.capacity] at fits
      have sent := List.append_cancel_right total
      rw [sent] at kept
      have opened : ¬ f.terms.allows .writable = false := by
        intro closed
        rw [← sent, carried.unwritable closed, List.length_nil] at full
        omega
      rw [write, if_neg (Nat.not_le.2 full), if_neg opened, if_pos fits]
      exact ⟨rfl, kept⟩
    | nothing large =>
      rw [h.capacity] at large
      rw [List.append_nil] at total
      rw [total] at kept
      have opened : ¬ f.terms.allows .writable = false := by
        intro closed
        have count := congrArg List.length total
        rw [carried.unwritable closed, List.length_nil, List.length_append] at count
        omega
      rw [write, if_neg (by omega), if_neg opened, if_neg (Nat.not_le.2 large)]
      exact ⟨rfl, kept⟩

/-! ### Every transfer returns -/

/-- **A transfer that halts** has spent its budget, and has made few exchanges. -/
theorem few (h : f.Holds path w c s.host) (reaches : s.Reaches es s')
    (transfers : es.Transfers c.fd) {halt : Halt} (mayHalt : c.MayHalt es halt s')
    (paced : es.Paced 0) (unseen : es.sawEnd = false) :
    s'.budget = 0 ∧
      es.length ≤ 2 * w.patience + (es.delivered c.fd).length + (es.accepted c.fd).length := by
  obtain ⟨scope, polls⟩ := h.polls
  obtain ⟨w', converses, _⟩ := h.feeds.converses reaches.host transfers
  exact ⟨converses.spent mayHalt polls h.number reaches.host.moderate,
    converses.carried.few paced unseen⟩

/-- …and so has one that writes. -/
theorem few_of_writing (h : f.Holds path w c s.host) (reaches : s.Reaches es s') {most : Nat}
    {halt : Halt} (halts : c.HaltsWriting most es halt s') (paced : es.Paced 0)
    (used : c.hold.Used s es s') : s'.budget = 0 ∧ es.length ≤ 2 * w.patience + most := by
  obtain ⟨mayHalt, writes, _, few⟩ := halts
  obtain ⟨spent, count⟩ := h.few reaches (writes.transfers used.uses) mayHalt paced writes.sawEnd
  have le := few reaches.host.moderate
  rw [writes.delivered, List.length_nil] at count
  exact ⟨spent, by omega⟩

theorem length_pending_le (h : f.Holds path w c k) : c.output.pending.length ≤ f.capacity := by
  have fits : c.output.len ≤ c.output.capacity := h.wellFormed.output
  rw [WriteBehind.length_pending h.wellFormed.output, ← h.capacity]
  exact fits

/-- **A transfer does what it does to the flow**, unless its budget is too small. -/
theorem run_ensures (h : f.Holds path w c s.host) (transfer : Transfer) :
    (transfer.operation.run c).Ensures s
      (fun _ r s' => r.1 = (f.after transfer).1 ∧
        ∃ w', w'.patience ≤ w.patience ∧ (f.after transfer).2.Holds path w' r.2 s'.host)
      (fun es _ s' => s'.budget = 0 ∧ es.length ≤ 2 * w.patience + f.capacity + transfer.size) := by
  have pending := h.length_pending_le
  have patience {es : Dialogue} {w' : Wire} (converses : w.Converses f.terms c.fd es w') :
      w'.patience ≤ w.patience := Nat.le_trans (Nat.le_add_left _ _) converses.carried.blocked
  rcases transfer with len | data | _
  all_goals refine Act.ensures_bind_quiet (runOn_resolve .never s) (.refl s) (ensures_answer ?_)
  · -- `read`
    refine (((Channel.read_ensures h.wellFormed len .never s).and
      (Channel.receive_endsReading h.wellFormed (Nat.le_refl len) (Nat.le_refl len) .never s)).and
      ((Channel.receive_paced h.wellFormed (Nat.le_refl len) (Nat.le_refl len) .never s).and
        (Channel.confined_receive rfl len len len .never s))).mono
      (fun es r s' reaches ⟨⟨received, ends⟩, _, used, _⟩ => ?_)
      fun es halt s' reaches ⟨⟨⟨mayHalt, reads, few⟩, _⟩, paced, used, _⟩ => ?_
    · obtain ⟨w', converses, feeds⟩ :=
        h.feeds.converses reaches.host (received.reads.transfers used.uses)
      obtain ⟨same, holds⟩ := h.after_read received ends converses feeds reaches.host.moderate
      exact ⟨congrArg Answer.reading same.symm, w', patience converses, holds⟩
    · obtain ⟨unseen, before⟩ := few reaches.host.moderate
      obtain ⟨spent, count⟩ := h.few reaches (reads.transfers used.uses) mayHalt paced unseen
      rw [reads.accepted, List.length_nil] at count
      exact ⟨spent, by show _ ≤ _ + len; omega⟩
  · -- `write`
    refine (((Channel.write_ensures h.wellFormed data .never s).and
      (Channel.write_endsWriting h.wellFormed data .never s)).and
      (((Channel.write_cutWrite h.wellFormed data .never s).and
        (Channel.write_cutShort h.wellFormed data .never s)).and
      ((Channel.write_paced h.wellFormed data .never s).and
        (Channel.confined_write rfl data .never s)))).mono
      (fun es r s' reaches ⟨⟨written, ends⟩, ⟨cutWrite, cut⟩, _, used, _⟩ => ?_)
      fun es halt s' reaches ⟨⟨halts, _⟩, _, paced, used, _⟩ => ?_
    · obtain ⟨w', converses, feeds⟩ :=
        h.feeds.converses reaches.host (written.writes.transfers used.uses)
      obtain ⟨same, holds⟩ :=
        h.after_write written ends cutWrite cut converses feeds reaches.host.moderate
      exact ⟨congrArg Answer.count same.symm, w', patience converses, holds⟩
    · obtain ⟨spent, count⟩ := h.few_of_writing reaches halts paced used
      exact ⟨spent, by show _ ≤ _ + data.length; omega⟩
  · -- `flush`
    refine (((Channel.flush_ensures h.wellFormed .never s).and
      (Channel.flush_cutShort h.wellFormed .never s)).and
      ((Channel.flush_paced h.wellFormed .never s).and
        (Channel.confined_flush rfl .never s))).mono
      (fun es r s' reaches ⟨⟨flushed, cut⟩, _, used, _⟩ => ?_)
      fun es halt s' reaches ⟨⟨halts, _⟩, paced, used, _⟩ => ?_
    · obtain ⟨w', converses, feeds⟩ :=
        h.feeds.converses reaches.host (flushed.writes.transfers used.uses)
      obtain ⟨same, holds⟩ := h.after_flush flushed cut converses feeds
      exact ⟨congrArg Answer.finished same.symm, w', patience converses, holds⟩
    · obtain ⟨spent, count⟩ := h.few_of_writing reaches halts paced used
      exact ⟨spent, by omega⟩

/-- **A run of transfers shows what the flow gives**, when its budgets are large enough. -/
theorem observe_eq (h : f.Holds path w c s.host) {budget : Nat} (transfers : List Transfer)
    (enough : ∀ transfer ∈ transfers, 2 * w.patience + f.capacity + transfer.size < budget) :
    BufferedChannels.observe budget path c s transfers = some (f.observe transfers) := by
  induction transfers generalizing f w c s with
  | nil => rfl
  | cons transfer rest ih =>
    obtain ⟨first, later⟩ := List.forall_mem_cons.1 enough
    have start : f.Holds path w c { s with budget }.host := h
    obtain ⟨es, ⟨answer, c'⟩, s', run, _, same, w', less, holds⟩ :=
      (start.run_ensures transfer).of_enough first
    obtain rfl : answer = (f.after transfer).1 := same
    have shown := ih holds fun transfer mem => by
      have := later transfer mem
      rw [f.capacity_after]
      omega
    rw [BufferedChannels.observe, run]
    dsimp only
    rw [shown, Option.map_some, holds.feeds.written?_eq, holds.written, holds.ended,
      Channel.pendingCount, ← WriteBehind.length_pending holds.wellFormed.output, holds.pending]
    rfl

end Holds

/-- **What there is at the beginning**: nothing was read ahead and nothing is pending. -/
def ofStream (terms : Terms) (c : Channel) (stream : Stream) : Flow where
  terms
  capacity := c.output.capacity
  incoming := stream.unread
  pending := []
  written := stream.written.toBytes
  ended := c.ended

theorem holds_ofStream {c : Channel} (blank : c.Blank) {scope : Scope}
    (polls : c.waiter = .polling scope) (number : c.fd ≠ Waiter.noDescriptor) {k : Kernel}
    {path : String} {terms : Terms} {stream : Stream} {patience : Nat}
    (feeds : k.Feeds c.fd path terms ⟨stream.unread, stream.written.toBytes, patience⟩) :
    (ofStream terms c stream).Holds path ⟨stream.unread, stream.written.toBytes, patience⟩ c k where
  feeds := feeds
  wellFormed := blank.toWellFormed
  polls := ⟨scope, polls⟩
  number := number
  capacity := rfl
  incoming := by rw [blank.live]; rfl
  pending := blank.pending
  written := rfl
  ended := rfl
  unreadable := fun _ => blank.live

end Flow

/-! ## Fragmentation is invisible -/

/-- **Fragmentation is invisible.**  A channel that polls was begun, and its descriptor stands on a
stream that hung up, is not broken and has room for everything; the number that stands for no
descriptor is lent to nobody.  Then every run of reads, writes and flushes returns and shows what
the flow gives, **whatever gentle script** cuts its calls short, interrupts them and has them wait;
so any two runs show the same.  The budget grows with the script, because so does the number of
calls. -/
theorem fragmentation_invisible {opening : Opening} {s₀ t₀ : System Kernel} {c : Channel}
    (begun : opening.run.runOn s₀ = (.ok (.ok c), t₀)) {scope : Scope}
    (polls : c.waiter = .polling scope) (path : String) (access : Access) {stream : Stream}
    (settled : stream.Settled) (transfers : List Transfer) :
    ∀ (s : System Kernel) (script : List (CallKind × Adjustment)), s.host.LendsNone →
      s.host.Streams c.fd path access stream script → Gentle script → ∀ budget,
        2 * script.length + c.output.capacity + (transfers.map Transfer.size).sum < budget →
          observe budget path c s transfers =
            some ((Flow.ofStream (termsOf c.fd access) c stream).observe transfers) := by
  intro s script none streams gentle budget enough
  obtain ⟨_, _, blank⟩ := (opening.run_ensures s₀).of_ok begun
  obtain ⟨file, opened, _⟩ := streams.opened
  have holds := Flow.holds_ofStream (blank c rfl) polls (none.numbered opened)
    (streams.feeds settled gentle)
  refine holds.observe_eq transfers fun transfer mem => ?_
  have size : transfer.size ≤ (transfers.map Transfer.size).sum :=
    List.le_sum_of_mem (List.mem_map_of_mem mem)
  show 2 * script.length + c.output.capacity + transfer.size < budget
  omega

/-! A pipe with three bytes, and a script that cuts up reads and writes. -/

/-- The pipe under a descriptor, with a script. -/
def hungUpPipe (script : List (CallKind × Adjustment)) : System Kernel where
  host :=
    { nodes := [("p", { body := .stream { unread := [1, 2, 3], hungUp := true }, script })]
      descriptors := [(3, { node := "p", flags := { access := .readWrite } })] }
  budget := 10
  bufferLength := 4

/-- The channel that adopts the descriptor. -/
def hungUpChannel : Channel :=
  { fd := 3, kind := .unasked, input := ⟨[0, 0, 0, 0], 0, 0⟩, output := ⟨[0, 0, 0, 0], 0⟩,
    verbose := false, waiter := .polling .shared }

theorem streams_hungUpPipe (script : List (CallKind × Adjustment)) :
    (hungUpPipe script).host.Streams 3 "p" .readWrite { unread := [1, 2, 3], hungUp := true }
      script where
  opened := ⟨_, rfl, rfl, rfl⟩
  stored := rfl
  alone := List.forall_mem_nil _

theorem settled_hungUpPipe : Stream.Settled { unread := [1, 2, 3], hungUp := true } :=
  ⟨rfl, rfl, rfl⟩

theorem gentle_nil : Gentle [] := List.forall_mem_nil _

/-- A read that has to wait and gets one byte, and a flush that is interrupted and takes two calls.
-/
def cuttingUp : List (CallKind × Adjustment) :=
  [(.read, { errno? := some .wouldBlock }), (.poll, { errno? := some .interrupted }),
    (.read, { max? := some 1 }), (.write, { errno? := some .interrupted }),
    (.write, { max? := some 2 })]

theorem gentle_cuttingUp : Gentle cuttingUp := by
  intro item mem _
  simp only [cuttingUp, List.mem_cons, List.not_mem_nil, or_false] at mem
  rcases mem with rfl | rfl | rfl | rfl | rfl
  all_goals exact ⟨by simp, by simp⟩

/-- Two bytes are read, three are written and sent, and the second read finds the end. -/
def hungUpTransfers : List Transfer := [.read 2, .write [7, 8, 9], .flush, .read 2]

/-- What they show. -/
def hungUpObservations : List Observation :=
  [⟨.reading ⟨[1, 2], none⟩, false, 0, some []⟩, ⟨.count (.ok 3), false, 3, some []⟩,
    ⟨.finished (.ok ()), false, 0, some [7, 8, 9]⟩,
    ⟨.reading ⟨[3], none⟩, true, 0, some [7, 8, 9]⟩]

theorem fragmentation_invisible_pipe :
    observe 40 "p" hungUpChannel (hungUpPipe []) hungUpTransfers = some hungUpObservations ∧
      observe 40 "p" hungUpChannel (hungUpPipe cuttingUp) hungUpTransfers =
        some hungUpObservations := by
  have begun : (Opening.adopt 3).run.runOn (hungUpPipe []) =
      (.ok (.ok hungUpChannel), ((Opening.adopt 3).run.runOn (hungUpPipe [])).2) := rfl
  have shown := fragmentation_invisible begun rfl "p" .readWrite settled_hungUpPipe hungUpTransfers
  exact ⟨shown (hungUpPipe []) _ rfl (streams_hungUpPipe []) gentle_nil 40 (by decide),
    shown (hungUpPipe cuttingUp) _ rfl (streams_hungUpPipe cuttingUp) gentle_cuttingUp 40
      (by decide)⟩

end BufferedChannels
