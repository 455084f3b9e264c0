import BufferedChannels.Proofs.Confinement
import BufferedChannels.Proofs.Pace

/-!
# Proofs/Wire — what a stream answers whose other end has hung up

A `Wire` is such a stream as one descriptor sees it: the bytes that wait to be read, the bytes that
arrived, and the **patience** that is left, which bounds how often a call may still be interrupted
or blocked.  `Replies` says how it answers one exchange and `Converses` a dialogue.  Whatever the
replies are, **what was unread is what was delivered and what is unread**, and a transfer that is
`Paced` makes no more calls than the bytes that it moves and twice the patience.
-/

namespace BufferedChannels

/-! ## What a channel asks of a stream -/

/-- **A read or a write of at least one byte, or a wait** for a descriptor. -/
inductive Exchange.Transfers (fd : Int) : Exchange → Prop
  | read {len : Nat} (reply : Except Errno Bytes) : 0 < len →
      Transfers fd (Descriptor.reading fd len reply)
  | write {data : Bytes} (reply : Except Errno Nat) : data ≠ [] →
      Transfers fd (Descriptor.writing fd data reply)
  | poll (direction : Direction) (timeout : Option Nat) (reply : Polled) :
      Transfers fd ⟨.poll fd direction timeout, reply⟩
  | wait (direction : Direction) (left : Option Nat) (reply : WaitOutcome) :
      Transfers fd ⟨.wait fd direction left, reply⟩

namespace Dialogue

/-- **Nothing but reads, writes and waits** of a descriptor. -/
def Transfers (fd : Int) (es : Dialogue) : Prop := ∀ e ∈ es, e.Transfers fd

variable {c : Channel} {es : Dialogue}

/-- A suspension that uses a descriptor waits for it. -/
theorem transfers_of_isSuspension {fd : Int} {e : Exchange} (waits : e.isSuspension = true)
    (uses : e.Uses fd) : e.Transfers fd := by
  obtain ⟨request, reply⟩ := e
  cases request with
  | poll target direction timeout =>
    obtain rfl : target = fd := uses
    exact .poll direction timeout reply
  | wait target direction left =>
    obtain rfl : target = fd := uses
    exact .wait direction left reply
  | _ => cases waits

theorem Reads.transfers (h : es.Reads c) (uses : ∀ e ∈ es, e.Uses c.fd) : es.Transfers c.fd := by
  intro e he
  obtain ⟨_, waits⟩ | ⟨len, reply, pos, rfl⟩ := h e he
  · exact transfers_of_isSuspension waits (uses e he)
  · exact .read reply pos

theorem Writes.transfers (h : es.Writes c) (uses : ∀ e ∈ es, e.Uses c.fd) :
    es.Transfers c.fd := by
  intro e he
  obtain ⟨_, waits⟩ | ⟨data, reply, some, rfl⟩ := h e he
  · exact transfers_of_isSuspension waits (uses e he)
  · exact .write reply some

/-- Writes see no end of a stream. -/
theorem Writes.sawEnd (h : es.Writes c) : es.sawEnd = false := by
  refine List.any_eq_false.2 fun e he => ?_
  obtain ⟨_, waits⟩ | ⟨data, reply, _, rfl⟩ := h e he
  · rw [Exchange.isEnd_of_isStill (Exchange.isStill_of_isSuspension waits)]
    exact Bool.false_ne_true
  · exact Bool.false_ne_true

end Dialogue

/-! ## What the stream answers -/

/-- **What a descriptor lets a channel do** with a stream. -/
structure Terms where
  /-- Whether it may be read, and whether it may be written to. -/
  allows : Direction → Bool
  /-- Whether what is written arrives at the stream. -/
  arrives : Bool

/-- What arrives of bytes that were written. -/
def Terms.arriving (terms : Terms) (bytes : Bytes) : Bytes := if terms.arrives then bytes else []

@[simp] theorem Terms.arriving_nil (terms : Terms) : terms.arriving [] = [] := by
  unfold arriving
  split <;> rfl

theorem Terms.arriving_append (terms : Terms) (bytes more : Bytes) :
    terms.arriving (bytes ++ more) = terms.arriving bytes ++ terms.arriving more := by
  unfold arriving
  split <;> rfl

/-- **An error that asks for another try**, now or after a wait. -/
def Errno.AsksAgain (e : Errno) : Prop := e.recognized = .interrupted ∨ e.recognized = .wouldBlock

/-- **A stream as a descriptor sees it.** -/
structure Wire where
  unread : Bytes
  written : Bytes
  patience : Nat

namespace Wire

/-- **How a stream answers** whose other end has hung up.  Reads bring a first part of what is
unread, at least one byte unless there is none; writes take a first part; a wait is over at once.
Whatever else a call is answered takes patience, unless the descriptor refuses it. -/
inductive Replies (terms : Terms) (fd : Int) (w : Wire) : Exchange → Wire → Prop
  | read {len count patience : Nat} : terms.allows .readable = true → 0 < count →
      patience ≤ w.patience →
      Replies terms fd w (Descriptor.reading fd len (.ok (w.unread.take count)))
        ⟨w.unread.drop count, w.written, patience⟩
  | wrote {data : Bytes} {n patience : Nat} : terms.allows .writable = true → 0 < n →
      n ≤ data.length → patience ≤ w.patience →
      Replies terms fd w (Descriptor.writing fd data (.ok n))
        ⟨w.unread, w.written ++ terms.arriving (data.take n), patience⟩
  | refused {e : Exchange} {direction : Direction} {patience : Nat} :
      e.FailsWith fd .badDescriptor direction → terms.allows direction = false →
      patience ≤ w.patience → Replies terms fd w e ⟨w.unread, w.written, patience⟩
  | late {e : Exchange} {direction : Direction} {x : Errno} {patience : Nat} :
      e.FailsWith fd x direction → x.AsksAgain → patience < w.patience →
      Replies terms fd w e ⟨w.unread, w.written, patience⟩
  | ready {direction : Direction} {timeout : Option Nat} {patience : Nat} : patience ≤ w.patience →
      Replies terms fd w ⟨.poll fd direction timeout, Polled.ready⟩
        ⟨w.unread, w.written, patience⟩
  | troubled {direction : Direction} {timeout : Option Nat} {x : Errno} {patience : Nat} :
      patience < w.patience → Replies terms fd w ⟨.poll fd direction timeout, Polled.failed x⟩
        ⟨w.unread, w.written, patience⟩
  | waited {direction : Direction} {left : Option Nat} (outcome : WaitOutcome) :
      Replies terms fd w ⟨.wait fd direction left, outcome⟩ w

/-- **A dialogue with a stream.** -/
inductive Converses (terms : Terms) (fd : Int) : Wire → Dialogue → Wire → Prop
  | nil (w : Wire) : Converses terms fd w [] w
  | cons {w w' w'' : Wire} {e : Exchange} {es : Dialogue} : w.Replies terms fd e w' →
      Converses terms fd w' es w'' → Converses terms fd w (e :: es) w''

variable {terms : Terms} {fd : Int} {w w' w'' : Wire} {e : Exchange} {es es' : Dialogue}

/-- Every exchange of a dialogue is a reply to somebody. -/
theorem Converses.of_mem (h : w.Converses terms fd es w') (he : e ∈ es) :
    ∃ w₁ w₂ : Wire, w₁.Replies terms fd e w₂ := by
  induction h with
  | nil => exact absurd he List.not_mem_nil
  | cons reply _ ih =>
    rcases List.mem_cons.1 he with rfl | he
    · exact ⟨_, _, reply⟩
    · exact ih he

/-- **A call fails for good** only when the descriptor refuses its direction. -/
theorem Replies.refuses {direction : Direction} {x : Errno} (h : w.Replies terms fd e w')
    (fails : e.FailsWith fd x direction) (once : ¬ x.AsksAgain) :
    x = .badDescriptor ∧ terms.allows direction = false := by
  cases fails with
  | read len =>
    generalize whole : Descriptor.reading fd len (.error x) = e at h
    cases h with
    | refused same not =>
      subst whole
      cases same
      exact ⟨rfl, not⟩
    | late same again =>
      subst whole
      cases same
      exact absurd again once
    | _ => cases whole
  | write data =>
    generalize whole : Descriptor.writing fd data (.error x) = e at h
    cases h with
    | refused same not =>
      subst whole
      cases same
      exact ⟨rfl, not⟩
    | late same again =>
      subst whole
      cases same
      exact absurd again once
    | _ => cases whole

/-- **A poll always ends.** -/
theorem Replies.not_never {direction : Direction} {timeout : Option Nat} :
    ¬ w.Replies terms fd ⟨.poll fd direction timeout, Polled.never⟩ w' := by
  intro h
  generalize whole : (⟨.poll fd direction timeout, Polled.never⟩ : Exchange) = e at h
  cases h with
  | refused fails =>
    subst whole
    cases fails
  | late fails =>
    subst whole
    cases fails
  | _ => cases whole

/-! ## What a dialogue comes to -/

/-- **What was carried by a dialogue**, and what patience it took. -/
structure Carried (terms : Terms) (fd : Int) (w : Wire) (es : Dialogue) (w' : Wire) : Prop where
  unread : w.unread = es.delivered fd ++ w'.unread
  written : w'.written = w.written ++ terms.arriving (es.accepted fd)
  ended : es.sawEnd = true → w'.unread = []
  unreadable : terms.allows .readable = false → es.delivered fd = [] ∧ es.sawEnd = false
  unwritable : terms.allows .writable = false → es.accepted fd = []
  blocked : es.countP Exchange.isBlocked + w'.patience ≤ w.patience
  length_le : es.sawEnd = false → (∀ e ∈ es, e.isRefused = false) →
    es.length + w'.patience ≤ w.patience + (es.delivered fd).length + (es.accepted fd).length +
      es.countP Exchange.isWake

theorem Carried.nil (terms : Terms) (fd : Int) (w : Wire) : Carried terms fd w [] w where
  unread := rfl
  written := by
    rw [Dialogue.accepted_nil, Terms.arriving_nil, List.append_nil]
  ended := nofun
  unreadable := fun _ => ⟨rfl, rfl⟩
  unwritable := fun _ => rfl
  blocked := Nat.le_of_eq (Nat.zero_add _)
  length_le := fun _ _ => Nat.le_of_eq (Nat.zero_add _)

theorem Carried.append (h : Carried terms fd w es w') (h' : Carried terms fd w' es' w'') :
    Carried terms fd w (es ++ es') w'' where
  unread := by rw [h.unread, h'.unread, Dialogue.delivered_append, List.append_assoc]
  written := by
    rw [h'.written, h.written, Dialogue.accepted_append, terms.arriving_append, List.append_assoc]
  ended := by
    intro saw
    rw [Dialogue.sawEnd_append, Bool.or_eq_true] at saw
    obtain first | second := saw
    · exact (List.append_eq_nil_iff.1 (h'.unread.symm.trans (h.ended first))).2
    · exact h'.ended second
  unreadable := by
    intro not
    rw [Dialogue.delivered_append, Dialogue.sawEnd_append, (h.unreadable not).1,
      (h.unreadable not).2, (h'.unreadable not).1, (h'.unreadable not).2]
    exact ⟨rfl, rfl⟩
  unwritable := by
    intro not
    rw [Dialogue.accepted_append, h.unwritable not, h'.unwritable not]
    rfl
  blocked := by
    have first := h.blocked
    have second := h'.blocked
    rw [List.countP_append]
    omega
  length_le := by
    intro unseen fine
    rw [Dialogue.sawEnd_append, Bool.or_eq_false_iff] at unseen
    have first := h.length_le unseen.1 fun e he => fine e (List.mem_append_left _ he)
    have second := h'.length_le unseen.2 fun e he => fine e (List.mem_append_right _ he)
    rw [List.length_append, Dialogue.delivered_append, Dialogue.accepted_append,
      List.length_append, List.length_append, List.countP_append]
    omega

/-- **An exchange that moves nothing** takes patience when it was blocked, and also when it was
neither refused nor the end of a wait. -/
theorem carried_of_idle {patience : Nat} (delivered : e.deliveredOn fd = [])
    (accepted : e.acceptedOn fd = []) (unseen : e.isEnd = false)
    (blocked : (if e.isBlocked then 1 else 0) + patience ≤ w.patience)
    (few : e.isRefused = false → 1 + patience ≤ w.patience + if e.isWake then 1 else 0) :
    Carried terms fd w [e] ⟨w.unread, w.written, patience⟩ := by
  have nothing : Dialogue.delivered fd [e] = [] := by simp [delivered]
  have none : Dialogue.accepted fd [e] = [] := by simp [accepted]
  have unending : Dialogue.sawEnd [e] = false := by simp [Dialogue.sawEnd, unseen]
  refine ⟨?_, ?_, fun saw => ?_, fun _ => ⟨nothing, unending⟩, fun _ => none, ?_, fun _ fine => ?_⟩
  · rw [nothing]
    rfl
  · rw [none]
    exact (Carried.nil terms fd w).written
  · rw [unending] at saw
    cases saw
  · rw [List.countP_singleton]
    exact blocked
  · rw [nothing, none, List.countP_singleton]
    exact few (fine e (List.mem_singleton.2 rfl))

/-- A failed transfer moves nothing. -/
theorem idle_of_failsWith {direction : Direction} {x : Errno} (h : e.FailsWith fd x direction) :
    e.deliveredOn fd = [] ∧ e.acceptedOn fd = [] ∧ e.isEnd = false ∧ e.failure? = some x ∧
      e.isWake = false := by
  cases h with
  | read => exact ⟨rfl, rfl, rfl, rfl, rfl⟩
  | write => exact ⟨rfl, rfl, rfl, rfl, rfl⟩

/-- **What one exchange carries.** -/
theorem Replies.carried (h : w.Replies terms fd e w') : Carried terms fd w [e] w' := by
  cases h with
  | @read len count patience allowed some le =>
    have brought : Dialogue.delivered fd [Descriptor.reading fd len (.ok (w.unread.take count))] =
        w.unread.take count := (List.append_nil _).trans (Exchange.deliveredOn_read_ok fd len _)
    have ends : Dialogue.sawEnd [Descriptor.reading fd len (.ok (w.unread.take count))] =
        (w.unread.take count).isEmpty := by
      cases w.unread.take count <;> rfl
    refine ⟨?_, (Carried.nil terms fd w).written, fun saw => ?_, fun not => ?_, fun _ => rfl,
      ?_, fun unseen _ => ?_⟩
    · rw [brought]
      exact (List.take_append_drop count w.unread).symm
    · rw [ends, List.isEmpty_iff, List.take_eq_nil_iff] at saw
      obtain zero | empty := saw
      · omega
      · exact empty.symm ▸ List.drop_nil
    · rw [allowed] at not
      cases not
    · exact (Nat.zero_add _).symm ▸ le
    · rw [ends] at unseen
      have := List.length_pos_iff.2 (mt List.isEmpty_iff.2 (Bool.eq_false_iff.1 unseen))
      rw [brought, List.length_singleton]
      show 1 + patience ≤ _
      omega
  | @wrote data n patience allowed some fits le =>
    have took : Dialogue.accepted fd [Descriptor.writing fd data (.ok n)] = data.take n :=
      (List.append_nil _).trans (Exchange.acceptedOn_write_ok fd data n)
    refine ⟨rfl, by rw [took], nofun, fun _ => ⟨rfl, rfl⟩, fun not => ?_, ?_, fun _ _ => ?_⟩
    · rw [allowed] at not
      cases not
    · exact (Nat.zero_add _).symm ▸ le
    · rw [took, List.length_take_of_le fits, List.length_singleton]
      show 1 + patience ≤ _
      omega
  | refused fails not le =>
    obtain ⟨delivered, accepted, unseen, failure, _⟩ := idle_of_failsWith fails
    refine carried_of_idle delivered accepted unseen ?_ fun fine => ?_
    · rw [Exchange.isBlocked, failure]
      exact (Nat.zero_add _).symm ▸ le
    · rw [Exchange.isRefused, failure] at fine
      cases fine
  | late fails again less =>
    obtain ⟨delivered, accepted, unseen, _, _⟩ := idle_of_failsWith fails
    refine carried_of_idle delivered accepted unseen ?_ fun _ => ?_
    · split <;> omega
    · omega
  | ready le =>
    refine carried_of_idle rfl rfl rfl ((Nat.zero_add _).symm ▸ le) fun _ => ?_
    rw [if_pos (by rfl)]
    omega
  | troubled less =>
    refine carried_of_idle rfl rfl rfl ((Nat.zero_add _).symm ▸ Nat.le_of_lt less) fun _ => ?_
    omega
  | waited outcome =>
    refine carried_of_idle rfl rfl rfl (Nat.le_of_eq (Nat.zero_add _)) fun _ => ?_
    rw [if_pos (by rfl)]
    omega

/-- **What a dialogue carries.** -/
theorem Converses.carried (h : w.Converses terms fd es w') : Carried terms fd w es w' := by
  induction h with
  | nil w => exact .nil terms fd w
  | cons reply _ ih => exact reply.carried.append ih

/-- Where nothing is delivered, as much is unread. -/
theorem Carried.unread_eq (h : Carried terms fd w es w') (none : es.delivered fd = []) :
    w'.unread = w.unread := by
  rw [h.unread, none, List.nil_append]

/-- Where nothing is accepted, nothing arrives. -/
theorem Carried.written_eq (h : Carried terms fd w es w') (none : es.accepted fd = []) :
    w'.written = w.written := by
  rw [h.written, none, Terms.arriving_nil, List.append_nil]

/-- **A transfer that goes on has made few calls.** -/
theorem Carried.few (h : Carried terms fd w es w') (paced : es.Paced 0)
    (unseen : es.sawEnd = false) :
    es.length ≤ 2 * w.patience + (es.delivered fd).length + (es.accepted fd).length := by
  have length := h.length_le unseen paced.unrefused
  have blocked := h.blocked
  have woken := paced.woken
  omega

end Wire

end BufferedChannels
