import BufferedChannels.Proofs.PlainFile

/-!
# Proofs/Medium — what a regular file answers

A `Medium` is a regular file as one descriptor sees it: its bytes, where the descriptor stands, and
the **patience** that is left, which bounds how often the file may still fall short.  `Replies` says
how it answers one exchange and `Converses` a dialogue.  A dialogue of reads delivers a slice, one
of writes stores what was accepted, and neither is longer than the bytes it moves and the patience
it takes.
-/

namespace BufferedChannels

/-! ## What a channel asks of a file -/

/-- **A read, a write or a move** of a descriptor. -/
inductive Exchange.Asks (fd : Int) : Exchange → Prop
  | read (len : Nat) (reply : Except Errno Bytes) : Asks fd (Descriptor.reading fd len reply)
  | write (data : Bytes) (reply : Except Errno Nat) : Asks fd (Descriptor.writing fd data reply)
  | seek {e : Exchange} : e.Seeks fd → Asks fd e

namespace Dialogue

/-- **Nothing but reads, writes and moves** of a descriptor. -/
def Asks (fd : Int) (es : Dialogue) : Prop := ∀ e ∈ es, e.Asks fd

variable {c : Channel} {fd : Int} {es es' : Dialogue}

/-- **On what is always ready** nothing but reads is made. -/
theorem Reads.reading (h : es.Reads c) (ready : c.kind.alwaysReady = true) :
    ∀ e ∈ es, ∃ len reply, 0 < len ∧ e = Descriptor.reading c.fd len reply := by
  intro e he
  obtain ⟨waits, _⟩ | reads := h e he
  · simp [ready] at waits
  · exact reads

/-- …and nothing but writes. -/
theorem Writes.writing (h : es.Writes c) (ready : c.kind.alwaysReady = true) :
    ∀ e ∈ es, ∃ data reply, data ≠ [] ∧ e = Descriptor.writing c.fd data reply := by
  intro e he
  obtain ⟨waits, _⟩ | writes := h e he
  · simp [ready] at waits
  · exact writes

theorem Reads.asks (h : es.Reads c) (ready : c.kind.alwaysReady = true) : es.Asks c.fd := by
  intro e he
  obtain ⟨len, reply, _, rfl⟩ := h.reading ready e he
  exact .read len reply

theorem Writes.asks (h : es.Writes c) (ready : c.kind.alwaysReady = true) : es.Asks c.fd := by
  intro e he
  obtain ⟨data, reply, _, rfl⟩ := h.writing ready e he
  exact .write data reply

theorem Seeks.asks (h : es.Seeks fd) : es.Asks fd := fun e he => .seek (h e he)

end Dialogue

/-! ## What the file answers -/

/-- **A regular file as a descriptor sees it.** -/
structure Medium where
  contents : Bytes
  offset : Nat
  patience : Nat

namespace Medium

/-- **How a regular file answers.**  Reads bring what stands at the offset, at least one byte unless
there is none; writes store a prefix there; what falls short of that takes patience, but for a write
that fails for good. -/
inductive Replies (fd : Int) (m : Medium) : Exchange → Medium → Prop
  | read {len count patience : Nat} : patience ≤ m.patience → (0 < len → 0 < count) →
      Replies fd m (Descriptor.reading fd len (.ok (m.contents.slice m.offset count)))
        ⟨m.contents, m.offset + (m.contents.slice m.offset count).length, patience⟩
  | readFailed {len patience : Nat} {e : Errno} : patience < m.patience →
      Replies fd m (Descriptor.reading fd len (.error e)) ⟨m.contents, m.offset, patience⟩
  | wrote {data : Bytes} {n patience : Nat} : n ≤ data.length → patience ≤ m.patience →
      (data ≠ [] → n = 0 → patience < m.patience) →
      Replies fd m (Descriptor.writing fd data (.ok n))
        ⟨m.contents.storeAt m.offset (data.take n), m.offset + n, patience⟩
  | writeFailed {data : Bytes} {e : Errno} {patience : Nat} : patience ≤ m.patience →
      ((Descriptor.writing fd data (.error e)).isFailedWrite = false → patience < m.patience) →
      Replies fd m (Descriptor.writing fd data (.error e)) ⟨m.contents, m.offset, patience⟩
  | here : m.offset ≤ Descriptor.maxOffset →
      Replies fd m (Descriptor.seeking fd 0 .current (.ok m.offset)) m
  | finish : Replies fd m (Descriptor.seeking fd 0 .finish (.ok m.contents.length))
      { m with offset := m.contents.length }
  | start {position : Nat} : position ≤ Descriptor.maxOffset →
      Replies fd m (Descriptor.seeking fd position .start (.ok position))
        { m with offset := position }

/-- **A dialogue with a regular file.** -/
inductive Converses (fd : Int) : Medium → Dialogue → Medium → Prop
  | nil (m : Medium) : Converses fd m [] m
  | cons {m m' m'' : Medium} {e : Exchange} {es : Dialogue} :
      m.Replies fd e m' → Converses fd m' es m'' → Converses fd m (e :: es) m''

variable {fd : Int} {m m' m'' : Medium} {es es' : Dialogue}

/-! ## Reads -/

/-- **What a dialogue of reads comes to.** -/
structure HasRead (fd : Int) (m : Medium) (es : Dialogue) (m' : Medium) : Prop where
  contents : m'.contents = m.contents
  delivered : es.delivered fd = m.contents.slice m.offset (es.delivered fd).length
  offset : m'.offset = m.offset + (es.delivered fd).length
  sawEnd : es.sawEnd = true → m.contents.length ≤ m'.offset
  length_le : es.sawEnd = false → es.length + m'.patience ≤ m.patience + (es.delivered fd).length

theorem HasRead.nil (fd : Int) (m : Medium) : HasRead fd m [] m :=
  ⟨rfl, rfl, rfl, nofun, fun _ => Nat.le_of_eq (Nat.add_comm _ _)⟩

theorem HasRead.append (h : HasRead fd m es m') (h' : HasRead fd m' es' m'') :
    HasRead fd m (es ++ es') m'' where
  contents := h'.contents.trans h.contents
  delivered := by
    rw [Dialogue.delivered_append, List.length_append, ← Bytes.slice_append_slice, ← h.delivered,
      ← h.contents, ← h.offset, ← h'.delivered]
  offset := by
    rw [h'.offset, h.offset, Dialogue.delivered_append, List.length_append, Nat.add_assoc]
  sawEnd := by
    intro saw
    rw [Dialogue.sawEnd_append, Bool.or_eq_true] at saw
    obtain first | second := saw
    · rw [h'.offset]
      exact Nat.le_add_right_of_le (h.sawEnd first)
    · rw [← h.contents]
      exact h'.sawEnd second
  length_le := by
    intro unseen
    rw [Dialogue.sawEnd_append, Bool.or_eq_false_iff] at unseen
    have first := h.length_le unseen.1
    have second := h'.length_le unseen.2
    rw [List.length_append, Dialogue.delivered_append, List.length_append]
    omega

/-- One read of a regular file. -/
theorem Replies.hasRead {len : Nat} {answer : Except Errno Bytes} (pos : 0 < len)
    (h : Replies fd m (Descriptor.reading fd len answer) m') :
    HasRead fd m [Descriptor.reading fd len answer] m' := by
  cases h with
  | @read _ count patience le some =>
    have brought : Dialogue.delivered fd [Descriptor.reading fd len
        (.ok (m.contents.slice m.offset count))] = m.contents.slice m.offset count :=
      (List.append_nil _).trans (Exchange.deliveredOn_read_ok fd len _)
    have ends : Dialogue.sawEnd [Descriptor.reading fd len
        (.ok (m.contents.slice m.offset count))] = (m.contents.slice m.offset count).isEmpty := by
      cases m.contents.slice m.offset count <;> rfl
    refine ⟨rfl, ?_, ?_, fun saw => ?_, fun unseen => ?_⟩
    · rw [brought, Bytes.slice_length_slice]
    · rw [brought]
    · rw [ends, List.isEmpty_iff] at saw
      exact Nat.le_add_right_of_le ((Bytes.slice_eq_nil_iff (some pos)).1 saw)
    · rw [ends] at unseen
      have := List.length_pos_iff.2 (mt List.isEmpty_iff.2 (Bool.eq_false_iff.1 unseen))
      rw [brought, List.length_singleton]
      show 1 + patience ≤ _
      omega
  | @readFailed _ patience e less =>
    refine ⟨rfl, rfl, rfl, nofun, fun _ => ?_⟩
    show 1 + patience ≤ m.patience + 0
    omega

/-- **Reads of a regular file deliver a slice.** -/
theorem Converses.hasRead {c : Channel} (h : Converses c.fd m es m') (reads : es.Reads c)
    (ready : c.kind.alwaysReady = true) : HasRead c.fd m es m' := by
  have only := reads.reading ready
  clear reads
  induction h with
  | nil m => exact .nil c.fd m
  | cons reply _ ih =>
    obtain ⟨⟨len, answer, pos, rfl⟩, rest⟩ := List.forall_mem_cons.1 only
    exact (reply.hasRead pos).append (ih rest)

/-! ## Writes -/

/-- **What a dialogue of writes comes to.** -/
structure HasWritten (fd : Int) (m : Medium) (es : Dialogue) (m' : Medium) : Prop where
  contents : m'.contents = m.contents.storeAt m.offset (es.accepted fd)
  offset : m'.offset = m.offset + (es.accepted fd).length
  length_le : es.Unfailing → es.length + m'.patience ≤ m.patience + (es.accepted fd).length

theorem HasWritten.nil (fd : Int) (m : Medium) : HasWritten fd m [] m :=
  ⟨(Bytes.storeAt_nil _ _).symm, rfl, fun _ => Nat.le_of_eq (Nat.add_comm _ _)⟩

theorem HasWritten.append (h : HasWritten fd m es m') (h' : HasWritten fd m' es' m'') :
    HasWritten fd m (es ++ es') m'' where
  contents := by
    rw [h'.contents, h.contents, h.offset, Bytes.storeAt_append, Dialogue.accepted_append]
  offset := by
    rw [h'.offset, h.offset, Dialogue.accepted_append, List.length_append, Nat.add_assoc]
  length_le := by
    intro fine
    have first := h.length_le fun e he => fine e (List.mem_append_left _ he)
    have second := h'.length_le fun e he => fine e (List.mem_append_right _ he)
    rw [List.length_append, Dialogue.accepted_append, List.length_append]
    omega

/-- One write to a regular file. -/
theorem Replies.hasWritten {data : Bytes} {answer : Except Errno Nat} (some : data ≠ [])
    (h : Replies fd m (Descriptor.writing fd data answer) m') :
    HasWritten fd m [Descriptor.writing fd data answer] m' := by
  cases h with
  | @wrote _ n patience fits le short =>
    have took : Dialogue.accepted fd [Descriptor.writing fd data (.ok n)] = data.take n :=
      (List.append_nil _).trans (Exchange.acceptedOn_write_ok fd data n)
    have count : (data.take n).length = n := List.length_take_of_le fits
    refine ⟨?_, ?_, fun _ => ?_⟩
    · rw [took]
    · rw [took, count]
    · rw [took, count, List.length_singleton]
      show 1 + patience ≤ _
      have := short some
      omega
  | @writeFailed _ e patience le less =>
    refine ⟨(Bytes.storeAt_nil _ _).symm, rfl, fun fine => ?_⟩
    have := less (fine _ (List.mem_singleton.2 rfl))
    show 1 + patience ≤ m.patience + 0
    omega

/-- **Writes to a regular file store what was accepted.** -/
theorem Converses.hasWritten {c : Channel} (h : Converses c.fd m es m') (writes : es.Writes c)
    (ready : c.kind.alwaysReady = true) : HasWritten c.fd m es m' := by
  have only := writes.writing ready
  clear writes
  induction h with
  | nil m => exact .nil c.fd m
  | cons reply _ ih =>
    obtain ⟨⟨data, answer, some, rfl⟩, rest⟩ := List.forall_mem_cons.1 only
    exact (reply.hasWritten some).append (ih rest)

/-! ## Moves -/

variable {c : Channel}

/-- **A regular file tells where its descriptor stands.** -/
theorem Converses.told {r : Except ChannelError Nat} (h : Converses c.fd m es m')
    (told : c.Told es r) : m' = m ∧ c.liveCount ≤ m.offset ∧ r = .ok (m.offset - c.liveCount) := by
  cases told with
  | failed e =>
    rcases h with _ | ⟨reply, rest⟩
    cases reply
  | told physical le =>
    rcases h with _ | ⟨reply, rest⟩
    cases reply
    cases rest
    exact ⟨rfl, le, rfl⟩

/-- **A regular file tells its size** and stands where it stood. -/
theorem Converses.sized {r : Except ChannelError Nat} (h : Converses c.fd m es m')
    (regular : c.kind.isRegular = true) (bound : m.offset ≤ Descriptor.maxOffset)
    (sized : c.Sized es r) : m' = m ∧ r = .ok (m.contents.length + c.pendingCount) := by
  obtain ⟨contents, offset, patience⟩ := m
  cases sized with
  | unsupported other =>
    simp [regular] at other
  | nowhere e =>
    rcases h with _ | ⟨reply, _⟩
    cases reply
  | noEnd here e =>
    rcases h with _ | ⟨_, _ | ⟨reply, _⟩⟩
    cases reply
  | noReturn here stop e le =>
    rcases h with _ | ⟨_, _ | ⟨_, _ | ⟨reply, _⟩⟩⟩
    cases reply
  | tooFar here stop beyond =>
    rcases h with _ | ⟨reply, _⟩
    cases reply
    exact absurd bound (Nat.not_le.2 beyond)
  | sized here stop back le =>
    rcases h with _ | ⟨first, _ | ⟨second, _ | ⟨third, rest⟩⟩⟩
    cases first
    cases second
    cases third
    cases rest
    exact ⟨rfl, rfl⟩

/-- **A regular file moves** to any position that can be named. -/
theorem Converses.sought {position : Nat} {r : Except ChannelError Nat} {c' : Channel}
    (h : Converses c.fd m es m') (sought : c.Sought position es r c') :
    (m' = m ∧ c' = c ∧ ∃ e, r = .error e) ∨
      (m' = { m with offset := position } ∧ position ≤ Descriptor.maxOffset ∧ c' = c.emptied ∧
        r = .ok position) := by
  cases sought with
  | refused _ =>
    cases h
    exact .inl ⟨rfl, rfl, _, rfl⟩
  | moved answer le =>
    rcases h with _ | ⟨reply, rest⟩
    cases reply
    cases rest
    exact .inr ⟨rfl, le, rfl, rfl⟩

end Medium

end BufferedChannels
