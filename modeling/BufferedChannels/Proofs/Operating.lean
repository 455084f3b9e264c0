import BufferedChannels.Session.Run
import BufferedChannels.Proofs.Reading
import BufferedChannels.Proofs.Positioning

/-!
# Proofs/Operating — what an operation does to its channel

`Performed` gathers what holds of every operation that returns: the buffers keep their rules, the
channel keeps its descriptor and its waiter, and **both flows of bytes are accounted for** unless
the operation moves the position.  `BrokenOff` lists the ways in which one may not return.
-/

namespace BufferedChannels

/-! ## Bytes taken and handed on -/

/-- **The bytes that a caller may use** after a read: as many as its count or its failure says. -/
def Reading.handed (r : Reading) : Bytes :=
  match r.result with
  | .ok n => r.bytes.take n
  | .error e => r.bytes.take e.transferred

/-- The bytes that an answer hands on. -/
def Answer.handed : Answer → Bytes
  | .reading r => r.handed
  | .streamBytes (.ok bytes) => bytes
  | _ => []

/-- Whether an answer is a failure. -/
def Answer.isFailure : Answer → Bool
  | .reading r => r.error?.isSome
  | .count (.error _) | .finished (.error _) | .streamBytes (.error _) | .streamCount (.error _)
  | .streamDone (.error _) => true
  | _ => false

namespace Operation

/-- The bytes that an operation took from the caller, as its answer says. -/
def taken : Operation → Answer → Bytes
  | .write data _, .count result => Channel.takenBy data result
  | _, _ => []

/-- **Whether an operation moves the position**, and so forgets what is buffered. -/
def moves : Operation → Bool
  | .seek _ | .reposition _ => true
  | _ => false

/-- The exchanges that an operation makes at most on a patient file, but for those of a flush. -/
def effort : Operation → Nat
  | .read len _ => len
  | .readBetween _ low _ _ => low
  | .write data _ => data.length
  | _ => 6

/-- Whether an operation is a plain write, whose failure does not say how much it took. -/
def isPlainWrite : Operation → Bool
  | .writeAll _ => true
  | _ => false

end Operation

theorem Channel.HandsOn.handed {c c' : Channel} {es : Dialogue} {r : Reading}
    (h : c.HandsOn es r c') : r.handed = r.bytes := by
  obtain ⟨bytes, error?⟩ := r
  rcases error? with _ | e
  · exact List.take_length
  · have count : e.transferred = bytes.length := h.counted e rfl
    show bytes.take e.transferred = bytes
    rw [count, List.take_length]

/-! ## Operations that return -/

/-- **What an operation that returns has done.** -/
structure Performed (operation : Operation) (c : Channel) (es : Dialogue) (answer : Answer)
    (c' : Channel) : Prop where
  wellFormed : c'.WellFormed
  fd : c'.fd = c.fd
  waiter : c'.waiter = c.waiter
  output : operation.moves = false → operation.isPlainWrite = false →
    es.accepted c.fd ++ c'.output.pending = c.output.pending ++ operation.taken answer
  input : operation.moves = false →
    c.input.live ++ es.delivered c.fd = answer.handed ++ c'.input.live
  flushed : ∀ deadline e, operation = .flush deadline → answer = .finished (.error e) →
    e.transferred = (es.accepted c.fd).length

section Performed

variable {operation : Operation} {c c' : Channel} {es : Dialogue} {answer : Answer}

/-- A read has performed what it hands on. -/
theorem Channel.HandsOn.performed {r : Reading} (wf : c.WellFormed) (h : c.HandsOn es r c')
    (handed : answer.handed = r.bytes) (none : operation.taken answer = [])
    (noFlush : ∀ deadline, operation ≠ .flush deadline) :
    Performed operation c es answer c' where
  wellFormed := ⟨h.reread.wellFormed, h.reread.output ▸ wf.output⟩
  fd := h.reread.fd
  waiter := h.reread.waiter
  output := by
    intro _ _
    rw [h.reads.accepted, none, h.reread.output, List.append_nil, List.nil_append]
  input := fun _ => by rw [h.conserved, handed]
  flushed := fun deadline _ is => absurd is (noFlush deadline)

/-- An operation on the writing side has performed what it took. -/
theorem Channel.Rewritten.performed (wf : c.WellFormed) (h : c.Rewritten c')
    (writes : es.Writes c) (none : answer.handed = [])
    (output : operation.isPlainWrite = false →
      es.accepted c.fd ++ c'.output.pending = c.output.pending ++ operation.taken answer)
    (flushed : ∀ deadline e, operation = .flush deadline → answer = .finished (.error e) →
      e.transferred = (es.accepted c.fd).length) : Performed operation c es answer c' where
  wellFormed := h.toWellFormed wf
  fd := h.fd
  waiter := h.waiter
  output := fun _ => output
  input := by
    intro _
    rw [writes.delivered, none, h.input, List.append_nil, List.nil_append]
  flushed := flushed

/-- A question has performed nothing. -/
theorem performed_of_still (wf : c.WellFormed) (still : ∀ e ∈ es, e.isStill = true)
    (none : answer.handed = []) (taken : operation.taken answer = [])
    (noFlush : ∀ deadline, operation ≠ .flush deadline) : Performed operation c es answer c where
  wellFormed := wf
  fd := rfl
  waiter := rfl
  output := by
    intro _ _
    rw [Dialogue.accepted_of_still still, taken, List.append_nil, List.nil_append]
  input := by
    intro _
    rw [Dialogue.delivered_of_still still, none, List.append_nil, List.nil_append]
  flushed := fun deadline _ is => absurd is (noFlush deadline)

/-- An operation that moves the position owes the rules of its buffers only. -/
theorem performed_of_moves (moves : operation.moves = true) (wf : c'.WellFormed)
    (fd : c'.fd = c.fd) (waiter : c'.waiter = c.waiter) : Performed operation c es answer c' where
  wellFormed := wf
  fd := fd
  waiter := waiter
  output := fun no => absurd moves (by rw [no]; exact Bool.false_ne_true)
  input := fun no => absurd moves (by rw [no]; exact Bool.false_ne_true)
  flushed := by
    intro _ _ is
    simp [is, Operation.moves] at moves

end Performed

/-! ## Operations that do not -/

/-- **The ways in which an operation may not return**: those of a transfer, and a position before
the bytes read ahead. -/
inductive BrokenOff {κ : Type} (operation : Operation) (c : Channel) (es : Dialogue) :
    Halt → System κ → Prop
  | transfer {h : Halt} {s : System κ} : c.MayHalt es h s → BrokenOff operation c es h s
  | behind {s : System κ} {physical : Nat} {left : Channel} :
      (operation = .tell ∨ ∃ delta, operation = .reposition (.current delta)) →
        Descriptor.seeking c.fd 0 .current (.ok physical) ∈ es → physical < c.liveCount →
        left.WellFormed →
        BrokenOff operation c es (.faulted "attempt to subtract with overflow" (some left)) s

/-- **A halt whose channel keeps the rules of its buffers**, if it leaves one. -/
def Halt.Intact (h : Halt) : Prop :=
  ∀ message left, h = .faulted message (some left) → left.WellFormed

theorem BrokenOff.intact {κ : Type} {operation : Operation} {c : Channel} {es : Dialogue} {h : Halt}
    {s : System κ} (broken : BrokenOff operation c es h s) : h.Intact := by
  intro message left is
  rcases broken with (_ | _ | ⟨_, _, _, kept⟩ | _ | _) | ⟨_, _, _, kept⟩
  · cases is
  · cases is
  · cases is
    exact kept
  · cases is
  · cases is
  · cases is
    exact kept

/-- **A rule is broken with a channel at hand**, unless the host moves more than it was asked to. -/
theorem BrokenOff.leaves_some {κ : Type} {operation : Operation} {c : Channel} {es : Dialogue}
    {h : Halt} {s : System κ} (broken : BrokenOff operation c es h s) (moderate : es.Moderate)
    (message : String) : h ≠ .faulted message none := by
  rintro rfl
  obtain halt | _ := broken
  cases halt with
  | overfull mem excess => exact excess (moderate _ mem)

variable {κ : Type} [Host κ]

/-- Making a deadline is stepped over. -/
theorem ensures_resolve {α : Type} {next : Deadline → Act κ α} {s : System κ}
    {returns : Dialogue → α → System κ → Prop} {halts : Dialogue → Halt → System κ → Prop}
    (source : DeadlineSource) (rest : ∀ deadline, (next deadline).Ensures s returns halts) :
    (source.resolve >>= next).Ensures s returns halts := by
  rcases source with _ | duration | instant
  · exact Act.ensures_bind_quiet rfl (.refl s) (rest _)
  · exact Act.ensures_bind_quiet rfl (.refl s) (rest _)
  · exact Act.ensures_bind_quiet rfl (.refl s) (rest _)

namespace Channel

variable {c : Channel} {operation : Operation} {es : Dialogue} {h : Halt} {s : System κ}

omit [Host κ] in
theorem HaltsReading.brokenOff {low : Nat} (halts : c.HaltsReading low es h s) :
    BrokenOff operation c es h s := .transfer halts.1

omit [Host κ] in
theorem HaltsWriting.brokenOff {most : Nat} (halts : c.HaltsWriting most es h s) :
    BrokenOff operation c es h s := .transfer halts.1

omit [Host κ] in
theorem HaltsAsking.brokenOff (halts : c.HaltsAsking es h s) : BrokenOff operation c es h s := by
  obtain ⟨_, _, rfl, spent⟩ := halts
  exact .transfer (.spent spent)

omit [Host κ] in
theorem HaltsMoving.brokenOff {target : SeekTarget} (wf : c.WellFormed)
    (halts : c.HaltsMoving target es h s) : BrokenOff (.reposition target) c es h s := by
  rcases halts with sending | ⟨_, _, _, rfl, spent⟩ | ⟨flushed, rfl, physical, rfl, before, rfl⟩
  · exact sending.brokenOff
  · exact .transfer (.spent spent)
  · rw [flushed.rewritten.fd]
    refine .behind (.inr ⟨_, rfl⟩) (List.mem_append_right _ (List.mem_singleton.2 rfl)) ?_
      (flushed.rewritten.toWellFormed wf)
    rw [liveCount, flushed.rewritten.input] at before
    exact before

/-- What a move after a flush leaves. -/
theorem Repositioned.performed {target : SeekTarget} {r : Except StandardError Nat} {c' : Channel}
    {answer : Answer} (wf : c.WellFormed) (done : c.Repositioned target es r c') :
    Performed (.reposition target) c es answer c' := by
  have flushing {es' : Dialogue} {result : Except ChannelError Unit} {c' : Channel}
      (flushed : c.Flushed es' result c') : Performed (.reposition target) c es answer c' :=
    performed_of_moves rfl (flushed.rewritten.toWellFormed wf) flushed.rewritten.fd
      flushed.rewritten.waiter
  rcases done with flushed | ⟨flushed, _⟩ | ⟨flushed, _⟩ | ⟨flushed, _, sought⟩
  · exact flushing flushed
  · exact flushing flushed
  · exact flushing flushed
  · rcases sought with _ | _
    · exact flushing flushed
    · exact performed_of_moves rfl (wellFormed_emptied _) flushed.rewritten.fd
        flushed.rewritten.waiter

end Channel

/-! ## All operations -/

section Answers

variable {β : Type} {s : System κ} {returns : Dialogue → Answer × Channel → System κ → Prop}
  {halts : Dialogue → Halt → System κ → Prop}

/-- An operation that gives its channel back is as its computation. -/
theorem ensures_answer {act : Act κ (β × Channel)} {f : β → Answer}
    (h : act.Ensures s (fun es r => returns es (f r.1, r.2)) halts) :
    (do let (r, c') ← act; return (f r, c') : Act κ (Answer × Channel)).Ensures s returns halts :=
  Act.ensures_bind h fun es _ _ _ done => Act.ensures_pure (by rw [List.append_nil]; exact done)

/-- An operation that leaves its channel alone is as its computation. -/
theorem ensures_answer_same {act : Act κ β} {f : β → Answer} {c : Channel}
    (h : act.Ensures s (fun es r => returns es (f r, c)) halts) :
    (do return (f (← act), c) : Act κ (Answer × Channel)).Ensures s returns halts :=
  Act.ensures_bind h fun es _ _ _ done => Act.ensures_pure (by rw [List.append_nil]; exact done)

end Answers

/-- **What every operation does to its channel.** -/
theorem Operation.run_ensures (operation : Operation) {c : Channel} (wf : c.WellFormed)
    (s : System κ) :
    (operation.run c).Ensures s (fun es r _ => Performed operation c es r.1 r.2)
      (fun es h s' => BrokenOff operation c es h s') := by
  rcases operation with ⟨len, source⟩ | ⟨len, low, high, source⟩ | ⟨data, source⟩ | source |
    position | _ | _ | _ | len | data | _ | target
  · -- `read`
    refine ensures_resolve source fun deadline => ensures_answer ?_
    exact (Channel.read_ensures wf len deadline s).mono
      (fun _ _ _ _ received => received.performed wf received.handed rfl nofun)
      fun _ _ _ _ halts => halts.brokenOff
  · -- `readBetween`
    refine ensures_resolve source fun deadline => ensures_answer ?_
    refine (Channel.readBetween_ensures wf len low high deadline s).mono
      (fun es r _ _ post => ?_) fun _ _ _ _ halts => halts.brokenOff
    have handsOn : c.HandsOn es r.1 r.2 := by
      obtain ⟨_, _, received⟩ | ⟨_, refused⟩ := post
      · exact received.toHandsOn
      · exact refused.handsOn wf
    exact handsOn.performed wf handsOn.handed rfl nofun
  · -- `write`
    refine ensures_resolve source fun deadline => ensures_answer ?_
    exact (Channel.write_ensures wf data deadline s).mono
      (fun _ _ _ _ written => written.rewritten.performed wf written.writes rfl
        (fun _ => written.conserved) nofun)
      fun _ _ _ _ halts => halts.brokenOff
  · -- `flush`
    refine ensures_resolve source fun deadline => ensures_answer ?_
    refine (Channel.flush_ensures wf deadline s).mono (fun _ _ _ _ flushed => ?_)
      fun _ _ _ _ halts => halts.brokenOff
    refine flushed.rewritten.performed wf flushed.writes rfl (fun _ => ?_) fun _ e _ answer => ?_
    · rw [flushed.conserved]
      exact (List.append_nil _).symm
    · exact (flushed.failed e (Answer.finished.inj answer)).2
  · -- `seek`
    refine ensures_answer ((c.seek_ensures position s).mono (fun _ r _ _ sought => ?_)
      fun _ _ _ _ halts => halts.brokenOff)
    obtain ⟨result, c'⟩ := r
    rcases sought with _ | _
    · exact performed_of_moves rfl wf rfl rfl
    · exact performed_of_moves rfl c.wellFormed_emptied rfl rfl
  · -- `tell`
    refine ensures_answer_same ((c.tell_ensures s).mono (fun _ _ _ _ told => ?_)
      fun _ _ _ _ halts => ?_)
    · exact performed_of_still wf told.seeks.still rfl rfl nofun
    · obtain asking | ⟨physical, rfl, before, rfl⟩ := halts
      · exact asking.brokenOff
      · exact .behind (.inl rfl) (List.mem_singleton.2 rfl) before wf
  · -- `size`
    exact ensures_answer_same ((c.size_ensures s).mono
      (fun _ _ _ _ sized => performed_of_still wf sized.seeks.still rfl rfl nofun)
      fun _ _ _ _ halts => halts.brokenOff)
  · -- `info`
    exact Act.ensures_pure (performed_of_still wf (List.forall_mem_nil _) rfl rfl
      nofun)
  · -- `readSome`
    refine ensures_answer ((Channel.readSome_ensures wf len s).mono (fun es r _ _ post => ?_)
      fun _ _ _ _ halts => halts.brokenOff)
    obtain ⟨result, c'⟩ := r
    rcases post with ⟨_, rfl, same⟩ | ⟨⟨bytes, error?⟩, received, rfl⟩
    · obtain ⟨rfl, rfl⟩ := Prod.mk.inj same
      exact performed_of_still wf (List.forall_mem_nil _) rfl rfl nofun
    · rcases error? with _ | e
      · exact received.performed wf rfl rfl nofun
      · exact received.performed wf (received.bytes_eq_nil rfl).symm rfl nofun
  · -- `writeAll`
    refine ensures_answer (Act.ensures_bind ((Channel.write_ensures wf data .never s).mono
      (fun _ _ _ _ h => h) fun _ _ _ _ halts => halts.brokenOff) fun es r _ _ written =>
        Act.ensures_pure ?_)
    rw [List.append_nil]
    exact written.rewritten.performed wf written.writes rfl nofun nofun
  · -- `flushAll`
    refine ensures_answer (Act.ensures_bind ((Channel.flush_ensures wf .never s).mono
      (fun _ _ _ _ h => h) fun _ _ _ _ halts => halts.brokenOff) fun es r _ _ flushed =>
        Act.ensures_pure ?_)
    rw [List.append_nil]
    refine flushed.rewritten.performed wf flushed.writes rfl (fun _ => ?_) nofun
    rw [flushed.conserved]
    exact (List.append_nil _).symm
  · -- `reposition`
    exact ensures_answer ((Channel.reposition_ensures wf target s).mono
      (fun _ _ _ _ done => done.performed wf) fun _ _ _ _ halts => halts.brokenOff wf)

end BufferedChannels
