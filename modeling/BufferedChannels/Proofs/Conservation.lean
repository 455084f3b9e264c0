import BufferedChannels.Proofs.Operating
import BufferedChannels.Proofs.Lifecycle
import BufferedChannels.Simulation.Kernel

/-!
# Proofs/Conservation — no byte is lost, doubled or moved

A `History` is a run of operations on one channel, with anything at all happening to its
surroundings in between.  Two equations hold after every history that does not move the position:
**what was pending and what was taken is what was accepted and what is pending**, and **what was
buffered and what was delivered is what was handed on and what is buffered**.  Each is the sum of
the equations of the operations (`Performed`).
-/

namespace BufferedChannels

/-- **The channels that a program can get hold of**: begun in any way, operated on, and also left
behind by an operation that broke a rule. -/
inductive Channel.Reachable (κ : Type) [Host κ] : Channel → Prop
  | begun {c : Channel} {opening : Opening} {s s' : System κ} :
      opening.run.runOn s = (.ok (.ok c), s') → Reachable κ c
  | operated {c c' : Channel} {operation : Operation} {answer : Answer} {s s' : System κ} :
      Reachable κ c → (operation.run c).runOn s = (.ok (answer, c'), s') → Reachable κ c'
  | broken {c left : Channel} {operation : Operation} {message : String} {s s' : System κ} :
      Reachable κ c → (operation.run c).runOn s = (.error (.faulted message (some left)), s') →
        Reachable κ left

/-- **An operation that was done**: the exchanges that it took, and its answer. -/
structure Deed where
  operation : Operation
  exchanges : Dialogue
  answer : Answer

namespace Deed

/-- The bytes that a deed took from the caller. -/
def taken (d : Deed) : Bytes := d.operation.taken d.answer

/-- The bytes that a deed handed on. -/
def handed (d : Deed) : Bytes := d.answer.handed

/-- **A deed turns a channel into another**, on whatever system. -/
def Done (κ : Type) [Host κ] (d : Deed) (c c' : Channel) : Prop :=
  ∃ s s' : System κ, (d.operation.run c).runOn s = (.ok (d.answer, c'), s') ∧
    s'.trace = d.exchanges.reverse ++ s.trace

end Deed

/-- **A run of deeds** on one channel. -/
inductive History (κ : Type) [Host κ] : Channel → List Deed → Channel → Prop
  | nil (c : Channel) : History κ c [] c
  | cons {c c' c'' : Channel} {d : Deed} {ds : List Deed} :
      d.Done κ c c' → History κ c' ds c'' → History κ c (d :: ds) c''

/-- The exchanges of a run, oldest first. -/
def exchangesOf (ds : List Deed) : Dialogue := ds.flatMap Deed.exchanges

variable {κ : Type} [Host κ] {c c' : Channel}

/-- **The deeds of operations** done one after another on one system, if each of them returns. -/
def deedsOf (c : Channel) (s : System κ) : List Operation → Option (List Deed × Channel)
  | [] => some ([], c)
  | operation :: rest =>
    match (operation.run c).runOn { s with trace := [] } with
    | (.ok (answer, c'), s') =>
      (deedsOf c' s' rest).map fun later =>
        (⟨operation, s'.trace.reverse, answer⟩ :: later.1, later.2)
    | _ => none

/-- **Operations done one after another make a history.** -/
theorem history_of_deedsOf {operations : List Operation} {s : System κ} {ds : List Deed}
    (h : deedsOf c s operations = some (ds, c')) : History κ c ds c' := by
  induction operations generalizing c s ds with
  | nil =>
    obtain ⟨rfl, rfl⟩ := Prod.mk.inj (Option.some.inj h)
    exact .nil c
  | cons operation rest ih =>
    rw [deedsOf] at h
    split at h
    · next answer c₁ s₁ run =>
      obtain ⟨⟨later, c₂⟩, hlater, same⟩ := Option.map_eq_some_iff.1 h
      obtain ⟨rfl, rfl⟩ := Prod.mk.inj same
      exact .cons ⟨_, s₁, run, by rw [List.reverse_reverse, List.append_nil]⟩ (ih hlater)
    · cases h

/-- **Every channel that can be got hold of** has buffers that keep their rules. -/
theorem Channel.Reachable.wellFormed (h : c.Reachable κ) : c.WellFormed := by
  induction h with
  | @begun c opening s s' run =>
    obtain ⟨_, _, blank⟩ := (opening.run_ensures s).of_ok run
    exact (blank c rfl).toWellFormed
  | @operated c c' operation answer s s' _ run wf =>
    obtain ⟨_, _, done⟩ := (operation.run_ensures wf s).of_ok run
    exact done.wellFormed
  | @broken c left operation message s s' _ run wf =>
    obtain ⟨_, _, broken⟩ := (operation.run_ensures wf s).of_error run
    exact broken.intact message left rfl

/-- **A deed has done what every operation does.** -/
theorem Deed.Done.performed {d : Deed} (h : d.Done κ c c') (wf : c.WellFormed) :
    Performed d.operation c d.exchanges d.answer c' := by
  obtain ⟨s, s', run, noted⟩ := h
  exact (d.operation.run_ensures wf s).of_noted run noted

namespace History

variable {ds : List Deed}

/-- The equation of the output, from those of the deeds. -/
theorem output_eq (wf : c.WellFormed) (h : History κ c ds c')
    (stays : ∀ d ∈ ds, d.operation.moves = false ∧ d.operation.isPlainWrite = false) :
    (exchangesOf ds).accepted c.fd ++ c'.output.pending =
      c.output.pending ++ ds.flatMap Deed.taken := by
  induction h with
  | nil c => exact (List.append_nil _).symm
  | @cons c c' c'' d ds done _ ih =>
    have performed := done.performed wf
    obtain ⟨stay, rest⟩ := List.forall_mem_cons.1 stays
    have first : d.exchanges.accepted c.fd ++ c'.output.pending = c.output.pending ++ d.taken :=
      performed.output stay.1 stay.2
    have later := ih performed.wellFormed rest
    rw [performed.fd] at later
    calc (exchangesOf (d :: ds)).accepted c.fd ++ c''.output.pending
        = d.exchanges.accepted c.fd ++ ((exchangesOf ds).accepted c.fd ++ c''.output.pending) := by
          rw [exchangesOf, List.flatMap_cons, Dialogue.accepted_append, List.append_assoc]
          rfl
      _ = d.exchanges.accepted c.fd ++ c'.output.pending ++ ds.flatMap Deed.taken := by
          rw [later, List.append_assoc]
      _ = c.output.pending ++ (d :: ds).flatMap Deed.taken := by
          rw [first, List.flatMap_cons, List.append_assoc]

/-- The equation of the input, from those of the deeds. -/
theorem input_eq (wf : c.WellFormed) (h : History κ c ds c')
    (stays : ∀ d ∈ ds, d.operation.moves = false) :
    c.input.live ++ (exchangesOf ds).delivered c.fd =
      ds.flatMap Deed.handed ++ c'.input.live := by
  induction h with
  | nil c => exact List.append_nil _
  | @cons c c' c'' d ds done _ ih =>
    have performed := done.performed wf
    obtain ⟨stay, rest⟩ := List.forall_mem_cons.1 stays
    have first : c.input.live ++ d.exchanges.delivered c.fd = d.handed ++ c'.input.live :=
      performed.input stay
    have later := ih performed.wellFormed rest
    rw [performed.fd] at later
    calc c.input.live ++ (exchangesOf (d :: ds)).delivered c.fd
        = c.input.live ++ d.exchanges.delivered c.fd ++ (exchangesOf ds).delivered c.fd := by
          rw [exchangesOf, List.flatMap_cons, Dialogue.delivered_append, List.append_assoc]
          rfl
      _ = d.handed ++ (c'.input.live ++ (exchangesOf ds).delivered c.fd) := by
          rw [first, List.append_assoc]
      _ = (d :: ds).flatMap Deed.handed ++ c''.input.live := by
          rw [later, List.flatMap_cons, List.append_assoc]

/-- A failed flush of a run counts what was accepted. -/
theorem flushed_eq (wf : c.WellFormed) (h : History κ c ds c') {d : Deed} (hd : d ∈ ds)
    {deadline : DeadlineSource} {e : ChannelError} (flush : d.operation = .flush deadline)
    (failed : d.answer = .finished (.error e)) :
    e.transferred = (d.exchanges.accepted c.fd).length := by
  induction h with
  | nil c => exact absurd hd List.not_mem_nil
  | @cons c c' c'' d' ds done _ ih =>
    have performed := done.performed wf
    rcases List.mem_cons.1 hd with rfl | later
    · exact performed.flushed deadline e flush failed
    · rw [← performed.fd]
      exact ih performed.wellFormed later

/-- **Output conservation.**  In a run of operations that neither move the position nor hide how
much they took, the bytes that the descriptor accepted and then those still pending are the bytes
that were pending and then those taken from the caller; and a flush that fails counts exactly the
bytes that the descriptor accepted. -/
theorem output_conserved (reachable : c.Reachable κ) (h : History κ c ds c')
    (stays : ∀ d ∈ ds, d.operation.moves = false ∧ d.operation.isPlainWrite = false) :
    (exchangesOf ds).accepted c.fd ++ c'.output.pending =
        c.output.pending ++ ds.flatMap Deed.taken ∧
      ∀ d ∈ ds, ∀ deadline e, d.operation = .flush deadline → d.answer = .finished (.error e) →
        e.transferred = (d.exchanges.accepted c.fd).length :=
  ⟨h.output_eq reachable.wellFormed stays, fun _ hd _ _ flush failed =>
    h.flushed_eq reachable.wellFormed hd flush failed⟩

/-! A file on which a write is cut short, the next one fails, and so does the second read. -/

/-- The kernel of the file. -/
def patchy : System Simulation.Kernel where
  host := { nodes := [("f", {
    body := .file (.ofBytes [1, 2, 3, 4, 5, 6])
    script := [(.write, { max? := some 1 }), (.write, { errno? := some ⟨5⟩ }), (.read, {}),
      (.read, { errno? := some ⟨5⟩ })] })] }
  budget := 40
  bufferLength := 4

/-- The opening of the file. -/
def patchyOpening : Opening :=
  .openConfigured "f" { access := .readWrite } 0o644 {} (.scheduled false)

/-- Its channel with given buffers. -/
def patchyChannel (input : ReadAhead) (output : WriteBehind) : Channel :=
  { fd := 3, kind := .regular, input, output, verbose := false, waiter := .scheduled false }

/-- The file with a channel opened on it. -/
def patchyOpened : System Simulation.Kernel := (patchyOpening.run.runOn patchy).2

/-- A flush that is cut short after one byte, and a write behind what stays pending. -/
def cutFlush : List Deed :=
  [⟨.write [7, 8, 9] .never, [], .count (.ok 3)⟩,
    ⟨.flush .never, [Descriptor.writing 3 [7, 8, 9] (.ok 1),
      Descriptor.writing 3 [8, 9] (.error ⟨5⟩)], .finished (.error (.os ⟨5⟩ 1))⟩,
    ⟨.write [10] .never, [], .count (.ok 1)⟩]

theorem output_conserved_cutFlush :
    (exchangesOf cutFlush).accepted 3 = [7] ∧
      (exchangesOf cutFlush).accepted 3 ++ [8, 9, 10] = [] ++ cutFlush.flatMap Deed.taken := by
  have opened : patchyOpening.run.runOn patchy =
      (.ok (.ok (patchyChannel ⟨[0, 0, 0, 0], 0, 0⟩ ⟨[0, 0, 0, 0], 0⟩)), patchyOpened) := rfl
  have run : deedsOf (patchyChannel ⟨[0, 0, 0, 0], 0, 0⟩ ⟨[0, 0, 0, 0], 0⟩) patchyOpened
      [.write [7, 8, 9] .never, .flush .never, .write [10] .never] =
      some (cutFlush, patchyChannel ⟨[0, 0, 0, 0], 0, 0⟩ ⟨[8, 9, 10, 0], 3⟩) := rfl
  exact ⟨rfl, (History.output_conserved (.begun opened) (history_of_deedsOf run) (by decide)).1⟩

/-- **Input conservation.**  In a run of operations that do not move the position, the bytes that
were buffered and then those that the descriptor delivered are the bytes handed on and then those
buffered now. -/
theorem input_conserved (reachable : c.Reachable κ) (h : History κ c ds c')
    (stays : ∀ d ∈ ds, d.operation.moves = false) :
    c.input.live ++ (exchangesOf ds).delivered c.fd =
      ds.flatMap Deed.handed ++ c'.input.live :=
  h.input_eq reachable.wellFormed stays

/-- A read that leaves a surplus, and one that takes it and fails. -/
def cutRead : List Deed :=
  [⟨.read 2 .never, [Descriptor.reading 3 4 (.ok [1, 2, 3, 4])], .reading ⟨[1, 2], none⟩⟩,
    ⟨.read 6 .never, [Descriptor.reading 3 4 (.error ⟨5⟩)],
      .reading ⟨[3, 4], some (.os ⟨5⟩ 2)⟩⟩]

theorem input_conserved_cutRead :
    (exchangesOf cutRead).delivered 3 = [1, 2, 3, 4] ∧
      [] ++ (exchangesOf cutRead).delivered 3 = cutRead.flatMap Deed.handed ++ [] := by
  have opened : patchyOpening.run.runOn patchy =
      (.ok (.ok (patchyChannel ⟨[0, 0, 0, 0], 0, 0⟩ ⟨[0, 0, 0, 0], 0⟩)), patchyOpened) := rfl
  have run : deedsOf (patchyChannel ⟨[0, 0, 0, 0], 0, 0⟩ ⟨[0, 0, 0, 0], 0⟩) patchyOpened
      [.read 2 .never, .read 6 .never] =
      some (cutRead, patchyChannel ⟨[1, 2, 3, 4], 0, 0⟩ ⟨[0, 0, 0, 0], 0⟩) := rfl
  exact ⟨rfl, History.input_conserved (.begun opened) (history_of_deedsOf run) (by decide)⟩

end History

end BufferedChannels
