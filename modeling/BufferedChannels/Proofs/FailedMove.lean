import BufferedChannels.Proofs.Conservation

/-!
# Proofs/FailedMove — what a move that fails leaves behind

A move fails in one of two places.  A position that the kernel cannot name is refused before
anything is touched, and the channel and its surroundings stay **as they were**.  Every other
failure is the kernel's reply, which comes when both buffers are forgotten already: the channel is
left **empty**, and what it had read ahead or was to send is gone.
-/

namespace BufferedChannels.Channel

variable {κ : Type} [Host κ] {c c' : Channel} {position : Nat}

/-- **A position that the kernel cannot name** is refused without a call or a line in the
journal. -/
theorem runOn_seek_of_beyond (beyond : Descriptor.maxOffset < position) (s : System κ) :
    (c.seek position).runOn s =
      (.ok (.error (.invalidArgument "seek offset exceeds off_t"), c), s) := by
  have refused : Descriptor.offset? position =
      .error (.invalidArgument "seek offset exceeds off_t") := if_neg (Nat.not_le.2 beyond)
  rw [seek, refused]
  rfl

/-- **What a move that fails leaves.**  If the kernel cannot name the position, nothing has
happened: the channel and everything around it are as they were.  If the kernel refuses the move,
that was the only call, the failure is its number, and both buffers and the mark of the end are
cleared as after a move that succeeds. -/
theorem seek_failed {e : ChannelError} {s s' : System κ}
    (run : (c.seek position).runOn s = (.ok (.error e, c'), s')) :
    (Descriptor.maxOffset < position →
        e = .invalidArgument "seek offset exceeds off_t" ∧ c' = c ∧ s' = s) ∧
      (position ≤ Descriptor.maxOffset →
        (∃ errno : Errno, e = .ofErrno errno.recognized ∧
          s.Reaches [Descriptor.seeking c.fd position .start (.error errno)] s') ∧
        c' = c.emptied ∧ c'.liveCount = 0 ∧ c'.pendingCount = 0 ∧ c'.ended = false) := by
  refine ⟨fun beyond => ?_, fun within => ?_⟩
  · rw [runOn_seek_of_beyond beyond] at run
    obtain ⟨same, rfl⟩ := Prod.mk.inj run
    obtain ⟨failure, rfl⟩ := Prod.mk.inj (Except.ok.inj same)
    exact ⟨(Except.error.inj failure).symm, rfl, rfl⟩
  · obtain ⟨es, reaches, sought⟩ := (c.seek_ensures position s).of_ok run
    generalize result : (Except.error e : Except ChannelError Nat) = r at sought
    cases sought with
    | refused beyond => exact absurd within (Nat.not_le.2 beyond)
    | moved reply _ =>
      cases reply with
      | ok there => cases result
      | error errno => exact ⟨⟨errno, Except.error.inj result, reaches⟩, rfl, rfl, rfl, rfl⟩

/-! A pipe of which a byte was read and two are read ahead, with two more to be sent. -/

/-- The kernel of the pipe, and its descriptor. -/
def brimmingPipe : System Simulation.Kernel where
  host :=
    { nodes := [("p", { body := .stream { unread := [1, 2, 3] } })]
      descriptors := [(3, { node := "p", flags := { access := .readWrite } })] }
  budget := 40
  bufferLength := 4

/-- Its channel with given buffers. -/
def brimmingChannel (input : ReadAhead) (output : WriteBehind) : Channel :=
  { fd := 3, kind := .unasked, input, output, verbose := false, waiter := .polling .shared }

/-- The channel as it was adopted. -/
def brimmingNew : Channel := brimmingChannel ⟨[0, 0, 0, 0], 0, 0⟩ ⟨[0, 0, 0, 0], 0⟩

/-- The channel with something in both buffers. -/
def brimmingFull : Channel := brimmingChannel ⟨[1, 2, 3, 0], 1, 2⟩ ⟨[7, 8, 0, 0], 2⟩

/-- The pipe with its descriptor adopted. -/
def brimmingAdopted : System Simulation.Kernel := ((Opening.adopt 3).run.runOn brimmingPipe).2

/-- The pipe after a read and a write. -/
def brimmingFilled : System Simulation.Kernel :=
  (do let (_, c) ← brimmingNew.read 1 .never; c.write [7, 8] .never : Act _ _).runOn
    brimmingAdopted |>.2

theorem reachable_brimmingFull : brimmingFull.Reachable Simulation.Kernel := by
  have opened : (Opening.adopt 3).run.runOn brimmingPipe =
      (.ok (.ok brimmingNew), brimmingAdopted) := rfl
  have read : ((Operation.read 1 .never).run brimmingNew).runOn brimmingAdopted =
      (.ok (.reading ⟨[1], none⟩, brimmingChannel ⟨[1, 2, 3, 0], 1, 2⟩ ⟨[0, 0, 0, 0], 0⟩),
        brimmingFilled) := rfl
  have written : ((Operation.write [7, 8] .never).run
      (brimmingChannel ⟨[1, 2, 3, 0], 1, 2⟩ ⟨[0, 0, 0, 0], 0⟩)).runOn brimmingFilled =
      (.ok (.count (.ok 2), brimmingFull), brimmingFilled) := rfl
  exact .operated (.operated (.begun opened) read) written

theorem seek_failed_brimmingPipe :
    (∃ e c' s', (brimmingFull.seek 0).runOn brimmingFilled = (.ok (.error e, c'), s') ∧
        (∃ errno : Errno, e = .ofErrno errno.recognized ∧
          brimmingFilled.Reaches [Descriptor.seeking 3 0 .start (.error errno)] s') ∧
        c' = brimmingFull.emptied ∧ c'.liveCount = 0 ∧ c'.pendingCount = 0 ∧ c'.ended = false) ∧
      ∃ e c' s', (brimmingFull.seek 0x8000000000000000).runOn brimmingFilled =
          (.ok (.error e, c'), s') ∧
        e = .invalidArgument "seek offset exceeds off_t" ∧ c' = brimmingFull ∧
          s' = brimmingFilled := by
  have refused : (brimmingFull.seek 0).runOn brimmingFilled =
      (.ok (.error (.os ⟨29⟩ 0), brimmingFull.emptied),
        ((brimmingFull.seek 0).runOn brimmingFilled).2) := rfl
  have beyond := runOn_seek_of_beyond (c := brimmingFull)
    (show Descriptor.maxOffset < 0x8000000000000000 by decide) brimmingFilled
  exact ⟨⟨_, _, _, refused, (seek_failed refused).2 (by decide)⟩,
    _, _, _, beyond, (seek_failed beyond).1 (by decide)⟩

/-- **A move that fails need not leave the channel as it was**: the pipe refuses the move, and the
two bytes read ahead are gone, as are the two that were to be sent. -/
theorem not_untouched_by_failed_move : ¬ ∀ (c c' : Channel) (position : Nat) (e : ChannelError)
    (s s' : System Simulation.Kernel), c.Reachable Simulation.Kernel →
      (c.seek position).runOn s = (.ok (.error e, c'), s') →
        c'.input.live = c.input.live ∧ c'.output.pending = c.output.pending ∧
          c'.ended = c.ended := fun untouched =>
  absurd (untouched brimmingFull brimmingFull.emptied 0 (.os ⟨29⟩ 0) brimmingFilled _
    reachable_brimmingFull rfl).1 (by decide)

end BufferedChannels.Channel
