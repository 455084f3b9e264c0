import Mathlib
import BufferedChannels.Proofs.Refinement

/-!
# Proofs/ReadingPosition — `tell` is the reading position

The descriptor runs ahead of the caller by what is read ahead, large reads go past the buffer, and
the question for the size moves the descriptor to the end and back.  Whoever only **browses** a file
that is left alone, by reads, moves and questions, sees none of this: there is one position, which a
move sets and a read moves on by what it hands on, and `tell` tells it in every state.
-/

namespace BufferedChannels

open Simulation Act

/-! ## The position of a run -/

namespace Operation

/-- **Whether an operation only browses**: a read, a move or a question. -/
def browses : Operation → Bool
  | .read .. | .readBetween .. | .readSome _ | .seek _ | .reposition _ | .tell | .size | .info =>
    true
  | _ => false

/-- **The position after an operation**: where a move that succeeded went, or as many bytes farther
as were handed on, also before a failure. -/
def positionAfter (position : Nat) : Operation → Answer → Nat
  | .seek _, .count (.ok n) => n
  | .reposition _, .streamCount (.ok n) => n
  | _, answer => position + answer.handed.length

/-- The position after a run. -/
def positionAfterAll (position : Nat) (ds : List (Operation × Answer)) : Nat :=
  ds.foldl (fun position d => d.1.positionAfter position d.2) position

/-- **Browsing changes the position only.** -/
theorem after_of_browses {operation : Operation} (browses : operation.browses = true)
    (f : PlainFile) (answer : Answer) : f.after operation answer =
      ⟨f.contents, operation.positionAfter f.position answer⟩ := by
  have still : (f.advance answer.handed.length).store [] =
      ⟨f.contents, f.position + answer.handed.length⟩ := PlainFile.store_nil _
  rcases operation with _ | _ | _ | _ | _ | _ | _ | _ | _ | _ | _ | _
  any_goals cases browses
  any_goals exact still
  · -- `seek`
    cases answer with
    | count result => cases result with
      | ok n => rfl
      | error e => exact still
    | _ => exact still
  · -- `reposition`
    cases answer with
    | streamCount result => cases result with
      | ok n => rfl
      | error e => exact still
    | _ => exact still

end Operation

/-- **A plain read hands on what it received**, and nothing if it failed. -/
theorem Channel.Received.handed_plainResult {c c' : Channel} {high : Nat} {es : Dialogue}
    {r : Reading} (h : c.Received 1 high es r c') :
    (Answer.streamBytes (Channel.plainResult r)).handed = r.handed := by
  rw [h.handed]
  obtain ⟨bytes, _ | e⟩ := r
  · rfl
  · exact (h.bytes_eq_nil rfl).symm

/-! ## Browsing -/

/-- **What browsing gives and leaves**: bytes of the file from the position on, moves that end where
they were to end, and a channel that tracks the file at the position after. -/
structure Browsed (path : String) (f : PlainFile) (operation : Operation) (answer : Answer)
    (c' : Channel) (k' : Kernel) : Prop where
  gives : f.Gives operation answer
  handed : answer.handed = f.contents.slice f.position answer.handed.length
  tracks : ∃ m', Tracks path .reading c' k' m'
    ⟨f.contents, operation.positionAfter f.position answer⟩

namespace Tracks

variable {path : String} {phase : Phase} {c c' : Channel} {k k' : Kernel} {m : Medium}
  {f : PlainFile} {es : Dialogue} {s : System Kernel}

/-- With nothing pending a channel is in the middle of reading. -/
theorem toReading (h : Tracks path phase c k m f) (notWriting : phase ≠ .writing) :
    Tracks path .reading c k m f :=
  ⟨h.held, h.mirrors, fun no => absurd rfl no, fun _ => h.fits.pending notWriting⟩

theorem idle (h : Tracks path .reading c k m f) : c.output.pending = [] := h.fits.pending nofun

/-- What is in order and leaves the channel reading **has browsed**. -/
theorem browsed {operation : Operation} {answer : Answer} (browses : operation.browses = true)
    (handed : answer.handed = f.contents.slice f.position answer.handed.length)
    (notWriting : Phase.reading.after operation answer ≠ .writing)
    (onward : Onward path .reading f operation answer c' k') :
    Browsed path f operation answer c' k' := by
  obtain ⟨m', tracks⟩ := onward.tracks
  rw [Operation.after_of_browses browses] at tracks
  exact ⟨onward.gives, handed, m', tracks.toReading notWriting⟩

/-- **`tell` tells the position**, as soon as one exchange can be paid. -/
theorem tells (h : Tracks path .reading c s.host m f) (paid : 0 < s.budget) :
    (c.tell.runOn s).1 = .ok (.ok f.position) := by
  rw [h.mirrors.file_of_idle h.idle]
  obtain ⟨left, budget⟩ := Nat.exists_eq_succ_of_ne_zero (Nat.ne_of_gt paid)
  obtain ⟨k₁, run, _⟩ := h.held.seek .current (Int.add_zero _) h.held.offset_le
  have answer : Host.answer s.host (.seek c.fd 0 .current) = (.ok m.offset, k₁) := run
  have ahead : c.liveCount ≤ m.offset := by
    rw [Channel.liveCount, ← ReadAhead.length_live h.mirrors.wellFormed.input]
    exact h.mirrors.ahead
  unfold Channel.tell Descriptor.position
  rw [runOn_bind, runOn_bind, runOn_call, budget]
  dsimp only
  rw [answer]
  dsimp only [Descriptor.settle, runOn_pure]
  rw [if_neg (Nat.not_lt.2 ahead)]
  rw [Medium.under, ReadAhead.length_live h.mirrors.wellFormed.input]
  rfl

/-- What asks halts after few exchanges. -/
theorem asking_few {halt : Halt} (spent : Spent halt s) (few : es.length ≤ 3) {n : Nat} :
    Spent halt s ∧ es.length ≤ n + 6 :=
  ⟨spent, Nat.le_add_left_of_le (Nat.le_trans few (by decide : 3 ≤ 6))⟩

/-- A question browses if it leaves the channel where it is. -/
theorem browsed_of_asked {operation : Operation} {answer : Answer}
    (gives : f.Gives operation answer) (none : answer.handed = [])
    (stays : operation.positionAfter f.position answer = f.position + answer.handed.length)
    (tracks : Tracks path .reading c' k' m f) : Browsed path f operation answer c' k' := by
  refine ⟨gives, ?_, m, ?_⟩
  · rw [none]
    rfl
  · rw [stays, none]
    exact tracks

/-- **Every operation that browses** gives bytes of the file at the position and tracks it on, and
halts for want of a budget only. -/
theorem browse (h : Tracks path .reading c s.host m f) {operation : Operation}
    (browses : operation.browses = true) : (operation.run c).Ensures s
      (fun _ r s' => Browsed path f operation r.1 r.2 s'.host)
      (fun es halt s' => Spent halt s' ∧
        es.length ≤ m.patience + c.output.pending.length + operation.effort) := by
  have wf := h.mirrors.wellFormed
  rcases operation with ⟨len, source⟩ | ⟨len, low, high, source⟩ | _ | _ | position | _ | _ | _ |
    len | _ | _ | target
  any_goals cases browses
  · -- `read`
    refine ensures_resolve source fun deadline => ensures_answer
      ((Channel.read_ensures wf len deadline s).mono (fun _ r _ reaches done => ?_)
        fun _ _ _ reaches halts => h.read_few halts reaches.host)
    have onward := h.onward_read nofun source done reaches.host
    exact browsed rfl onward.gives.1 nofun onward
  · -- `readBetween`
    refine ensures_resolve source fun deadline => ensures_answer
      ((Channel.readBetween_ensures wf len low high deadline s).mono
        (fun _ r _ reaches done => ?_) fun _ _ _ reaches halts => h.read_few halts reaches.host)
    have onward := h.onward_readBetween nofun source done reaches.host
    exact browsed rfl onward.gives.1 nofun onward
  · -- `seek`
    refine ensures_answer ((c.seek_ensures position s).mono (fun _ r _ reaches done => ?_)
      fun _ _ _ reaches halts => ?_)
    · obtain ⟨r, c'⟩ := r
      refine browsed rfl rfl ?_ (h.onward_seek h.idle done reaches.host)
      cases r <;> exact nofun
    · exact asking_few halts.2.2 halts.2.1
  · -- `tell`
    refine ensures_answer_same ((c.tell_ensures s).mono (fun _ r _ reaches done => ?_)
      fun _ _ _ reaches halts => ?_)
    · exact browsed_of_asked trivial rfl rfl (h.tell done reaches.host).1
    · obtain ⟨spent, few⟩ := h.telling_few halts reaches.host
      exact asking_few spent few
  · -- `size`
    refine ensures_answer_same ((c.size_ensures s).mono (fun _ r _ reaches done => ?_)
      fun _ _ _ reaches halts => asking_few halts.2.2 halts.2.1)
    obtain ⟨m', converses, held⟩ := h.converses reaches.host done.seeks.asks
    obtain ⟨rfl, _⟩ := converses.sized (by rw [h.mirrors.regular]; rfl) h.held.offset_le done
    exact browsed_of_asked trivial rfl rfl ⟨held, h.mirrors, h.fits⟩
  · -- `info`
    exact ensures_pure (browsed_of_asked trivial rfl rfl h)
  · -- `readSome`
    refine ensures_answer ((Channel.readSome_ensures wf len s).mono
      (fun _ r _ reaches done => ?_) fun _ _ _ reaches halts => ?_)
    · obtain ⟨r, c'⟩ := r
      obtain ⟨_, rfl, same⟩ | ⟨reading, received, rfl⟩ := done
      · obtain ⟨rfl, rfl⟩ := Prod.mk.inj same
        obtain ⟨m', converses, held⟩ := h.converses reaches.host (List.forall_mem_nil _)
        cases converses
        exact browsed_of_asked trivial rfl rfl ⟨held, h.mirrors, h.fits⟩
      · obtain ⟨tracks, bytes⟩ := h.read nofun received.toHandsOn reaches.host
        rw [← received.handed_plainResult] at tracks bytes
        exact ⟨trivial, bytes, tracks⟩
    · obtain ⟨spent, few⟩ := h.read_few halts reaches.host
      exact ⟨spent, Nat.le_trans few (Nat.add_le_add_left (by decide : 1 ≤ 6) _)⟩
  · -- `reposition`
    refine ensures_answer ((Channel.reposition_ensures wf target s).mono
      (fun _ r _ reaches done => ?_) fun _ _ _ reaches halts => h.moving_few halts reaches.host)
    obtain ⟨r, c'⟩ := r
    refine browsed rfl rfl ?_ (h.onward_reposition done reaches.host)
    cases r <;> exact nofun

end Tracks

/-! ## Runs -/

/-- **A run of operations that browse**, with anything at all happening elsewhere in between. -/
inductive Browses (path : String) : Channel → Kernel → List (Operation × Answer) → Channel →
    Kernel → Prop
  | nil (c : Channel) (k : Kernel) : Browses path c k [] c k
  | elsewhere {c c' : Channel} {k k' k'' : Kernel} {ds : List (Operation × Answer)} :
      Kernel.Elsewhere c.fd path k k' → Browses path c k' ds c' k'' → Browses path c k ds c' k''
  | operated {c c' c'' : Channel} {k : Kernel} {s s' : System Kernel} {operation : Operation}
      {answer : Answer} {ds : List (Operation × Answer)} : operation.browses = true →
        (operation.run c).runOn s = (.ok (answer, c'), s') → Browses path c' s'.host ds c'' k →
        Browses path c s.host ((operation, answer) :: ds) c'' k

/-- **Operations done one after another** on one system, if each browses and returns. -/
def browseInOrder (c : Channel) (s : System Kernel) :
    List Operation → Option (List (Operation × Answer) × Channel × System Kernel)
  | [] => some ([], c, s)
  | operation :: rest =>
    if operation.browses then
      match (operation.run c).runOn s with
      | (.ok (answer, c'), s') => (browseInOrder c' s' rest).map fun later =>
          ((operation, answer) :: later.1, later.2)
      | _ => none
    else none

theorem browses_of_browseInOrder {path : String} {c c' : Channel} {s s' : System Kernel}
    {operations : List Operation} {ds : List (Operation × Answer)}
    (h : browseInOrder c s operations = some (ds, c', s')) :
    Browses path c s.host ds c' s'.host := by
  induction operations generalizing c s ds with
  | nil =>
    cases h
    exact .nil _ _
  | cons operation rest ih =>
    rw [browseInOrder] at h
    split at h
    · next browses =>
      split at h
      · next answer c₁ s₁ run =>
        obtain ⟨⟨later, after⟩, hlater, same⟩ := Option.map_eq_some_iff.1 h
        obtain ⟨rfl, rfl⟩ := Prod.mk.inj same
        exact .operated browses run (ih hlater)
      · cases h
    · cases h

/-- **A channel reads a file at a position.**  `tell` tells it; whatever browses next returns if the
budget allows it, hands on bytes of the file from there on and moves as it is to; and the bytes read
ahead are the next ones of the file. -/
structure ReadsAt (path : String) (contents : Bytes) (position : Nat) (c : Channel) (k : Kernel) :
    Prop where
  stored : k.bytes? path = some contents
  told : ∀ s : System Kernel, s.host = k → 0 < s.budget → (c.tell.runOn s).1 = .ok (.ok position)
  gives : ∀ (s s' : System Kernel) (operation : Operation) (answer : Answer) (c' : Channel),
    s.host = k → operation.browses = true → (operation.run c).runOn s = (.ok (answer, c'), s') →
      (PlainFile.mk contents position).Gives operation answer ∧
        answer.handed = contents.slice position answer.handed.length
  returns : ∀ operation : Operation, operation.browses = true → ∃ enough, ∀ s : System Kernel,
    s.host = k → enough ≤ s.budget →
      ∃ answer c' s', (operation.run c).runOn s = (.ok (answer, c'), s')
  ahead : c.input.live = contents.slice position c.liveCount
  live : c.input.live.length = c.liveCount

/-- **A channel that tracks a file while reading** reads it at its position. -/
theorem Tracks.readsAt {path : String} {c : Channel} {k : Kernel} {m : Medium} {f : PlainFile}
    (h : Tracks path .reading c k m f) : ReadsAt path f.contents f.position c k := by
  have under : f = m.under c := h.mirrors.file_of_idle h.idle
  have live := ReadAhead.length_live h.mirrors.wellFormed.input
  refine ⟨?_, ?_, ?_, ?_, ?_, live⟩
  · rw [under]
    exact h.held.bytes?_eq
  · rintro s rfl paid
    exact h.tells paid
  · rintro s s' operation answer c' rfl browses run
    obtain ⟨_, _, gives, handed, _⟩ := (h.browse browses).of_ok run
    exact ⟨gives, handed⟩
  · refine fun operation browses =>
      ⟨m.patience + c.output.pending.length + operation.effort + 1, ?_⟩
    rintro s rfl enough
    obtain ⟨es, ⟨answer, c'⟩, s', run, _⟩ := ((h.browse browses).mono (fun _ _ _ _ done => done)
      fun _ _ _ _ halts => ⟨halts.1.2, halts.2⟩).of_enough enough
    exact ⟨answer, c', s', run⟩
  · rw [under, Channel.liveCount, ← live]
    exact h.mirrors.live

/-- **A run of browsing tracks the file**, at the position after. -/
theorem Browses.tracks {path : String} {c c' : Channel} {k k' : Kernel} {m : Medium}
    {contents : Bytes} {position : Nat} {ds : List (Operation × Answer)}
    (browses : Browses path c k ds c' k') (h : Tracks path .reading c k m ⟨contents, position⟩) :
    ∃ m', Tracks path .reading c' k' m'
      ⟨contents, Operation.positionAfterAll position ds⟩ := by
  induction browses generalizing m position with
  | nil => exact ⟨m, h⟩
  | elsewhere other _ ih => exact ih ⟨h.held.elsewhere other, h.mirrors, h.fits⟩
  | operated browses run _ ih =>
    obtain ⟨_, _, _, _, m', tracks⟩ := (h.browse browses).of_ok run
    exact ih tracks

/-! ## Opening -/

/-- The path that an opening opens, and its flags. -/
def Opening.opens? : Opening → Option (String × Flags)
  | .openPath path flags _ | .openConfigured path flags .. => some (path, flags)
  | _ => none

/-- **A path that is opened**, in whichever way, is opened with its flags. -/
theorem Opening.run_opened {κ : Type} [Host κ] {opening : Opening} {path : String} {flags : Flags}
    (opens : opening.opens? = some (path, flags)) (s : System κ) :
    (opening.run).Ensures s (fun es r _ => ∀ c, r = .ok c → ∃ mode config,
      Channel.Opened path flags mode config opening.waiter es c) (fun _ h _ => h = .endless) := by
  rcases opening with ⟨path, flags, mode⟩ | _ | ⟨path, flags, mode, config, waiter⟩ | _ | _
  all_goals cases opens
  all_goals exact Act.ensures_bind_quiet rfl (.refl s) ((Channel.openConfigured_ensures ..).mono
    (fun _ _ _ _ opened c made => ⟨_, _, opened c made⟩) fun _ _ _ _ halt => halt)

/-- **`tell` is the reading position.**  Take a channel that was opened for reading only on a
regular file that is left alone, and any run of reads, moves and questions on it, with or without
failures, whatever the script says about its reads.  The position is where the last move that
succeeded went, or the beginning, and as many bytes farther as were handed on since, those before a
failure included: the channel reads the file there. -/
theorem Browses.readsAt_position {path : String} {flags : Flags} {opening : Opening}
    {s₀ s₁ : System Kernel} {c c' : Channel} {k : Kernel} {ds : List (Operation × Answer)}
    (calm : s₀.host.Calm path) (opens : opening.opens? = some (path, flags))
    (access : flags.access = .readOnly)
    (opened : opening.run.runOn s₀ = (.ok (.ok c), s₁)) (regular : c.kind = .regular)
    (browses : Browses path c s₁.host ds c' k) :
    ∃ contents, s₁.host.bytes? path = some contents ∧
      ReadsAt path contents (Operation.positionAfterAll 0 ds) c' k := by
  obtain ⟨es, reaches, done⟩ := (Opening.run_opened opens s₀).of_ok opened
  obtain ⟨mode, config, done⟩ := done c rfl
  obtain ⟨contents, patience, held⟩ := calm.holds_of_readable
    ⟨by rw [access]; exact nofun, .inl access⟩ done regular reaches.host
  obtain ⟨m, tracks⟩ := browses.tracks (done.blank.tracks regular held)
  exact ⟨contents, held.bytes?_eq, tracks.readsAt⟩

/-! A file whose reads fall short, are interrupted and fail. -/

/-- The kernel of the file. -/
def brittle : System Kernel where
  host := { nodes := [("f", {
    body := .file (.ofBytes [1, 2, 3, 4, 5, 6, 7, 8, 9])
    script := [(.read, { max? := some 1 }), (.read, { errno? := some ⟨4⟩ }), (.read, {}),
      (.read, { errno? := some ⟨5⟩ })] })] }
  budget := 40
  bufferLength := 4

/-- The opening of the file. -/
def brittleOpening : Opening :=
  .openConfigured "f" {} 0 { openMode? := some 0o644 } (.scheduled false)

/-- Its channel. -/
def brittleChannel (input : ReadAhead) : Channel :=
  { fd := 3, kind := .regular, input, output := ⟨[0, 0, 0, 0], 0⟩, verbose := false,
    waiter := .scheduled false }

/-- What is done, and the answers. -/
def brittleRun : List (Operation × Answer) :=
  [(.read 2 .never, .reading ⟨[1, 2], none⟩),
    (.size, .count (.ok 9)),
    (.read 6 .never, .reading ⟨[3, 4, 5], some (.os ⟨5⟩ 3)⟩),
    (.reposition (.current (-1)), .streamCount (.ok 4)),
    (.readSome 3, .streamBytes (.ok [5, 6, 7]))]

/-- The file with a channel opened on it. -/
def brittleOpened : System Kernel := (brittleOpening.run.runOn brittle).2

/-- The file after everything. -/
def brittleEnd : System Kernel :=
  (browseInOrder (brittleChannel ⟨[0, 0, 0, 0], 0, 0⟩) brittleOpened
    (brittleRun.map Prod.fst)).elim brittleOpened fun r => r.2.2

theorem calm_brittle : brittle.host.Calm "f" :=
  Kernel.calm_of_file rfl (List.forall_mem_nil _) (by unfold Fair; decide) (by decide) (by decide)

theorem Browses.readsAt_position_brittle :
    ReadsAt "f" [1, 2, 3, 4, 5, 6, 7, 8, 9] 7 (brittleChannel ⟨[5, 6, 7, 8], 3, 1⟩)
      brittleEnd.host := by
  have opened : brittleOpening.run.runOn brittle =
      (.ok (.ok (brittleChannel ⟨[0, 0, 0, 0], 0, 0⟩)), brittleOpened) := rfl
  have run : browseInOrder (brittleChannel ⟨[0, 0, 0, 0], 0, 0⟩) brittleOpened
      (brittleRun.map Prod.fst) =
        some (brittleRun, brittleChannel ⟨[5, 6, 7, 8], 3, 1⟩, brittleEnd) := by cbv
  obtain ⟨contents, found, readsAt⟩ := Browses.readsAt_position calm_brittle rfl rfl opened rfl
    (browses_of_browseInOrder run)
  obtain rfl : [1, 2, 3, 4, 5, 6, 7, 8, 9] = contents := Option.some.inj found
  exact readsAt

end BufferedChannels
