import Mathlib
import BufferedChannels.Proofs.Mirror
import BufferedChannels.Proofs.RegularFile

/-!
# Proofs/Refinement — buffers that nobody notices

A channel on a regular file `Tracks` a plain file when the kernel holds the file and the channel
mirrors the plain one.  Every operation that is in order gives the answers of the plain file and
tracks it on, whether it succeeds or fails (`Operation.run_tracks`), and so does every run of them.
-/

namespace BufferedChannels

open Simulation

/-- **A channel on a kernel tracks a plain file** in a phase of reading or writing. -/
structure Tracks (path : String) (phase : Phase) (c : Channel) (k : Kernel) (m : Medium)
    (f : PlainFile) : Prop where
  held : k.Holds c.fd path m
  mirrors : Mirrors c m f
  fits : phase.Fits c

/-- **What an operation that is in order leaves**: its answer is one of the plain file, which is
tracked on. -/
structure Onward (path : String) (phase : Phase) (f : PlainFile) (operation : Operation)
    (answer : Answer) (c' : Channel) (k' : Kernel) : Prop where
  gives : f.Gives operation answer
  tracks : ∃ m', Tracks path (phase.after operation answer) c' k' m' (f.after operation answer)

/-- An operation that does not move the position leaves what it read and took. -/
theorem Onward.of_stays {path : String} {phase : Phase} {f : PlainFile} {operation : Operation}
    {answer : Answer} {c' : Channel} {k' : Kernel} (stays : operation.moves = false)
    (gives : f.Gives operation answer)
    (tracks : ∃ m', Tracks path (phase.after operation answer) c' k' m'
      ((f.advance answer.handed.length).store (operation.taken answer))) :
    Onward path phase f operation answer c' k' :=
  ⟨gives, f.after_of_stays stays answer ▸ tracks⟩

namespace Tracks

variable {path : String} {phase : Phase} {c c' : Channel} {k k' : Kernel} {m : Medium}
  {f : PlainFile} {es : Dialogue}

/-- **A dialogue with the file of a channel** leads to a medium that it is held as. -/
theorem converses (h : Tracks path phase c k m f) (leads : Host.Leads k es k')
    (asks : es.Asks c.fd) : ∃ m', m.Converses c.fd es m' ∧ k'.Holds c.fd path m' :=
  h.held.converses leads asks

/-- **A read that is in order** hands on the bytes of the plain file. -/
theorem read (h : Tracks path phase c k m f) (notWriting : phase ≠ .writing) {r : Reading}
    (done : c.HandsOn es r c') (leads : Host.Leads k es k') :
    (∃ m', Tracks path .reading c' k' m' (f.advance r.handed.length)) ∧
      r.handed = f.contents.slice f.position r.handed.length := by
  have idle := h.fits.pending notWriting
  obtain ⟨m', converses, held⟩ := h.converses leads (done.reads.asks h.mirrors.ready)
  obtain ⟨mirrors, bytes⟩ := h.mirrors.read idle done converses
  rw [done.handed]
  refine ⟨⟨m', done.reread.fd ▸ held, mirrors, fun no => absurd rfl no, fun _ => ?_⟩, bytes⟩
  rw [done.reread.output, idle]

/-- A read that does not fail is short only where the plain file ends. -/
theorem read_short (h : Tracks path phase c k m f) (notWriting : phase ≠ .writing)
    {low high : Nat} {r : Reading} (done : c.Received low high es r c')
    (leads : Host.Leads k es k') (fine : r.error? = none) :
    min low f.remaining ≤ r.handed.length := by
  obtain ⟨m', converses, _⟩ := h.converses leads (done.reads.asks h.mirrors.ready)
  rw [done.handed]
  exact h.mirrors.read_short (h.fits.pending notWriting) done converses fine

/-- **A write that is in order** stores what it took. -/
theorem write (h : Tracks path phase c k m f) (notReading : phase ≠ .reading) {data : Bytes}
    {r : Except ChannelError Nat} (done : c.Written data es r c') (leads : Host.Leads k es k') :
    ∃ m', Tracks path .writing c' k' m' (f.store (Channel.takenBy data r)) := by
  have idle := h.fits.live notReading
  obtain ⟨m', converses, held⟩ := h.converses leads (done.writes.asks h.mirrors.ready)
  exact ⟨m', done.rewritten.fd ▸ held,
    h.mirrors.write idle done.rewritten done.writes done.conserved converses,
    fun _ => done.rewritten.input ▸ idle, fun no => absurd rfl no⟩

theorem flush (h : Tracks path phase c k m f) {r : Except ChannelError Unit}
    (done : c.Flushed es r c') (leads : Host.Leads k es k') :
    ∃ m', Tracks path phase c' k' m' f := by
  obtain ⟨m', converses, held⟩ := h.converses leads (done.writes.asks h.mirrors.ready)
  obtain ⟨mirrors, fits⟩ := h.mirrors.flush h.fits done converses
  exact ⟨m', done.rewritten.fd ▸ held, mirrors, fits⟩

theorem tell (h : Tracks path phase c k m f) {r : Except ChannelError Nat} (told : c.Told es r)
    (leads : Host.Leads k es k') :
    Tracks path phase c k' m f ∧ r = .ok (m.under c).position := by
  obtain ⟨m', converses, held⟩ := h.converses leads told.seeks.asks
  obtain ⟨rfl, rfl⟩ := h.mirrors.tell told converses
  exact ⟨⟨held, h.mirrors, h.fits⟩, rfl⟩

theorem target (h : Tracks path phase c k m f) (none : c.output.pending = []) {target : SeekTarget}
    {r : Except ChannelError (Option Nat)} (done : c.Targeted target es r)
    (leads : Host.Leads k es k') : Tracks path phase c k' m f ∧
      ∀ n, r = .ok (some n) → f.Gives (.reposition target) (.streamCount (.ok n)) := by
  obtain ⟨m', converses, held⟩ := h.converses leads done.seeks.1.asks
  obtain ⟨rfl, gives⟩ := h.mirrors.target none h.held.offset_le done converses
  exact ⟨⟨held, h.mirrors, h.fits⟩, gives⟩

/-- **A bare move over nothing pending** sets the position or is refused. -/
theorem seek (h : Tracks path phase c k m f) (none : c.output.pending = []) {position : Nat}
    {r : Except ChannelError Nat} (done : c.Sought position es r c') (leads : Host.Leads k es k') :
    ∃ m', (∃ e, r = .error e ∧ Tracks path phase c' k' m' f) ∨
      r = .ok position ∧ Tracks path .fresh c' k' m' { f with position } := by
  obtain ⟨m', converses, held⟩ := h.converses leads done.seeks.asks
  have fd : c'.fd = c.fd := by rcases done with _ | _ <;> rfl
  obtain ⟨rfl, rfl, e, rfl⟩ | ⟨rfl, mirrors, fits⟩ := h.mirrors.seek none done converses
  · exact ⟨m', .inl ⟨e, rfl, held, h.mirrors, h.fits⟩⟩
  · exact ⟨m', .inr ⟨rfl, fd ▸ held, mirrors, fits⟩⟩

/-- **A move after a flush** sets the position or leaves the plain file as it is. -/
theorem reposition (h : Tracks path phase c k m f) {target : SeekTarget}
    {r : Except StandardError Nat} (done : c.Repositioned target es r c')
    (leads : Host.Leads k es k') :
    ∃ m', (∃ e, r = .error e ∧ Tracks path phase c' k' m' f) ∨
      ∃ position, r = .ok position ∧ Tracks path .fresh c' k' m' { f with position } ∧
        f.Gives (.reposition target) (.streamCount (.ok position)) := by
  rcases done with flushed | ⟨flushed, targeted⟩ | ⟨flushed, targeted⟩ |
    ⟨flushed, targeted, sought⟩
  · obtain ⟨m', tracks⟩ := h.flush flushed leads
    exact ⟨m', .inl ⟨_, rfl, tracks⟩⟩
  · obtain ⟨k₁, sending, asking⟩ := leads.split
    obtain ⟨m₁, tracks⟩ := h.flush flushed sending
    exact ⟨m₁, .inl ⟨_, rfl, (tracks.target (flushed.done rfl).1 targeted asking).1⟩⟩
  · obtain ⟨k₁, sending, asking⟩ := leads.split
    obtain ⟨m₁, tracks⟩ := h.flush flushed sending
    exact ⟨m₁, .inl ⟨_, rfl, (tracks.target (flushed.done rfl).1 targeted asking).1⟩⟩
  · obtain ⟨k₁, sending, rest⟩ := leads.split
    obtain ⟨k₂, asking, moving⟩ := rest.split
    obtain ⟨m₁, tracks⟩ := h.flush flushed sending
    obtain ⟨tracks, gives⟩ := tracks.target (flushed.done rfl).1 targeted asking
    obtain ⟨m', ⟨e, rfl, tracks⟩ | ⟨rfl, tracks⟩⟩ :=
      tracks.seek (flushed.done rfl).1 sought moving
    · exact ⟨m', .inl ⟨_, rfl, tracks⟩⟩
    · exact ⟨m', .inr ⟨_, rfl, tracks, gives _ rfl⟩⟩

/-! ## Halts -/

variable {s : System Kernel} {halt : Halt}

theorem read_few (h : Tracks path phase c k m f) {low : Nat} (halts : c.HaltsReading low es halt s)
    (leads : Host.Leads k es s.host) :
    Spent halt s ∧ es.length ≤ m.patience + c.output.pending.length + low := by
  obtain ⟨m', converses, _⟩ := h.converses leads (halts.2.1.asks h.mirrors.ready)
  obtain ⟨spent, few⟩ := h.mirrors.read_few halts converses leads.moderate
  exact ⟨spent, by omega⟩

theorem write_few (h : Tracks path phase c k m f) (more : Nat)
    (halts : c.HaltsWriting (c.output.pending.length + more) es halt s)
    (leads : Host.Leads k es s.host) :
    Spent halt s ∧ es.length ≤ m.patience + c.output.pending.length + more := by
  obtain ⟨m', converses, _⟩ := h.converses leads (halts.2.1.asks h.mirrors.ready)
  obtain ⟨spent, few⟩ := h.mirrors.write_few halts converses leads.moderate
  exact ⟨spent, by omega⟩

/-- **The descriptor never stands before the bytes read ahead.** -/
theorem not_behind (h : Tracks path phase c k m f) (behind : c.Behind es halt)
    (leads : Host.Leads k es k') : False := by
  obtain ⟨physical, rfl, before, _⟩ := behind
  obtain ⟨m', converses, _⟩ := h.converses leads (Dialogue.Seeks.cons (.here _) .nil).asks
  have ahead := h.mirrors.ahead
  rw [ReadAhead.length_live h.mirrors.wellFormed.input] at ahead
  rcases converses with _ | ⟨reply, _⟩
  cases reply
  exact absurd ahead (Nat.not_le.2 before)

/-- **A move halts** for want of a budget only, and after few exchanges. -/
theorem moving_few (h : Tracks path phase c k m f) {target : SeekTarget}
    (halts : c.HaltsMoving target es halt s) (leads : Host.Leads k es s.host) :
    Spent halt s ∧ es.length ≤ m.patience + c.output.pending.length + 6 := by
  rcases halts with sending | @⟨es, es', _, _, c', flushed, seeks, few, spent⟩ |
    @⟨es, es', _, _, c', delta, flushed, _, behind⟩
  · obtain ⟨spent, few⟩ := h.write_few 0 sending leads
    exact ⟨spent, Nat.le_add_right_of_le few⟩
  · obtain ⟨k₁, sending, _⟩ := leads.split
    obtain ⟨m₁, converses, _⟩ := h.converses sending (flushed.writes.asks h.mirrors.ready)
    have sent := h.mirrors.flush_few flushed converses
    rw [List.length_append]
    exact ⟨spent, by omega⟩
  · obtain ⟨k₁, sending, asking⟩ := leads.split
    obtain ⟨m₁, tracks⟩ := h.flush flushed sending
    exact (tracks.not_behind behind asking).elim

theorem telling_few (h : Tracks path phase c k m f)
    (halts : c.HaltsAsking es halt s ∨ c.Behind es halt) (leads : Host.Leads k es s.host) :
    Spent halt s ∧ es.length ≤ 3 := by
  obtain ⟨_, few, spent⟩ | behind := halts
  · exact ⟨spent, few⟩
  · exact (h.not_behind behind leads).elim

/-! ## Operations -/

/-- **A read gives what it hands on**, and all of it unless it fails. -/
theorem onward_read (h : Tracks path phase c k m f) (notWriting : phase ≠ .writing) {len : Nat}
    (source : DeadlineSource) {r : Reading} (done : c.Received len len es r c')
    (leads : Host.Leads k es k') :
    Onward path phase f (.read len source) (.reading r) c' k' := by
  obtain ⟨tracks, bytes⟩ := h.read notWriting done.toHandsOn leads
  have le : r.handed.length ≤ len := done.handed ▸ done.le leads.moderate
  refine .of_stays rfl ⟨bytes, ?_⟩ tracks
  intro fine
  refine Nat.le_antisymm ?_ (h.read_short notWriting done leads fine)
  exact Nat.le_min.2 ⟨le, Bytes.length_le_of_eq_slice bytes⟩

/-- A read between marks gives what it hands on, and none when its marks do not fit. -/
theorem onward_readBetween (h : Tracks path phase c k m f) (notWriting : phase ≠ .writing)
    {len low high : Nat} (source : DeadlineSource) {r : Reading}
    (done : (low ≤ high ∧ high ≤ len ∧ c.Received low high es r c') ∨
      ((high < low ∨ len < high) ∧ c.Refused es r c')) (leads : Host.Leads k es k') :
    Onward path phase f (.readBetween len low high source) (.reading r) c' k' := by
  obtain ⟨_, _, done⟩ | ⟨_, refused⟩ := done
  · obtain ⟨tracks, bytes⟩ := h.read notWriting done.toHandsOn leads
    have le : r.handed.length ≤ high := done.handed ▸ done.le leads.moderate
    refine .of_stays rfl ⟨bytes, ?_⟩ tracks
    intro fine
    exact ⟨le, h.read_short notWriting done leads fine⟩
  · obtain ⟨tracks, bytes⟩ := h.read notWriting (refused.handsOn h.mirrors.wellFormed) leads
    obtain ⟨rule, error⟩ := refused.error
    refine .of_stays rfl ⟨bytes, ?_⟩ tracks
    intro fine
    simp [error] at fine

/-- **A write takes all of its data**, unless it fails. -/
theorem onward_write (h : Tracks path phase c k m f) (notReading : phase ≠ .reading) {data : Bytes}
    (source : DeadlineSource) {r : Except ChannelError Nat} (done : c.Written data es r c')
    (leads : Host.Leads k es k') :
    Onward path phase f (.write data source) (.count r) c' k' := by
  refine .of_stays rfl ?_ (h.write notReading done leads)
  rcases r with e | n
  · trivial
  · exact done.counted leads.moderate n rfl

theorem onward_seek (h : Tracks path phase c k m f) (none : c.output.pending = []) {position : Nat}
    {r : Except ChannelError Nat} (done : c.Sought position es r c') (leads : Host.Leads k es k') :
    Onward path phase f (.seek position) (.count r) c' k' := by
  obtain ⟨m', ⟨e, rfl, tracks⟩ | ⟨rfl, tracks⟩⟩ := h.seek none done leads
  · exact ⟨trivial, m', f.store_nil ▸ tracks⟩
  · exact ⟨rfl, m', tracks⟩

theorem onward_reposition (h : Tracks path phase c k m f) {target : SeekTarget}
    {r : Except StandardError Nat} (done : c.Repositioned target es r c')
    (leads : Host.Leads k es k') :
    Onward path phase f (.reposition target) (.streamCount r) c' k' := by
  obtain ⟨m', ⟨e, rfl, tracks⟩ | ⟨position, rfl, tracks, gives⟩⟩ := h.reposition done leads
  · refine ⟨?_, m', f.store_nil ▸ tracks⟩
    rcases target with _ | _ | _ <;> trivial
  · exact ⟨gives, m', tracks⟩

/-- **Every operation that is in order** gives the answers of the plain file and tracks it on, and
halts for want of a budget only. -/
theorem run (h : Tracks path phase c s.host m f) {operation : Operation}
    (allowed : phase.Allows c operation) : (operation.run c).Ensures s
      (fun _ r s' => Onward path phase f operation r.1 r.2 s'.host)
      (fun es halt s' => Spent halt s' ∧
        es.length ≤ m.patience + c.output.pending.length + operation.effort) := by
  have wf := h.mirrors.wellFormed
  rcases operation with ⟨len, source⟩ | ⟨len, low, high, source⟩ | ⟨data, source⟩ | source |
    position | _ | _ | _ | _ | _ | _ | target
  · -- `read`
    exact ensures_resolve source fun deadline => ensures_answer
      ((Channel.read_ensures wf len deadline s).mono
        (fun _ _ _ reaches done => h.onward_read allowed source done reaches.host)
        fun _ _ _ reaches halts => h.read_few halts reaches.host)
  · -- `readBetween`
    exact ensures_resolve source fun deadline => ensures_answer
      ((Channel.readBetween_ensures wf len low high deadline s).mono
        (fun _ _ _ reaches done => h.onward_readBetween allowed source done reaches.host)
        fun _ _ _ reaches halts => h.read_few halts reaches.host)
  · -- `write`
    exact ensures_resolve source fun deadline => ensures_answer
      ((Channel.write_ensures wf data deadline s).mono
        (fun _ _ _ reaches done => h.onward_write allowed source done reaches.host)
        fun _ _ _ reaches halts => h.write_few data.length halts reaches.host)
  · -- `flush`
    refine ensures_resolve source fun deadline => ensures_answer
      ((Channel.flush_ensures wf deadline s).mono (fun _ _ _ reaches done => ?_)
        fun _ _ _ reaches halts => ?_)
    · exact .of_stays rfl trivial (h.flush done reaches.host)
    · obtain ⟨spent, few⟩ := h.write_few 0 halts reaches.host
      exact ⟨spent, Nat.le_add_right_of_le few⟩
  · -- `seek`
    have none : c.output.pending = [] := by
      rw [← List.length_eq_zero_iff, WriteBehind.length_pending wf.output]
      exact allowed
    refine ensures_answer ((c.seek_ensures position s).mono
      (fun _ _ _ reaches done => h.onward_seek none done reaches.host) fun _ _ _ _ halts => ?_)
    obtain ⟨_, few, spent⟩ := halts
    exact ⟨spent, Nat.le_add_left_of_le (Nat.le_trans few (by decide : 3 ≤ 6))⟩
  · -- `tell`
    refine ensures_answer_same ((c.tell_ensures s).mono (fun _ _ _ reaches done => ?_)
      fun _ _ _ reaches halts => ?_)
    · exact .of_stays rfl trivial ⟨m, (h.tell done reaches.host).1⟩
    · obtain ⟨spent, few⟩ := h.telling_few halts reaches.host
      exact ⟨spent, Nat.le_add_left_of_le (Nat.le_trans few (by decide : 3 ≤ 6))⟩
  iterate 5 exact False.elim allowed
  · -- `reposition`
    exact ensures_answer ((Channel.reposition_ensures wf target s).mono
      (fun _ _ _ reaches done => h.onward_reposition done reaches.host)
      fun _ _ _ reaches halts => h.moving_few halts reaches.host)

end Tracks

/-! ## Runs -/

/-- **A run of operations that are in order** on a channel, with anything at all happening elsewhere
in between. -/
inductive Uses (path : String) : Phase → Channel → Kernel → List (Operation × Answer) → Phase →
    Channel → Kernel → Prop
  | nil (phase : Phase) (c : Channel) (k : Kernel) : Uses path phase c k [] phase c k
  | elsewhere {phase phase' : Phase} {c c' : Channel} {k k' k'' : Kernel}
      {ds : List (Operation × Answer)} : Kernel.Elsewhere c.fd path k k' →
        Uses path phase c k' ds phase' c' k'' → Uses path phase c k ds phase' c' k''
  | operated {phase phase' : Phase} {c c' c'' : Channel} {k : Kernel} {s s' : System Kernel}
      {operation : Operation} {answer : Answer} {ds : List (Operation × Answer)} :
        phase.Allows c operation → (operation.run c).runOn s = (.ok (answer, c'), s') →
        Uses path (phase.after operation answer) c' s'.host ds phase' c'' k →
        Uses path phase c s.host ((operation, answer) :: ds) phase' c'' k

/-- **Operations done one after another** on one system, if each is in order and returns. -/
def doneInOrder (phase : Phase) (c : Channel) (s : System Kernel) :
    List Operation → Option (List (Operation × Answer) × Phase × Channel × System Kernel)
  | [] => some ([], phase, c, s)
  | operation :: rest =>
    if phase.Allows c operation then
      match (operation.run c).runOn s with
      | (.ok (answer, c'), s') =>
        (doneInOrder (phase.after operation answer) c' s' rest).map fun later =>
          ((operation, answer) :: later.1, later.2)
      | _ => none
    else none

theorem uses_of_doneInOrder {path : String} {phase phase' : Phase} {c c' : Channel}
    {s s' : System Kernel} {operations : List Operation} {ds : List (Operation × Answer)}
    (h : doneInOrder phase c s operations = some (ds, phase', c', s')) :
    Uses path phase c s.host ds phase' c' s'.host := by
  induction operations generalizing phase c s ds with
  | nil =>
    cases h
    exact .nil _ _ _
  | cons operation rest ih =>
    rw [doneInOrder] at h
    split at h
    · next allowed =>
      split at h
      · next answer c₁ s₁ run =>
        obtain ⟨⟨later, after⟩, hlater, same⟩ := Option.map_eq_some_iff.1 h
        obtain ⟨rfl, rfl⟩ := Prod.mk.inj same
        exact .operated allowed run (ih hlater)
      · cases h
    · cases h

/-- **What a channel shows of a plain file**: `tell` and the pending bytes give the position, the
file with the pending bytes stored gives the contents, and every operation that is in order returns
if the budget allows it. -/
structure Shows (path : String) (phase : Phase) (c : Channel) (k : Kernel) (f : PlainFile) : Prop
    where
  told : ∀ s r s', s.host = k → c.tell.runOn s = (.ok r, s') →
    ∃ n, r = .ok n ∧ n + c.pendingCount = f.position
  stored : ∃ contents, k.bytes? path = some contents ∧
    f.contents = contents.storeAt (f.position - c.pendingCount) c.output.pending
  returns : ∀ operation, phase.Allows c operation → ∃ enough, ∀ s : System Kernel, s.host = k →
    enough ≤ s.budget → ∃ answer c' s', (operation.run c).runOn s = (.ok (answer, c'), s')

theorem Tracks.shows {path : String} {phase : Phase} {c : Channel} {k : Kernel} {m : Medium}
    {f : PlainFile} (h : Tracks path phase c k m f) : Shows path phase c k f := by
  have pending : c.pendingCount = c.output.pending.length :=
    (WriteBehind.length_pending h.mirrors.wellFormed.output).symm
  have position : f.position = (m.under c).position + c.pendingCount := by
    rw [pending, h.mirrors.file]
    rfl
  refine ⟨fun s r s' host run => ?_, ⟨m.contents, h.held.bytes?_eq, ?_⟩, fun operation allowed =>
    ⟨m.patience + c.output.pending.length + operation.effort + 1, fun s host enough => ?_⟩⟩
  · subst host
    obtain ⟨es, reaches, told⟩ := (c.tell_ensures s).of_ok run
    obtain ⟨_, rfl⟩ := h.tell told reaches.host
    exact ⟨_, rfl, position.symm⟩
  · rw [position, Nat.add_sub_cancel, h.mirrors.file]
    rfl
  · subst host
    obtain ⟨es, ⟨answer, c'⟩, s', run, _⟩ := ((h.run allowed).mono (fun _ _ _ _ done => done)
      fun _ _ _ _ halts => ⟨halts.1.2, halts.2⟩).of_enough enough
    exact ⟨answer, c', s', run⟩

/-- **A blank channel** tracks the file that is held behind it, from the beginning. -/
theorem Channel.Blank.tracks {path : String} {phase : Phase} {c : Channel} {k : Kernel}
    {start : Bytes} {patience : Nat} (blank : c.Blank) (regular : c.kind = .regular)
    (held : k.Holds c.fd path ⟨start, 0, patience⟩) :
    Tracks path phase c k ⟨start, 0, patience⟩ ⟨start, 0⟩ := by
  refine ⟨held, ⟨blank.toWellFormed, regular, ?_, ?_, ?_⟩, fun _ => blank.live,
    fun _ => blank.pending⟩
  · rw [blank.live]
    exact Nat.le_refl 0
  · rw [blank.live]
    rfl
  · rw [blank.pending, PlainFile.store_nil, Medium.under, blank.live]
    rfl

/-- **A run tracks the plain file.** -/
theorem Uses.tracks {path : String} {phase phase' : Phase} {c c' : Channel} {k k' : Kernel}
    {m : Medium} {f : PlainFile} {ds : List (Operation × Answer)}
    (uses : Uses path phase c k ds phase' c' k') (h : Tracks path phase c k m f) :
    f.Follows ds ∧ ∃ m', Tracks path phase' c' k' m' (f.afterAll ds) := by
  induction uses generalizing m f with
  | nil phase c k => exact ⟨trivial, m, h⟩
  | elsewhere other _ ih => exact ih ⟨h.held.elsewhere other, h.mirrors, h.fits⟩
  | operated allowed run _ ih =>
    obtain ⟨_, _, gives, _, tracks⟩ := (h.run allowed).of_ok run
    obtain ⟨follows, tracks⟩ := ih tracks
    exact ⟨⟨gives, follows⟩, tracks⟩

/-- **Buffers that nobody notices.**  Take a regular file that is left alone, opened for reading and
writing but not for appending, and any run of operations that are in order: whatever the script says
about reads and writes, their answers are those of a plain file with one position, and the channel
shows that file after every run. -/
theorem Uses.refines_plainFile {path : String} {flags : Flags} {mode : Nat} {config : Config}
    {waiter : Waiter} {s₀ s₁ : System Kernel} {phase : Phase} {c c' : Channel} {k : Kernel}
    {ds : List (Operation × Answer)} (calm : s₀.host.Calm path)
    (access : flags.access = .readWrite) (append : flags.append = false)
    (opened : (Channel.openConfigured path flags mode config waiter).runOn s₀ = (.ok (.ok c), s₁))
    (regular : c.kind = .regular) (uses : Uses path .fresh c s₁.host ds phase c' k) :
    ∃ start, s₁.host.bytes? path = some start ∧ (PlainFile.mk start 0).Follows ds ∧
      Shows path phase c' k ((PlainFile.mk start 0).afterAll ds) := by
  obtain ⟨es, reaches, done⟩ :=
    (Channel.openConfigured_ensures path flags mode config waiter s₀).of_ok opened
  have done := done c rfl
  obtain ⟨start, patience, held⟩ :=
    calm.holds_of_opened access append done regular reaches.host
  obtain ⟨follows, m, tracks⟩ := uses.tracks (done.blank.tracks regular held)
  exact ⟨start, held.bytes?_eq, follows, tracks.shows⟩

/-! A file on which a flush is cut short and fails, and a read is interrupted and then short. -/

/-- The kernel of the file. -/
def frayed : System Kernel where
  host := { nodes := [("f", {
    body := .file (.ofBytes [1, 2, 3, 4, 5, 6])
    script := [(.write, { max? := some 1 }), (.write, { errno? := some ⟨5⟩ }),
      (.read, { errno? := some ⟨4⟩ }), (.read, { max? := some 1 })] })] }
  budget := 40
  bufferLength := 4

/-- The opening of the file. -/
def frayedOpening : Act Kernel (Except ChannelError Channel) :=
  Channel.openConfigured "f" { access := .readWrite } 0o644 {} (.scheduled false)

/-- Its channel. -/
def frayedChannel (input : ReadAhead) (output : WriteBehind) (ended : Bool) : Channel :=
  { fd := 3, kind := .regular, input, output, ended, verbose := false, waiter := .scheduled false }

/-- What is done, and the answers. -/
def frayedRun : List (Operation × Answer) :=
  [(.write [7, 8, 9] .never, .count (.ok 3)),
    (.flush .never, .finished (.error (.os ⟨5⟩ 1))),
    (.reposition (.finish (-2)), .streamCount (.ok 4)),
    (.read 4 .never, .reading ⟨[5, 6], none⟩)]

/-- The file with a channel opened on it. -/
def frayedOpened : System Kernel := (frayedOpening.runOn frayed).2

/-- The file after everything. -/
def frayedEnd : System Kernel :=
  (doneInOrder .fresh (frayedChannel ⟨[0, 0, 0, 0], 0, 0⟩ ⟨[0, 0, 0, 0], 0⟩ false) frayedOpened
    (frayedRun.map Prod.fst)).elim frayedOpened fun r => r.2.2.2

theorem calm_frayed : frayed.host.Calm "f" :=
  Kernel.calm_of_file rfl (List.forall_mem_nil _) (by unfold Fair; decide) (by decide) (by decide)

theorem Uses.refines_plainFile_frayed :
    (PlainFile.mk [1, 2, 3, 4, 5, 6] 0).Follows frayedRun ∧
      Shows "f" .reading (frayedChannel ⟨[6, 0, 0, 0], 0, 0⟩ ⟨[8, 9, 9, 0], 0⟩ true) frayedEnd.host
        ⟨[7, 8, 9, 4, 5, 6], 6⟩ := by
  have opened : frayedOpening.runOn frayed =
      (.ok (.ok (frayedChannel ⟨[0, 0, 0, 0], 0, 0⟩ ⟨[0, 0, 0, 0], 0⟩ false)), frayedOpened) := rfl
  have run : doneInOrder .fresh (frayedChannel ⟨[0, 0, 0, 0], 0, 0⟩ ⟨[0, 0, 0, 0], 0⟩ false)
      frayedOpened (frayedRun.map Prod.fst) = some (frayedRun, .reading,
        frayedChannel ⟨[6, 0, 0, 0], 0, 0⟩ ⟨[8, 9, 9, 0], 0⟩ true, frayedEnd) := by cbv
  obtain ⟨start, found, follows, shows⟩ :=
    Uses.refines_plainFile calm_frayed rfl rfl opened rfl (uses_of_doneInOrder run)
  obtain rfl : [1, 2, 3, 4, 5, 6] = start := Option.some.inj found
  exact ⟨follows, shows⟩

end BufferedChannels
