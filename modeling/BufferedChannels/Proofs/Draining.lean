import Mathlib
import BufferedChannels.Proofs.Delays
import BufferedChannels.Proofs.EndOfStream
import BufferedChannels.Proofs.HungUp

/-!
# Proofs/Draining — reading to the end

A file of the simulated kernel that nothing is added to, and a stream that hung up, are sources that
do not grow: every dialogue of reads **draws** from what is left of them (`Kernel.Yields.draws`).  A
loop that reads at least a byte at a time until the end of the stream comes to an end there, and it
has brought **every byte once, in order** (`Channel.drain_ensures`).
-/

namespace BufferedChannels

namespace Simulation

/-! ## Files, and streams that hung up -/

/-- **What is left to read** from a position on: the rest of a file, and what is unread of a stream
that hung up. -/
def Body.rest? (position : Nat) : Body → Option Bytes
  | .file contents => some (contents.toBytes.drop position)
  | .stream s => if s.hungUp then some s.unread else none
  | _ => none

/-- **A script that spares reads**: one that succeeds may bring a byte. -/
def SparesReads (script : List (CallKind × Adjustment)) : Prop :=
  ∀ item ∈ script, item.1 = .read → item.2.max? ≠ some 0

/-- A stimulus that brings no bytes leaves what is left to read. -/
theorem Stimulus.rest?_apply {s : Stimulus} (adds : s.push = []) {node : Node} {position : Nat}
    {rest : Bytes} (left : node.body.rest? position = some rest) :
    (s.apply node).body.rest? position = some rest := by
  obtain ⟨contents | contents | stream, script⟩ := node
  · rw [← left]
    simp [Stimulus.apply, Body.rest?, adds]
  · cases left
  · cases hungUp : stream.hungUp with
    | false => simp [Body.rest?, hungUp] at left
    | true => simpa [Stimulus.apply, Body.rest?, hungUp, adds] using left

namespace Kernel

/-- **A descriptor yields a source** that does not grow: it may be read, and so many bytes are left
of what stands behind it. -/
structure Yields (k : Kernel) (fd : Int) (path : String) (rest : Bytes) : Prop where
  opened : ∃ file, k.descriptors.lookup fd = some file ∧ file.node = path ∧
    file.flags.access ≠ .writeOnly ∧ ∃ node, k.node? path = some node ∧
      node.body.rest? file.offset = some rest ∧ SparesReads node.script
  events : ∀ event ∈ k.events, event.2.node = path → event.2.push = []

variable {k k' : Kernel} {fd : Int} {path : String} {rest : Bytes}

theorem Yields.allocate (h : k.Yields fd path rest) : k.allocate.2.Yields fd path rest :=
  ⟨h.opened, h.events⟩

theorem Yields.befall (h : k.Yields fd path rest) {s : Stimulus}
    (adds : s.node = path → s.push = []) : (k.befall s).Yields fd path rest := by
  obtain ⟨file, found, here, readable, node, stored, left, spares⟩ := h.opened
  unfold Kernel.befall
  split
  · next node' found' =>
    refine ⟨⟨file, found, here, readable, ?_⟩, h.events⟩
    rw [node?_setNode]
    by_cases same : path = s.node
    · rw [← same] at found'
      obtain rfl := Option.some.inj (stored.symm.trans found')
      rw [if_pos same]
      exact ⟨_, rfl, s.rest?_apply (adds same.symm) left, spares⟩
    · rw [if_neg same]
      exact ⟨node, stored, left, spares⟩
  · exact h

theorem Yields.befallAll (h : k.Yields fd path rest) {due : List (Nat × Stimulus)}
    (adds : ∀ event ∈ due, event.2.node = path → event.2.push = []) :
    (due.foldl (fun k event => k.befall event.2) k).Yields fd path rest := by
  induction due generalizing k with
  | nil => exact h
  | cons event due ih =>
    obtain ⟨first, later⟩ := List.forall_mem_cons.1 adds
    exact ih (h.befall first) later

/-- **Time that passes** adds nothing. -/
theorem Yields.advanceTo (h : k.Yields fd path rest) (instant : Nat) :
    (k.advanceTo instant).Yields fd path rest := by
  have elapsed (clock : Nat) : Yields { k with
      clock, events := k.events.dropWhile fun event => event.1 ≤ clock } fd path rest :=
    ⟨h.opened, fun event mem => h.events event ((List.dropWhile_sublist _).mem mem)⟩
  exact (elapsed _).befallAll fun event mem => h.events event ((List.takeWhile_sublist _).mem mem)

/-- No stimulus takes back that the other end hung up. -/
theorem ended_onShape (s : Stimulus) (shape : Shape) (ends : Pledge.ended.Allows shape) :
    Pledge.ended.Allows (s.onShape shape) := by
  intro broken is
  cases shape with
  | stream hungUp before =>
    obtain ⟨open_, _⟩ := Bool.or_eq_false_iff.1 (Shape.stream.inj is).1
    exact ends before (congrArg (Shape.stream · before) open_)
  | _ => cases is

/-- What yields a source is no stream whose other end is still there. -/
theorem Yields.keeps (h : k.Yields fd path rest) : k.Keeps .ended fd path := by
  obtain ⟨file, found, here, _, node, stored, left, _⟩ := h.opened
  refine ⟨⟨⟨node, stored, fun broken is => ?_⟩, fun event _ _ => ended_onShape event.2⟩,
    file, found, here⟩
  obtain ⟨body, script⟩ := node
  cases body with
  | stream stream =>
    rw [Body.rest?, (Shape.stream.inj is).1] at left
    cases left
  | _ => cases is

/-- **The script has its word.** -/
theorem Yields.consult (h : k.Yields fd path rest) (kind : CallKind) :
    (k.consult path kind).2.Yields fd path rest ∧
      (k.consult path kind).2.descriptors = k.descriptors ∧
      (kind = .read → (k.consult path kind).1.max? ≠ some 0) := by
  obtain ⟨file, found, here, readable, node, stored, left, spares⟩ := h.opened
  obtain ⟨word, subset⟩ := takeAdjustment_spec kind node.script
  have spent : Yields (k.setNode path { node with
      script := (takeAdjustment kind node.script).2 }) fd path rest :=
    ⟨⟨file, found, here, readable, _, (node?_setNode ..).trans (if_pos rfl), left,
      fun item mem => spares item (subset item mem)⟩, h.events⟩
  refine ⟨?_, (h.keeps.toBears.consult kind).1.descriptors, fun reads => ?_⟩
  · rw [consult_of_node stored]
    exact spent.advanceTo _
  · rw [consult_of_node stored]
    obtain none | ⟨mem, _⟩ := word
    · rw [none]
      nofun
    · exact spares _ mem reads

/-- **A call for bytes**: the script has it fail, or it does what it does where the descriptor
stands, and moves a byte at least if there is any. -/
theorem Yields.onDescriptor (h : k.Yields fd path rest)
    (act : Kernel → OpenFile → Body → Option Nat → Except Errno Bytes × Kernel) :
    ∃ k₁, k₁.Yields fd path rest ∧
      ((∃ x, k.onDescriptor fd .read act = (.error x, k₁)) ∨
        ∃ file body script max?, k₁.descriptors.lookup fd = some file ∧ file.node = path ∧
          file.flags.access ≠ .writeOnly ∧ k₁.node? path = some { body, script } ∧
          body.rest? file.offset = some rest ∧ SparesReads script ∧ max? ≠ some 0 ∧
          k.onDescriptor fd .read act = act k₁ file body max?) := by
  obtain ⟨file, found, rfl, _⟩ := h.opened
  obtain ⟨yields, descriptors, brings⟩ := h.consult .read
  refine ⟨(k.consult file.node .read).2, yields, ?_⟩
  unfold Kernel.onDescriptor
  rw [found]
  dsimp only
  cases errno : (k.consult file.node .read).1.errno? with
  | some x => exact .inl ⟨x, rfl⟩
  | none =>
    obtain ⟨file', found', _, readable, ⟨body, script⟩, stored, left, spares⟩ := yields.opened
    obtain rfl := Option.some.inj (found.symm.trans (descriptors ▸ found'))
    refine .inr ⟨file, body, script, (k.consult file.node .read).1.max?, found', rfl, readable,
      stored, left, spares, brings rfl, ?_⟩
    rw [stored]

/-- **A read** draws from the source. -/
theorem Yields.read (h : k.Yields fd path rest) {len : Nat} (pos : 0 < len) :
    ∃ rest', (k.read fd len).2.Yields fd path rest' ∧
      (((∃ x, (k.read fd len).1 = .error x) ∧ rest = rest') ∨
        ∃ bytes, (k.read fd len).1 = .ok bytes ∧ rest = bytes ++ rest' ∧
          (bytes = [] → rest' = [])) := by
  unfold Kernel.read
  obtain ⟨k₁, yields, ⟨x, run⟩ | ⟨file, body, script, max?, found, here, readable, stored, left,
    spares, brings, run⟩⟩ := h.onDescriptor _
  all_goals rw [run]
  · exact ⟨rest, yields, .inl ⟨⟨x, rfl⟩, rfl⟩⟩
  dsimp only
  rw [if_neg readable]
  have some : 0 < limited len max? := limited_pos pos brings
  -- Only at the end of the source a first part of it is empty.
  have only {source : Bytes} (none : source.take (limited len max?) = []) : source = [] :=
    (List.take_eq_nil_iff.1 none).resolve_left (Nat.ne_of_gt some)
  rcases body with contents | contents | stream
  · obtain rfl := Option.some.inj left
    have bytes : contents.read file.offset (limited len max?) =
        (contents.toBytes.drop file.offset).take (limited len max?) := contents.read_eq_slice ..
    refine ⟨contents.toBytes.drop (file.offset +
      (contents.read file.offset (limited len max?)).length), ?_, .inr ⟨_, rfl, ?_, fun none => ?_⟩⟩
    · exact ⟨⟨_, (lookup_assign ..).trans (if_pos rfl), here, readable, _, stored, rfl, spares⟩,
        yields.events⟩
    · rw [bytes, ← List.drop_drop]
      exact (List.prefix_iff_eq_append.1 (List.take_prefix ..)).symm
    · rw [none, List.length_nil, Nat.add_zero]
      exact only (bytes ▸ none)
  · cases left
  · cases hungUp : stream.hungUp with
    | false => simp [Body.rest?, hungUp] at left
    | true =>
      obtain rfl : stream.unread = rest := by simpa [Body.rest?, hungUp] using left
      dsimp only
      split
      · next ends =>
        have empty : stream.unread = [] := by simp_all
        exact ⟨stream.unread, yields, .inr ⟨[], rfl, rfl, fun _ => empty⟩⟩
      · refine ⟨stream.unread.drop (limited len max?), ?_,
          .inr ⟨_, rfl, (List.take_append_drop ..).symm, fun none => ?_⟩⟩
        · subst here
          rw [setBody_of_node stored]
          exact ⟨⟨file, found, rfl, readable, _, (node?_setNode ..).trans (if_pos rfl),
            if_pos hungUp, spares⟩, yields.events⟩
        · rw [only none, List.drop_nil]

/-- **A poll** leaves the source as it is. -/
theorem Yields.poll (h : k.Yields fd path rest) (direction : Direction) (timeout : Option Nat) :
    (k.poll fd direction timeout).2.Yields fd path rest := by
  have expires (k : Kernel) (h : k.Yields fd path rest) (limit? : Option Nat) :
      (k.expire limit?).2.Yields fd path rest := by
    cases limit? with
    | none => exact h
    | some limit => exact h.advanceTo limit
  obtain ⟨file, found, rfl, _⟩ := h.opened
  have yields := (h.consult .poll).1
  unfold Kernel.poll
  rw [found]
  dsimp only
  split
  · exact yields
  · exact awaitNode_of_ways (P := (·.Yields fd file.node rest))
      (R := fun _ r => r.2.Yields fd file.node rest) (fun _ h _ => h) (fun k h _ => expires k h _)
      (fun _ instant h => ⟨h.advanceTo instant, fun _ later => later⟩) _ yields

/-- **A word with the scheduler** leaves it as well. -/
theorem Yields.wait (h : k.Yields fd path rest) (direction : Direction) :
    (k.wait direction).2.Yields fd path rest := by
  unfold Kernel.wait
  split
  · exact h
  · next wakes _ =>
    have yields : Yields { k with wakes := wakes } fd path rest := ⟨h.opened, h.events⟩
    exact yields.advanceTo _

/-- **A dialogue of reads draws** from what a descriptor yields. -/
theorem Yields.draws {c : Channel} {es : Dialogue} (h : k.Yields c.fd path rest)
    (leads : Host.Leads k es k') (reads : es.Reads c) (uses : ∀ e ∈ es, e.Uses c.fd) :
    ∃ rest', es.Draws c.fd rest rest' ∧ k'.Yields c.fd path rest' := by
  induction leads generalizing rest with
  | nil k => exact ⟨rest, .nil rest, h⟩
  | @cons k k' es r _ ih =>
    obtain ⟨first, later⟩ := List.forall_mem_cons.1 reads
    obtain ⟨use, others⟩ := List.forall_mem_cons.1 uses
    cases r with
    | read target len =>
      obtain rfl : target = c.fd := use
      obtain ⟨_, no⟩ | ⟨len', reply, pos, is⟩ := first
      · cases no
      obtain ⟨same, _⟩ := Exchange.mk.inj is
      obtain ⟨_, rfl⟩ := Request.read.inj same
      obtain ⟨rest₁, yields, brought⟩ := h.read pos
      obtain ⟨rest', draws, yields'⟩ := ih yields later others
      refine ⟨rest', ?_, yields'⟩
      show Dialogue.Draws c.fd rest (Descriptor.reading c.fd len (k.read c.fd len).1 :: es) rest'
      obtain ⟨⟨x, reply⟩, rfl⟩ | ⟨bytes, reply, rfl, only⟩ := brought
      · rw [reply]
        exact .idle rfl rfl draws
      · rw [reply]
        exact .read only draws
    | poll target direction timeout =>
      obtain rfl : target = c.fd := use
      obtain ⟨rest', draws, yields⟩ := ih (h.poll direction timeout) later others
      exact ⟨rest', .idle rfl rfl draws, yields⟩
    | wait target direction left =>
      obtain ⟨rest', draws, yields⟩ := ih (h.wait direction) later others
      exact ⟨rest', .idle rfl rfl draws, yields⟩
    | _ =>
      obtain ⟨_, no⟩ | ⟨_, _, _, is⟩ := first
      · cases no
      · cases is
  | allocate _ ih => exact ih h.allocate reads uses

/-- Readers are not blocked where the other end hung up. -/
theorem not_blocks_of_ended (h : k.Keeps .ended fd path) : ¬ k.Blocks path .readable := by
  rintro ⟨node, stored, unready⟩
  obtain ⟨node', found, ends⟩ := h.stored
  obtain rfl := Option.some.inj (found.symm.trans stored)
  obtain ⟨body, script⟩ := node'
  cases body with
  | stream stream =>
    cases hungUp : stream.hungUp with
    | true => simp [Body.isReady, hungUp] at unready
    | false => exact ends stream.broken (congrArg (Shape.stream · stream.broken) hungUp)
  | _ => cases unready

end Kernel

end Simulation

open Simulation

/-! ## The loop -/

/-- **Marks for a read** of at least one byte, in their order, and a deadline for it. -/
structure Marks where
  len : Nat
  low : Nat
  high : Nat
  deadline : Deadline
  pos : 0 < low
  ordered : low ≤ high
  fits : high ≤ len

namespace Channel

/-- **Reads until the end of the stream**, between marks that may change from call to call, as long
as no call fails: the bytes of all calls, and the failure of the last. -/
def drain {κ : Type} [Host κ] (c : Channel) : List Marks → Act κ (Reading × Channel)
  | [] => return (⟨[], none⟩, c)
  | m :: rest => do
    if c.ended then return (⟨[], none⟩, c)
    let (reading, c) ← c.readBetween m.len m.low m.high m.deadline
    match reading.error? with
    | some _ => return (reading, c)
    | none =>
      let (later, c) ← c.drain rest
      return (⟨reading.bytes ++ later.bytes, later.error?⟩, c)

variable {c c' : Channel} {path : String} {rest rest' : Bytes}

/-- **What one call of the loop fetches**: a first part of what is buffered and left, and at least
a byte of it before the end. -/
structure Fetched (c : Channel) (rest : Bytes) (r : Reading) (c' : Channel) (rest' : Bytes) :
    Prop where
  reread : c.Reread c'
  conserved : c.input.live ++ rest = r.bytes ++ (c'.input.live ++ rest')
  exhausted : c'.ended = true → c'.input.live = [] ∧ rest' = []
  some : r.error? = none → c'.ended = false → r.bytes ≠ []

/-- **Why the loop may halt**: a channel that has to wait waits for no descriptor, or through a
scheduler. -/
def HaltsWaiting (c : Channel) (h : Halt) : Prop :=
  h ≠ .endless ∧ c.kind.alwaysReady = false ∧
    (c.fd = Waiter.noDescriptor ∨ ∃ notified, c.waiter = .scheduled notified)

/-- **One call of the loop**, which what the kernel has in store and the low mark pay for. -/
theorem readMarks_ensures (wf : c.WellFormed) (unmarked : c.ended = false) (m : Marks)
    (s : System Kernel) (yields : s.host.Yields c.fd path rest)
    (enough : 3 * s.host.inStore path + m.low < s.budget) :
    (c.readBetween m.len m.low m.high m.deadline).Ensures s
      (fun es r s' => ∃ rest', s'.host.Yields c.fd path rest' ∧ c.Fetched rest r.1 r.2 rest' ∧
        es.length + 3 * s'.host.inStore path ≤ 3 * s.host.inStore path + m.low + 1)
      (fun _ h _ => c.HaltsWaiting h) := by
  have endures : (Kernel.meter .ended c.fd path).Endures c .readable m.deadline :=
    ⟨rfl, fun _ _ => Kernel.not_blocks_of_ended,
      fun _ _ _ => .inr fun _ => Kernel.not_blocks_of_ended⟩
  refine (((readBetween_ensures wf m.len m.low m.high m.deadline s).and (readBetween_notices wf
    m.len m.low m.high m.deadline s)).and ((Meter.readBetween_pays wf m.len m.low m.high endures s
    yields.keeps).and (confined_readBetween rfl m.len m.low m.high m.deadline s))).mono
    (fun es r s' reaches ⟨⟨done, notices⟩, ⟨_, paid⟩, used, _⟩ => ?_)
    fun es h s' reaches ⟨⟨halts, _⟩, paid, _⟩ => ?_
  · obtain ⟨_, _, received⟩ | ⟨crossed, _⟩ := done
    · obtain ⟨rest', draws, left⟩ := yields.draws reaches.host received.reads used.uses
      have seen : r.2.ended = es.sawEnd := by rw [notices.ended, unmarked, Bool.false_or]
      refine ⟨rest', left, ⟨received.reread, ?_, fun ended => ?_, fun fine goesOn none => ?_⟩, paid⟩
      · rw [draws.delivered, ← List.append_assoc, received.conserved, List.append_assoc]
      · have sawEnd := seen.symm.trans ended
        exact ⟨notices.empty sawEnd, draws.eq_nil_of_sawEnd sawEnd⟩
      · have under : r.1.bytes.length < m.low := none ▸ m.pos
        have sawEnd := (received.short fine under).2.sawEnd
        exact Bool.false_ne_true ((seen.symm.trans goesOn).symm.trans sawEnd)
    · have := m.ordered
      have := m.fits
      omega
  · have ends : h ≠ .endless := paid.not_endless enough reaches
    rcases halts with _ | _ | ⟨slow, _, none, _⟩ | ⟨slow, scheduled, _, _⟩ | ⟨mem, excess⟩
    · exact absurd rfl ends
    · exact absurd rfl ends
    · exact ⟨ends, slow, .inl none⟩
    · exact ⟨ends, slow, .inr ⟨_, scheduled⟩⟩
    · exact absurd (reaches.host.moderate _ mem) excess

/-- A call that does not come to the end leaves less to fetch. -/
theorem Fetched.fewer {r : Reading} (fetched : c.Fetched rest r c' rest') (fine : r.error? = none)
    (goesOn : c'.ended = false) :
    (c'.input.live ++ rest').length < (c.input.live ++ rest).length := by
  have brought : 0 < r.bytes.length := List.length_pos_iff.2 (fetched.some fine goesOn)
  have total : (c.input.live ++ rest).length =
      r.bytes.length + (c'.input.live ++ rest').length := by
    rw [fetched.conserved]
    exact List.length_append
  omega

/-- At the end there is no more to fetch. -/
theorem drain_of_ended (ended : c.ended = true) (marks : List Marks) :
    (c.drain marks : Act Kernel _) = return (⟨[], none⟩, c) := by
  cases marks with
  | nil => rfl
  | cons m marks =>
    unfold drain
    rw [if_pos ended]

/-- **What is fetched call by call** is fetched once and in order, and the end is reached. -/
theorem drain_ensures (wf : c.WellFormed) (marks : List Marks) (s : System Kernel)
    (yields : s.host.Yields c.fd path rest) (unmarked : c.ended = false)
    (many : (c.input.live ++ rest).length < marks.length)
    (enough : 3 * s.host.inStore path + (marks.map fun m => m.low + 1).sum < s.budget) :
    (c.drain marks).Ensures s
      (fun _ r _ => r.1.error? = none → r.2.ended = true ∧ r.2.liveCount = 0 ∧
        r.1.bytes = c.input.live ++ rest)
      (fun _ h _ => c.HaltsWaiting h) := by
  induction marks generalizing c rest s with
  | nil => cases many
  | cons m marks ih =>
    rw [List.map_cons, List.sum_cons] at enough
    rw [List.length_cons] at many
    unfold drain
    rw [if_neg (Bool.eq_false_iff.1 unmarked)]
    refine Act.ensures_bind (readMarks_ensures wf unmarked m s yields (by omega))
      fun es r s' reaches ⟨rest', left, fetched, paid⟩ => ?_
    obtain ⟨⟨bytes, error?⟩, c'⟩ := r
    rcases error? with _ | e
    · have wf' : c'.WellFormed := ⟨fetched.reread.wellFormed, fetched.reread.output ▸ wf.output⟩
      have budget := reaches.budget
      have drained : (c'.drain marks).Ensures s'
          (fun _ r _ => r.1.error? = none → r.2.ended = true ∧ r.2.liveCount = 0 ∧
            r.1.bytes = c'.input.live ++ rest')
          (fun _ h _ => c'.HaltsWaiting h) := by
        cases ended : c'.ended with
        | true =>
          obtain ⟨empty, none⟩ := fetched.exhausted ended
          rw [drain_of_ended ended]
          refine Act.ensures_pure fun _ =>
            ⟨ended, (ReadAhead.live_eq_nil_iff wf'.input).1 empty, ?_⟩
          rw [empty, none]
          rfl
        | false =>
          have fewer : (c'.input.live ++ rest').length < _ := fetched.fewer rfl ended
          exact ih wf' s' (fetched.reread.fd ▸ left) ended (by omega) (by omega)
      refine Act.ensures_bind (drained.mono (fun _ _ _ _ h => h) fun _ _ _ _ halts => ?_)
        fun _ r _ _ whole => Act.ensures_pure fun fine => ?_
      · rw [HaltsWaiting, fetched.reread.fd, fetched.reread.kind, fetched.reread.waiter] at halts
        exact halts
      · obtain ⟨ended, drained, all⟩ := whole fine
        exact ⟨ended, drained, by rw [all, fetched.conserved]⟩
    · exact Act.ensures_pure nofun

end Channel

/-! ## The end of a stream -/

/-- **What the end of a source is to a channel** that made a dialogue since it began or moved. -/
structure Channel.EndsWithSource (κ : Type) [Host κ] (c : Channel) (es : Dialogue) : Prop where
  /-- The mark tells whether a read came back empty. -/
  marked : c.ended = es.sawEnd
  /-- An operation that sets the mark leaves nothing buffered. -/
  drained : ∀ d c', Deed.Done κ d c c' → c.ended = false → c'.ended = true → c'.liveCount = 0
  /-- An operation that breaks a rule leaves the mark alone. -/
  broken : ∀ (operation : Operation) message left (s s' : System κ),
    (operation.run c).runOn s = (.error (.faulted message (some left)), s') → left.ended = c.ended
  /-- What does not move the channel hands on everything by the time that the mark is set. -/
  exhausted : ∀ ds c' source rest, History κ c ds c' → (∀ d ∈ ds, d.operation.moves = false) →
    c.ended = false → (exchangesOf ds).Draws c.fd source rest → c'.ended = true →
      c'.liveCount = 0 ∧ ds.flatMap Deed.handed = c.input.live ++ source
  /-- A loop that reads until the end comes to an end, unless the wait itself goes wrong. -/
  halts : ∀ path rest (marks : List Marks) (s : System Kernel), s.host.Yields c.fd path rest →
    c.ended = false → (c.input.live ++ rest).length < marks.length →
    3 * s.host.inStore path + (marks.map fun m => m.low + 1).sum < s.budget →
      ∀ h s', (c.drain marks).runOn s = (.error h, s') → c.HaltsWaiting h
  /-- If no call fails, it brings every byte once and in order. -/
  whole : ∀ path rest (marks : List Marks) (s : System Kernel), s.host.Yields c.fd path rest →
    c.ended = false → (c.input.live ++ rest).length < marks.length →
    3 * s.host.inStore path + (marks.map fun m => m.low + 1).sum < s.budget →
      ∀ r c' s', (c.drain marks).runOn s = (.ok (r, c'), s') → r.error? = none →
        c'.ended = true ∧ c'.liveCount = 0 ∧ r.bytes = c.input.live ++ rest

/-- **A channel ends with its source.**  Its mark tells whether a read of it came back empty since
it was made or last moved; an operation that sets the mark leaves nothing buffered, and one that
breaks a rule leaves the mark alone.  So whatever is done that does not move the channel, at the end
of a source that does not grow **everything was handed on**, and nothing is buffered.  A loop that
reads until the end of a file or of a stream that hung up does not go on for ever, for **any marks**
from call to call, and if no call fails it brings every byte once and in order. -/
theorem Channel.Recalls.ended_with_its_source {κ : Type} [Host κ] {c : Channel} {es : Dialogue}
    (recalls : c.Recalls κ es) : c.EndsWithSource κ es where
  marked := recalls.ended_eq
  drained d c' done before after := by
    have wf := recalls.reachable.wellFormed
    have empty := done.drained wf before after
    exact (ReadAhead.live_eq_nil_iff (done.performed wf).wellFormed.input).1 empty
  broken operation message left s s' run := by
    obtain ⟨_, _, unnoticed⟩ := (operation.run_notices recalls.reachable.wellFormed s).of_error run
    exact (unnoticed message left rfl).1
  exhausted ds c' source rest history stays unmarked draws :=
    history.whole_of_ended recalls.reachable.wellFormed stays draws unmarked
  halts path rest marks s yields unmarked many enough h s' run := by
    obtain ⟨_, _, halts⟩ :=
      (c.drain_ensures recalls.reachable.wellFormed marks s yields unmarked many
        enough).of_error run
    exact halts
  whole path rest marks s yields unmarked many enough r c' s' run fine := by
    obtain ⟨_, _, whole⟩ :=
      (c.drain_ensures recalls.reachable.wellFormed marks s yields unmarked many enough).of_ok run
    exact whole fine

/-! A file of six bytes, of which two are read and two more read ahead; later reads are interrupted
and blocked. -/

/-- The kernel of the file. -/
def crumbs : System Kernel where
  host := { nodes := [("f", {
    body := .file (.ofBytes [1, 2, 3, 4, 5, 6])
    script := [(.read, {}), (.read, { errno? := some .interrupted }),
      (.read, { errno? := some .wouldBlock })] })] }
  budget := 60
  bufferLength := 4

/-- The opening of the file. -/
def crumbsOpening : Opening := .openConfigured "f" {} 0o644 {} (.polling .shared)

/-- Its channel. -/
def crumbsChannel (input : ReadAhead) (ended : Bool) : Channel :=
  { fd := 3, kind := .regular, input, output := ⟨[0, 0, 0, 0], 0⟩, ended, verbose := false,
    waiter := .polling .shared }

/-- The file with the channel opened on it. -/
def crumbsOpened : System Kernel := (crumbsOpening.run.runOn crumbs).2

/-- The first read. -/
def crumbsFirst : Deed :=
  ⟨.read 2 .never, [Descriptor.reading 3 4 (.ok [1, 2, 3, 4])], .reading ⟨[1, 2], none⟩⟩

/-- The channel after it. -/
def crumbsAhead : Channel := crumbsChannel ⟨[1, 2, 3, 4], 2, 2⟩ false

/-- The file after it. -/
def crumbsLeft : System Kernel :=
  ((crumbsFirst.operation.run (crumbsChannel ⟨[0, 0, 0, 0], 0, 0⟩ false)).runOn crumbsOpened).2

/-- A read of the rest, which comes to the end. -/
def crumbsRest : Deed :=
  ⟨.read 8 .never, [Descriptor.reading 3 6 (.error .interrupted),
    Descriptor.reading 3 6 (.error .wouldBlock), Descriptor.reading 3 6 (.ok [5, 6]),
    Descriptor.reading 3 4 (.ok [])], .reading ⟨[3, 4, 5, 6], none⟩⟩

/-- Marks that change after the first call. -/
def crumbsMarks : List Marks :=
  ⟨5, 3, 3, .never, by decide, by decide, by decide⟩ ::
    List.replicate 4 ⟨4, 1, 2, .never, by decide, by decide, by decide⟩

/-- It yields the last two bytes then. -/
theorem yields_crumbs : crumbsLeft.host.Yields 3 "f" [5, 6] := by
  refine ⟨⟨⟨"f", { nonblock := true }, 4⟩, rfl, rfl, nofun, ⟨.file (.ofBytes [1, 2, 3, 4, 5, 6]),
    [(.read, { errno? := some .interrupted }), (.read, { errno? := some .wouldBlock })]⟩, rfl,
    rfl, ?_⟩, List.forall_mem_nil _⟩
  unfold SparesReads
  decide

theorem Channel.Recalls.ended_with_its_source_crumbs :
    crumbsAhead.ended = Dialogue.sawEnd crumbsFirst.exchanges ∧
      (crumbsChannel ⟨[1, 2, 3, 4], 0, 0⟩ true).liveCount = 0 ∧
      (∃ left s', (Operation.tell.run crumbsAhead).runOn crumbsOpened =
        (.error (.faulted "attempt to subtract with overflow" (some left)), s') ∧
          left.ended = crumbsAhead.ended) ∧
      [crumbsRest].flatMap Deed.handed = crumbsAhead.input.live ++ [5, 6] ∧
      [3, 4, 5, 6] = crumbsAhead.input.live ++ [5, 6] := by
  have opened : crumbsOpening.run.runOn crumbs =
      (.ok (.ok (crumbsChannel ⟨[0, 0, 0, 0], 0, 0⟩ false)), crumbsOpened) := rfl
  have first : crumbsFirst.Done Kernel (crumbsChannel ⟨[0, 0, 0, 0], 0, 0⟩ false) crumbsAhead :=
    ⟨crumbsOpened, crumbsLeft, rfl, rfl⟩
  have recalls : crumbsAhead.Recalls Kernel crumbsFirst.exchanges := .operated (.begun opened) first
  have draws : (exchangesOf [crumbsRest]).Draws 3 ([5, 6] ++ ([] ++ [])) [] :=
    .idle rfl rfl (.idle rfl rfl (.read nofun (.read (fun _ => rfl) (.nil []))))
  have run : deedsOf crumbsAhead crumbsLeft [.read 8 .never] =
      some ([crumbsRest], crumbsChannel ⟨[1, 2, 3, 4], 0, 0⟩ true) := by cbv
  have behind : ((Operation.tell.run crumbsAhead).runOn crumbsOpened).1 =
      .error (.faulted "attempt to subtract with overflow" (some crumbsAhead)) := rfl
  have looped : ((crumbsAhead.drain crumbsMarks).runOn crumbsLeft).1 =
      .ok (⟨[3, 4, 5, 6], none⟩, crumbsChannel ⟨[5, 6, 3, 4], 0, 0⟩ true) := by cbv
  have ran {α β : Type} {run : α × β} {outcome : α} (h : run.1 = outcome) :
      run = (outcome, run.2) := Prod.ext h rfl
  have ends := Channel.Recalls.ended_with_its_source recalls
  have history := history_of_deedsOf run
  have done : crumbsRest.Done Kernel crumbsAhead (crumbsChannel ⟨[1, 2, 3, 4], 0, 0⟩ true) := by
    cases history with
    | cons done rest =>
      cases rest
      exact done
  obtain ⟨_, _, once⟩ := ends.whole "f" [5, 6] crumbsMarks crumbsLeft yields_crumbs rfl (by decide)
    (by decide) _ _ _ (ran looped) rfl
  exact ⟨ends.marked, ends.drained _ _ done rfl rfl,
    ⟨_, _, ran behind, ends.broken _ _ _ _ _ (ran behind)⟩,
    (ends.exhausted _ _ _ _ history (by decide) rfl draws rfl).2, once⟩

end BufferedChannels
