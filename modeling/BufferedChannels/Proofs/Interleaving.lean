import BufferedChannels.Proofs.Conservation
import BufferedChannels.Proofs.Refinement

/-!
# Proofs/Interleaving — where writes between reads come to stand

A descriptor has one position, and it stands **behind the bytes read ahead**.  A write is sent from
there, so on a regular file its bytes come to stand behind everything that was read ahead when it
was made (`written_behind_readAhead`), and not where the caller's own reading stands.  A dialogue
moves the descriptor by what it delivers and what it has accepted, and never touches what lies
before it (`Medium.Shifted`).
-/

namespace BufferedChannels

open Simulation

namespace Bytes

/-- What was stored ends where the block that it was stored in is cut. -/
theorem take_storeAt {data : Bytes} (some : data ≠ []) (contents : Bytes) (position : Nat) :
    (contents.storeAt position data).take (position + data.length) =
      contents.upTo position ++ data := by
  have front : (contents.upTo position ++ data).length = position + data.length := by
    rw [List.length_append, length_upTo]
  rw [storeAt_eq some, ← List.append_assoc, List.take_left' front]

/-- **Storing touches nothing before its position.** -/
theorem take_prefix_storeAt (contents : Bytes) (position : Nat) (data : Bytes) :
    contents.take position <+: contents.storeAt position data := by
  by_cases none : data = []
  · rw [none, storeAt_nil]
    exact List.take_prefix _ _
  · rw [storeAt_eq none, upTo, List.append_assoc]
    exact List.prefix_append _ _

/-- **A part of what was stored** stands behind what was stored before it, in every block that
begins with all of it. -/
theorem slice_of_take_storeAt_prefix {contents later first part last : Bytes} {position : Nat}
    (h : (contents.storeAt position (first ++ (part ++ last))).take
      (position + (first ++ (part ++ last)).length) <+: later) :
    later.slice (position + first.length) part.length = part := by
  by_cases none : part = []
  · rw [none, slice, List.length_nil, List.take_zero]
  have some : first ++ (part ++ last) ≠ [] :=
    List.append_ne_nil_of_right_ne_nil _ (List.append_ne_nil_of_left_ne_nil none _)
  rw [take_storeAt some, ← List.append_assoc] at h
  obtain ⟨behind, rfl⟩ := h
  have front : (contents.upTo position ++ first).length = position + first.length := by
    rw [List.length_append, length_upTo]
  rw [slice, List.append_assoc, List.drop_left' front, List.append_assoc, List.take_left]

end Bytes

/-! ## Dialogues that do not move the descriptor elsewhere -/

namespace Medium

variable {fd : Int} {m m' m'' : Medium} {es es' : Dialogue}

/-- **What a dialogue of reads and writes comes to**: the descriptor moves by what was delivered and
accepted, what was accepted is stored where it stood unless something was delivered, and what lies
before it stays. -/
structure Shifted (fd : Int) (m : Medium) (es : Dialogue) (m' : Medium) : Prop where
  offset : m'.offset = m.offset + (es.delivered fd).length + (es.accepted fd).length
  stored : es.delivered fd = [] → m'.contents = m.contents.storeAt m.offset (es.accepted fd)
  kept : m.contents.take m.offset <+: m'.contents

theorem Shifted.refl (fd : Int) (m : Medium) : m.Shifted fd [] m :=
  ⟨rfl, fun _ => (Bytes.storeAt_nil _ _).symm, List.take_prefix _ _⟩

theorem Shifted.append (h : m.Shifted fd es m') (h' : m'.Shifted fd es' m'') :
    m.Shifted fd (es ++ es') m'' where
  offset := by
    rw [h'.offset, h.offset, Dialogue.delivered_append, Dialogue.accepted_append,
      List.length_append, List.length_append]
    omega
  stored := by
    intro unread
    rw [Dialogue.delivered_append, List.append_eq_nil_iff] at unread
    have behind : m'.offset = m.offset + (es.accepted fd).length := by
      rw [h.offset, unread.1]
      rfl
    rw [h'.stored unread.2, h.stored unread.1, behind, Bytes.storeAt_append,
      Dialogue.accepted_append]
  kept := by
    -- The part before the descriptor is no longer than where it stands in the end.
    have le : m.offset ≤ m'.offset := by
      rw [h.offset]
      omega
    have short : (m.contents.take m.offset).length ≤ m'.offset :=
      Nat.le_trans (List.length_take_le _ _) le
    have still : m.contents.take m.offset <+: m'.contents.take m'.offset :=
      List.prefix_take_iff.2 ⟨h.kept, short⟩
    exact still.trans h'.kept

theorem HasRead.shifted {c : Channel} (h : HasRead c.fd m es m') (reads : es.Reads c) :
    m.Shifted c.fd es m' where
  offset := by
    rw [h.offset, reads.accepted]
    rfl
  stored := by
    intro _
    rw [h.contents, reads.accepted, Bytes.storeAt_nil]
  kept := by
    rw [h.contents]
    exact List.take_prefix _ _

theorem HasWritten.shifted {c : Channel} (h : HasWritten c.fd m es m') (writes : es.Writes c) :
    m.Shifted c.fd es m' where
  offset := by
    rw [h.offset, writes.delivered]
    rfl
  stored := fun _ => h.contents
  kept := by
    rw [h.contents]
    exact Bytes.take_prefix_storeAt _ _ _

end Medium

/-! ## Operations -/

/-- **Whether an operation goes on from where the descriptor stands**: a read, a write, a flush, or
the question where that is. -/
def Operation.continues : Operation → Bool
  | .read .. | .readBetween .. | .write .. | .flush _ | .tell => true
  | _ => false

theorem Operation.stays_of_continues {operation : Operation} (h : operation.continues = true) :
    operation.moves = false ∧ operation.isPlainWrite = false := by
  cases operation <;> first | exact ⟨rfl, rfl⟩ | cases h

/-- **A channel on a regular file** that the kernel keeps behind its descriptor. -/
structure OnFile (path : String) (c : Channel) (k : Kernel) (m : Medium) : Prop where
  held : k.Holds c.fd path m
  wellFormed : c.WellFormed
  regular : c.kind = .regular

namespace OnFile

variable {path : String} {c c' : Channel} {k k' : Kernel} {m : Medium} {es : Dialogue}

theorem ready (h : OnFile path c k m) : c.kind.alwaysReady = true := by
  rw [h.regular]
  rfl

/-- **Whatever happens elsewhere**, the channel stays on its file. -/
theorem elsewhere (h : OnFile path c k m) (other : Kernel.Elsewhere c.fd path k k') :
    OnFile path c k' m :=
  ⟨h.held.elsewhere other, h.wellFormed, h.regular⟩

/-- **What reads leave** of a channel on a file. -/
theorem reread (h : OnFile path c k m) (done : c.Reread c') (reads : es.Reads c)
    (leads : Host.Leads k es k') : ∃ m', m.Shifted c.fd es m' ∧ OnFile path c' k' m' := by
  obtain ⟨m', converses, held⟩ := h.held.converses leads (reads.asks h.ready)
  exact ⟨m', (converses.hasRead reads h.ready).shifted reads, done.fd ▸ held,
    ⟨done.wellFormed, done.output ▸ h.wellFormed.output⟩, done.kind.trans h.regular⟩

/-- **What writes leave.** -/
theorem rewritten (h : OnFile path c k m) (done : c.Rewritten c') (writes : es.Writes c)
    (leads : Host.Leads k es k') : ∃ m', m.Shifted c.fd es m' ∧ OnFile path c' k' m' := by
  obtain ⟨m', converses, held⟩ := h.held.converses leads (writes.asks h.ready)
  exact ⟨m', (converses.hasWritten writes h.ready).shifted writes, done.fd ▸ held,
    done.toWellFormed h.wellFormed, done.kind.trans h.regular⟩

/-- **The question where the descriptor stands** leaves everything as it is. -/
theorem told (h : OnFile path c k m) {r : Except ChannelError Nat} (told : c.Told es r)
    (leads : Host.Leads k es k') :
    m.Shifted c.fd es m ∧ OnFile path c k' m ∧ c.liveCount ≤ m.offset ∧
      r = .ok (m.offset - c.liveCount) := by
  obtain ⟨m', converses, held⟩ := h.held.converses leads told.seeks.asks
  obtain ⟨rfl, ahead, answer⟩ := converses.told told
  have still := told.seeks.still
  refine ⟨⟨?_, fun _ => ?_, List.take_prefix _ _⟩, ⟨held, h.wellFormed, h.regular⟩, ahead, answer⟩
  · rw [Dialogue.delivered_of_still still, Dialogue.accepted_of_still still]
    rfl
  · rw [Dialogue.accepted_of_still still, Bytes.storeAt_nil]

/-- **An operation that goes on** shifts the file behind its channel. -/
theorem run {s : System Kernel} (h : OnFile path c s.host m) {operation : Operation}
    (goesOn : operation.continues = true) :
    (operation.run c).Ensures s
      (fun es r s' => ∃ m', m.Shifted c.fd es m' ∧ OnFile path r.2 s'.host m')
      (fun _ _ _ => True) := by
  have wf := h.wellFormed
  rcases operation with ⟨len, source⟩ | ⟨len, low, high, source⟩ | ⟨data, source⟩ | source |
    _ | _ | _ | _ | _ | _ | _ | _
  any_goals cases goesOn
  · -- `read`
    exact ensures_resolve source fun deadline => ensures_answer
      ((Channel.read_ensures wf len deadline s).mono
        (fun _ _ _ reaches done => h.reread done.reread done.reads reaches.host)
        fun _ _ _ _ _ => trivial)
  · -- `readBetween`
    refine ensures_resolve source fun deadline => ensures_answer
      ((Channel.readBetween_ensures wf len low high deadline s).mono
        (fun es r s' reaches done => ?_) fun _ _ _ _ _ => trivial)
    have handsOn : c.HandsOn es r.1 r.2 := by
      obtain ⟨_, _, received⟩ | ⟨_, refused⟩ := done
      · exact received.toHandsOn
      · exact refused.handsOn wf
    exact h.reread handsOn.reread handsOn.reads reaches.host
  · -- `write`
    exact ensures_resolve source fun deadline => ensures_answer
      ((Channel.write_ensures wf data deadline s).mono
        (fun _ _ _ reaches done => h.rewritten done.rewritten done.writes reaches.host)
        fun _ _ _ _ _ => trivial)
  · -- `flush`
    exact ensures_resolve source fun deadline => ensures_answer
      ((Channel.flush_ensures wf deadline s).mono
        (fun _ _ _ reaches done => h.rewritten done.rewritten done.writes reaches.host)
        fun _ _ _ _ _ => trivial)
  · -- `tell`
    refine ensures_answer_same ((c.tell_ensures s).mono
      (fun _ _ _ reaches done => ?_) fun _ _ _ _ _ => trivial)
    obtain ⟨shifted, onFile, _⟩ := h.told done reaches.host
    exact ⟨m, shifted, onFile⟩

end OnFile

/-- **A channel that was opened** is on a file, at its beginning and with nothing pending. -/
theorem Simulation.Kernel.Calm.onFile {path : String} {flags : Flags} {mode : Nat} {config : Config}
    {waiter : Waiter} {s₀ s₁ : System Kernel} {c : Channel} (calm : s₀.host.Calm path)
    (access : flags.access = .readWrite) (append : flags.append = false)
    (opened : (Channel.openConfigured path flags mode config waiter).runOn s₀ = (.ok (.ok c), s₁))
    (regular : c.kind = .regular) : ∃ m, OnFile path c s₁.host m := by
  obtain ⟨es, reaches, done⟩ :=
    (Channel.openConfigured_ensures path flags mode config waiter s₀).of_ok opened
  have done := done c rfl
  obtain ⟨_, _, held⟩ := calm.holds_of_opened access append done regular reaches.host
  exact ⟨_, held, done.blank.toWellFormed, regular⟩

/-! ## Runs -/

/-- **A run of reads, writes, flushes and questions where the descriptor stands**, in any order,
with anything at all happening elsewhere in between. -/
inductive Interleaves (path : String) : Channel → Kernel → List Deed → Channel → Kernel → Prop
  | nil (c : Channel) (k : Kernel) : Interleaves path c k [] c k
  | elsewhere {c c' : Channel} {k k' k'' : Kernel} {ds : List Deed} :
      Kernel.Elsewhere c.fd path k k' → Interleaves path c k' ds c' k'' →
        Interleaves path c k ds c' k''
  | operated {c c' c'' : Channel} {k : Kernel} {s s' : System Kernel} {d : Deed} {ds : List Deed} :
      d.operation.continues = true → (d.operation.run c).runOn s = (.ok (d.answer, c'), s') →
        s'.trace = d.exchanges.reverse ++ s.trace → Interleaves path c' s'.host ds c'' k →
        Interleaves path c s.host (d :: ds) c'' k

/-- **Bytes stand in a file** at a position. -/
def StandAt (path : String) (k : Kernel) (position : Nat) (data : Bytes) : Prop :=
  ∃ contents, k.bytes? path = some contents ∧ contents.slice position data.length = data

/-- **The deeds of operations** done one after another on one system, and what they leave, if each
of them goes on and returns. -/
def interleave (c : Channel) (s : System Kernel) :
    List Operation → Option (List Deed × Channel × System Kernel)
  | [] => some ([], c, s)
  | operation :: rest =>
    if operation.continues then
      match (operation.run c).runOn { s with trace := [] } with
      | (.ok (answer, c'), s') => (interleave c' s' rest).map fun later =>
          (⟨operation, s'.trace.reverse, answer⟩ :: later.1, later.2)
      | _ => none
    else none

theorem interleaves_of_interleave {path : String} {c c' : Channel} {s s' : System Kernel}
    {operations : List Operation} {ds : List Deed}
    (h : interleave c s operations = some (ds, c', s')) :
    Interleaves path c s.host ds c' s'.host := by
  induction operations generalizing c s ds with
  | nil =>
    obtain ⟨rfl, rfl, rfl⟩ : [] = ds ∧ c = c' ∧ s = s' := by simpa [interleave] using h
    exact .nil c s.host
  | cons operation rest ih =>
    rw [interleave] at h
    split at h
    · next goesOn =>
      split at h
      · next answer c₁ s₁ run =>
        obtain ⟨⟨later, c₂, s₂⟩, rec, same⟩ := Option.map_eq_some_iff.1 h
        obtain ⟨rfl, rfl, rfl⟩ : _ = ds ∧ c₂ = c' ∧ s₂ = s' := by simpa using same
        have noted : s₁.trace = s₁.trace.reverse.reverse ++ [] := by
          rw [List.reverse_reverse, List.append_nil]
        exact .operated (s := { s with trace := [] }) goesOn run noted (ih rec)
      · cases h
    · cases h

namespace Interleaves

variable {path : String} {c c' c₁ c₂ c₃ c₄ : Channel} {k k' k₁ k₂ k₃ k₄ : Kernel} {m : Medium}
  {ds : List Deed}

/-- A run is a history of its channel. -/
theorem history (h : Interleaves path c k ds c' k') : History Kernel c ds c' := by
  induction h with
  | nil c => exact .nil c
  | elsewhere _ _ ih => exact ih
  | operated _ run noted _ ih => exact .cons ⟨_, _, run, noted⟩ ih

theorem continues (h : Interleaves path c k ds c' k') :
    ∀ d ∈ ds, d.operation.continues = true := by
  induction h with
  | nil => exact List.forall_mem_nil _
  | elsewhere _ _ ih => exact ih
  | operated goesOn _ _ _ ih => exact List.forall_mem_cons.2 ⟨goesOn, ih⟩

/-- A run of two parts leads by the first to where the second begins. -/
theorem split {ds' : List Deed} (h : Interleaves path c k (ds ++ ds') c' k') :
    ∃ c₁ k₁, Interleaves path c k ds c₁ k₁ ∧ Interleaves path c₁ k₁ ds' c' k' := by
  generalize whole : ds ++ ds' = all at h
  induction h generalizing ds with
  | nil c k =>
    obtain ⟨rfl, rfl⟩ := List.append_eq_nil_iff.1 whole
    exact ⟨c, k, .nil c k, .nil c k⟩
  | elsewhere other _ ih =>
    obtain ⟨c₁, k₁, before, after⟩ := ih whole
    exact ⟨c₁, k₁, .elsewhere other before, after⟩
  | @operated c _ _ _ s _ _ _ goesOn run noted rest ih =>
    rcases ds with _ | ⟨d, ds⟩
    · obtain rfl : ds' = _ := whole
      exact ⟨c, s.host, .nil c _, .operated goesOn run noted rest⟩
    · obtain ⟨rfl, tail⟩ := List.cons.inj whole
      obtain ⟨c₁, k₁, before, after⟩ := ih tail
      exact ⟨c₁, k₁, .operated goesOn run noted before, after⟩

/-- **A run shifts the file** behind its channel. -/
theorem shifts (h : Interleaves path c k ds c' k') (onFile : OnFile path c k m) :
    ∃ m', m.Shifted c.fd (exchangesOf ds) m' ∧ OnFile path c' k' m' ∧ c'.fd = c.fd := by
  induction h generalizing m with
  | nil c => exact ⟨m, .refl c.fd m, onFile, rfl⟩
  | elsewhere other _ ih =>
    exact ih (onFile.elsewhere other)
  | @operated c c₁ c' k s s' d ds goesOn run noted _ ih =>
    obtain ⟨_, reaches, m₁, shifted, onFile₁⟩ := (onFile.run goesOn).of_ok run
    obtain rfl := reaches.eq_of_trace noted
    have fd : c₁.fd = c.fd :=
      (Deed.Done.performed (d := d) ⟨s, s', run, noted⟩ onFile.wellFormed).fd
    obtain ⟨m', shifted', onFile', fd'⟩ := ih onFile₁
    rw [fd] at shifted' fd'
    exact ⟨m', shifted.append shifted', onFile', fd'⟩

/-- **What a run sends** and leaves pending is what was pending and what it took. -/
theorem output_eq (h : Interleaves path c k ds c' k') (wf : c.WellFormed) :
    (exchangesOf ds).accepted c.fd ++ c'.output.pending =
      c.output.pending ++ ds.flatMap Deed.taken :=
  h.history.output_eq wf fun d hd => Operation.stays_of_continues (h.continues d hd)

/-- Without a deed only things elsewhere happen. -/
theorem idle (h : Interleaves path c k [] c' k') : c' = c ∧ Kernel.Elsewhere c.fd path k k' := by
  generalize whole : ([] : List Deed) = all at h
  induction h with
  | nil => exact ⟨rfl, .refl _ _ _⟩
  | elsewhere other _ ih =>
    obtain ⟨rfl, later⟩ := ih whole
    exact ⟨rfl, other.trans later⟩
  | operated => cases whole

/-- **The first deed of a run** is done when only things elsewhere have happened. -/
theorem first {d : Deed} (h : Interleaves path c k (d :: ds) c' k') :
    ∃ (c₁ : Channel) (s s' : System Kernel), Kernel.Elsewhere c.fd path k s.host ∧
      (d.operation.run c).runOn s = (.ok (d.answer, c₁), s') ∧
      s'.trace = d.exchanges.reverse ++ s.trace ∧ Interleaves path c₁ s'.host ds c' k' := by
  generalize whole : d :: ds = all at h
  induction h with
  | nil => cases whole
  | elsewhere other _ ih =>
    obtain ⟨c₁, s, s', before, rest⟩ := ih whole
    exact ⟨c₁, s, s', other.trans before, rest⟩
  | operated _ run noted rest _ =>
    cases whole
    exact ⟨_, _, _, .refl _ _ _, run, noted, rest⟩

/-- **A question where the descriptor stands** tells it but for the bytes read ahead, and leaves
channel and file as they are. -/
theorem of_tell {asked : Dialogue} {here : Nat} (onFile : OnFile path c k m)
    (h : Interleaves path c k [⟨.tell, asked, .count (.ok here)⟩] c' k') :
    c' = c ∧ OnFile path c' k' m ∧ here + c.liveCount = m.offset := by
  obtain ⟨c₁, s, s', other, run, noted, rest⟩ := h.first
  have onFile := onFile.elsewhere other
  have asks : (Operation.tell.run c).Ensures s
      (fun _ r s' => r.2 = c ∧ OnFile path c s'.host m ∧
        ∀ n, r.1 = .count (.ok n) → n + c.liveCount = m.offset) (fun _ _ _ => True) := by
    refine ensures_answer_same ((c.tell_ensures s).mono (fun _ _ _ reaches done => ?_)
      fun _ _ _ _ _ => trivial)
    obtain ⟨_, onFile, ahead, rfl⟩ := onFile.told done reaches.host
    refine ⟨rfl, onFile, fun n is => ?_⟩
    obtain rfl : m.offset - c.liveCount = n := Except.ok.inj (Answer.count.inj is)
    exact Nat.sub_add_cancel ahead
  obtain ⟨_, _, rfl, onFile, told⟩ := asks.of_ok run
  obtain ⟨rfl, later⟩ := rest.idle
  exact ⟨rfl, onFile.elsewhere later, told _ rfl⟩

/-- **What a run sends without reading** comes to stand behind the descriptor, and stays there. -/
theorem standAt {more : List Deed} (onFile : OnFile path c k m)
    (run : Interleaves path c k ds c₁ k₁) (unread : (exchangesOf ds).delivered c.fd = [])
    (flushed : c₁.pendingCount = 0) (rest : Interleaves path c₁ k₁ more c' k')
    {first part last : Bytes}
    (parts : c.output.pending ++ ds.flatMap Deed.taken = first ++ (part ++ last)) :
    StandAt path k' (m.offset + first.length) part := by
  obtain ⟨m₁, shifted, onFile₁, _⟩ := run.shifts onFile
  obtain ⟨m', kept, onFile', _⟩ := rest.shifts onFile₁
  have empty : c₁.output.pending = [] := by
    rw [← List.length_eq_zero_iff, WriteBehind.length_pending onFile₁.wellFormed.output]
    exact flushed
  have sent := run.output_eq onFile.wellFormed
  rw [empty, List.append_nil, parts] at sent
  have stored := shifted.stored unread
  have offset := shifted.offset
  rw [unread, sent] at offset
  rw [sent] at stored
  have kept := kept.kept
  rw [stored, offset] at kept
  exact ⟨_, onFile'.held.bytes?_eq, Bytes.slice_of_take_storeAt_prefix kept⟩

/-- **Writes come to stand behind what was read ahead.**  Take a regular file that is left alone,
opened for reading and writing but not for appending, and a run of reads, writes and flushes in any
order, up to a moment when nothing is pending.  The bytes that a write took stand in the file where
the caller's own place, as told just before, and the bytes then pending lead to, **and farther by
the bytes then read ahead** and by what the descriptor delivered before anything was sent; provided
that it delivers nothing from then on.  Whatever the run does after that moment, they stay there. -/
theorem written_behind_readAhead {flags : Flags} {mode : Nat} {config : Config} {waiter : Waiter}
    {s₀ s₁ : System Kernel} (calm : s₀.host.Calm path) (access : flags.access = .readWrite)
    (append : flags.append = false)
    (opened : (Channel.openConfigured path flags mode config waiter).runOn s₀ = (.ok (.ok c), s₁))
    (regular : c.kind = .regular) {earlier waiting sending later more : List Deed}
    {asked sent : Dialogue} {here : Nat} {data : Bytes} {source : DeadlineSource} {answer : Answer}
    (before : Interleaves path c s₁.host earlier c₁ k₁)
    (told : Interleaves path c₁ k₁ [⟨.tell, asked, .count (.ok here)⟩] c₂ k₂)
    (run : Interleaves path c₂ k₂ (waiting ++ sending) c₃ k₃)
    (wrote : waiting ++ sending = ⟨.write data source, sent, answer⟩ :: later)
    (unsent : (exchangesOf waiting).accepted c.fd = [])
    (unread : (exchangesOf sending).delivered c.fd = []) (flushed : c₃.pendingCount = 0)
    (rest : Interleaves path c₃ k₃ more c' k') :
    StandAt path k' (here + c₁.pendingCount + c₁.liveCount +
      ((exchangesOf waiting).delivered c.fd).length)
      ((Operation.write data source).taken answer) := by
  obtain ⟨_, onFile⟩ := calm.onFile access append opened regular
  obtain ⟨m, _, onFile, fd⟩ := before.shifts onFile
  obtain ⟨rfl, onFile, place⟩ := told.of_tell onFile
  obtain ⟨c₄, k₄, waits, sends⟩ := run.split
  obtain ⟨m₄, shifted, onFile₄, fd₄⟩ := waits.shifts onFile
  have pending := waits.output_eq onFile.wellFormed
  have offset := shifted.offset
  rw [fd, unsent, List.nil_append] at pending
  rw [fd, unsent, ← place] at offset
  rw [fd] at fd₄
  have parts : c₄.output.pending ++ sending.flatMap Deed.taken = c₂.output.pending ++
      ((Operation.write data source).taken answer ++ later.flatMap Deed.taken) := by
    rw [pending, List.append_assoc, ← List.flatMap_append, wrote, List.flatMap_cons]
    rfl
  have stand := standAt onFile₄ sends (fd₄ ▸ unread) flushed rest parts
  have count : c₂.output.pending.length = c₂.pendingCount :=
    WriteBehind.length_pending onFile.wellFormed.output
  have position : m₄.offset + c₂.output.pending.length = here + c₂.pendingCount + c₂.liveCount +
      ((exchangesOf waiting).delivered c.fd).length := by
    rw [offset, count, List.length_nil]
    omega
  exact position ▸ stand

/-! A file of six bytes, read and written with a block of four. -/

/-- The kernel of the file. -/
def sixBytes : System Kernel where
  host := { nodes := [("f", { body := .file (.ofBytes [1, 2, 3, 4, 5, 6]) })] }
  budget := 40
  bufferLength := 4

/-- The opening of the file. -/
def sixOpening : Act Kernel (Except ChannelError Channel) :=
  Channel.openConfigured "f" { access := .readWrite } 0o644 {} (.scheduled false)

/-- Its channel. -/
def sixChannel (input : ReadAhead) (output : WriteBehind) : Channel :=
  { fd := 3, kind := .regular, input, output, verbose := false, waiter := .scheduled false }

/-- The file with a channel opened on it. -/
def sixOpened : System Kernel := (sixOpening.runOn sixBytes).2

/-- The channel once two bytes were read, with two more read ahead. -/
def sixAhead : Channel := sixChannel ⟨[1, 2, 3, 4], 2, 2⟩ ⟨[0, 0, 0, 0], 0⟩

/-- The file after operations. -/
def sixAfter (operations : List Operation) : System Kernel :=
  (interleave (sixChannel ⟨[0, 0, 0, 0], 0, 0⟩ ⟨[0, 0, 0, 0], 0⟩) sixOpened operations).elim
    sixOpened fun r => r.2.2

theorem calm_sixBytes : sixBytes.host.Calm "f" :=
  Kernel.calm_of_file rfl (List.forall_mem_nil _) (List.forall_mem_nil _) (by decide) (by decide)

theorem opened_sixBytes : sixOpening.runOn sixBytes =
    (.ok (.ok (sixChannel ⟨[0, 0, 0, 0], 0, 0⟩ ⟨[0, 0, 0, 0], 0⟩)), sixOpened) := rfl

/-- A read of two bytes, with two more read ahead. -/
def sixRead : Deed :=
  ⟨.read 2 .never, [Descriptor.reading 3 4 (.ok [1, 2, 3, 4])], .reading ⟨[1, 2], none⟩⟩

/-- The question where the descriptor stands. -/
def sixTold : Deed := ⟨.tell, [Descriptor.seeking 3 0 .current (.ok 4)], .count (.ok 2)⟩

/-- A write of a byte, and the flush that sends it. -/
def sixWrite : List Deed :=
  [⟨.write [7] .never, [], .count (.ok 1)⟩,
    ⟨.flush .never, [Descriptor.writing 3 [7] (.ok 1)], .finished (.ok ())⟩]

/-- The channel after that. -/
def sixFlushed : Channel := sixChannel ⟨[1, 2, 3, 4], 2, 2⟩ ⟨[7, 0, 0, 0], 0⟩

theorem runs_sixBytes :
    Interleaves "f" (sixChannel ⟨[0, 0, 0, 0], 0, 0⟩ ⟨[0, 0, 0, 0], 0⟩) sixOpened.host [sixRead]
        sixAhead (sixAfter [.read 2 .never]).host ∧
      Interleaves "f" sixAhead (sixAfter [.read 2 .never]).host [sixTold] sixAhead
        (sixAfter [.read 2 .never, .tell]).host ∧
      Interleaves "f" sixAhead (sixAfter [.read 2 .never, .tell]).host sixWrite sixFlushed
        (sixAfter [.read 2 .never, .tell, .write [7] .never, .flush .never]).host := by
  have read : interleave (sixChannel ⟨[0, 0, 0, 0], 0, 0⟩ ⟨[0, 0, 0, 0], 0⟩) sixOpened
      [.read 2 .never] = some ([sixRead], sixAhead, sixAfter [.read 2 .never]) := by cbv
  have told : interleave sixAhead (sixAfter [.read 2 .never]) [.tell] =
      some ([sixTold], sixAhead, sixAfter [.read 2 .never, .tell]) := by cbv
  have wrote : interleave sixAhead (sixAfter [.read 2 .never, .tell])
      [.write [7] .never, .flush .never] = some (sixWrite, sixFlushed,
        sixAfter [.read 2 .never, .tell, .write [7] .never, .flush .never]) := by cbv
  exact ⟨interleaves_of_interleave read, interleaves_of_interleave told,
    interleaves_of_interleave wrote⟩

theorem written_behind_readAhead_sixBytes :
    StandAt "f" (sixAfter [.read 2 .never, .tell, .write [7] .never, .flush .never]).host
      (2 + 0 + 2 + 0) [7] := by
  obtain ⟨read, told, wrote⟩ := runs_sixBytes
  have wrote : Interleaves "f" sixAhead (sixAfter [.read 2 .never, .tell]).host ([] ++ sixWrite)
      sixFlushed (sixAfter [.read 2 .never, .tell, .write [7] .never, .flush .never]).host := wrote
  exact written_behind_readAhead calm_sixBytes rfl rfl opened_sixBytes rfl read told wrote rfl rfl
    rfl rfl (.nil _ _)

/-- **A write after a read is not stored where the reading stands**: two bytes were read ahead, and
the byte stands behind them. -/
theorem not_written_at_position : ¬ ∀ (path : String) (flags : Flags) (mode : Nat)
    (config : Config) (waiter : Waiter) (s₀ s₁ : System Kernel) (c c₁ c₂ c₃ : Channel)
    (k₁ k₂ k₃ : Kernel) (earlier later : List Deed) (asked sent : Dialogue) (here : Nat)
    (data : Bytes) (source : DeadlineSource), s₀.host.Calm path → flags.access = .readWrite →
      flags.append = false →
      (Channel.openConfigured path flags mode config waiter).runOn s₀ = (.ok (.ok c), s₁) →
      c.kind = .regular → (∀ d ∈ earlier ++ later, d.answer.isFailure = false) →
      Interleaves path c s₁.host earlier c₁ k₁ →
      Interleaves path c₁ k₁ [⟨.tell, asked, .count (.ok here)⟩] c₂ k₂ →
      Interleaves path c₂ k₂ (⟨.write data source, sent, .count (.ok data.length)⟩ :: later) c₃ k₃ →
      c₃.pendingCount = 0 → StandAt path k₃ (here + c₁.pendingCount) data := by
  intro shared
  obtain ⟨read, told, wrote⟩ := runs_sixBytes
  obtain ⟨contents, found, stands⟩ := shared "f" _ _ _ _ _ _ _ _ _ _ _ _ _ _ _ _ _ 2 [7] _
    calm_sixBytes rfl rfl opened_sixBytes rfl (by decide) read told wrote rfl
  have bytes : (sixAfter [.read 2 .never, .tell, .write [7] .never, .flush .never]).host.bytes? "f"
      = some [1, 2, 3, 4, 7, 6] := by cbv
  obtain rfl := Option.some.inj (bytes.symm.trans found)
  exact absurd stands (by decide)

end Interleaves

end BufferedChannels
