import BufferedChannels.Proofs.Bounds
import BufferedChannels.Proofs.Passage
import BufferedChannels.Proofs.Wire

/-!
# Proofs/HungUp — a stream of the simulated kernel that hung up

`Kernel.Feeds` says that a kernel keeps a given `Wire` behind a descriptor: a stream whose other
end has hung up, which is not broken and has room for everything, with nobody else near it.  As
long as its script is **gentle** — calls are cut short, interrupted or blocked, and nothing worse —
every call on the descriptor is answered as the wire replies, and so is every dialogue
(`Feeds.converses`).
-/

namespace BufferedChannels.Simulation

/-! ## Gentle scripts -/

/-- **An adjustment that only delays the bytes**: a call is cut short to at least one of them, it is
interrupted, or it is blocked. -/
structure Adjustment.Gentle (adjustment : Adjustment) : Prop where
  errno : ∀ x, adjustment.errno? = some x → x = .interrupted ∨ x = .wouldBlock
  most : adjustment.max? ≠ some 0

/-- A call that moves bytes or waits. -/
def CallKind.transfers : CallKind → Bool
  | .read | .write | .poll => true
  | _ => false

/-- **A gentle script**: so are all its words on reads, writes and polls. -/
def Gentle (script : List (CallKind × Adjustment)) : Prop :=
  ∀ item ∈ script, item.1.transfers = true → item.2.Gentle

theorem gentle_none : Adjustment.Gentle {} := ⟨nofun, nofun⟩

theorem Adjustment.Gentle.asksAgain {adjustment : Adjustment} (h : adjustment.Gentle) {x : Errno}
    (is : adjustment.errno? = some x) : x.AsksAgain := by
  obtain rfl | rfl := h.errno x is
  · exact .inl (by decide)
  · exact .inr (by decide)

/-- **A stream whose other end has hung up**, which is not broken and has room for everything. -/
structure Stream.Settled (stream : Stream) : Prop where
  hungUp : stream.hungUp = true
  sound : stream.broken = false
  roomy : stream.room? = none

/-- **The terms of a descriptor**: what it was opened for, and standard error takes everything and
keeps nothing. -/
def termsOf (fd : Int) (access : Access) : Terms where
  allows
    | .readable => access ≠ .writeOnly
    | .writable => fd = standardError ∨ access ≠ .readOnly
  arrives := fd ≠ standardError

namespace Kernel

/-! ## The stream behind a descriptor -/

/-- **A kernel keeps a stream behind a descriptor** that hung up, and nobody else touches it; its
patience is as long as its script. -/
structure Feeds (k : Kernel) (fd : Int) (path : String) (terms : Terms) (w : Wire) : Prop where
  alone : ∀ event ∈ k.events, event.2.node ≠ path
  opened : ∃ file, k.descriptors.lookup fd = some file ∧ file.node = path ∧
    terms = termsOf fd file.flags.access
  stored : ∃ stream script, k.node? path = some { body := .stream stream, script } ∧
    stream.Settled ∧ Gentle script ∧ w = ⟨stream.unread, stream.written.toBytes, script.length⟩

/-- **A descriptor stands on a stream** at a path, opened for some access, with a script; nothing
is to befall the stream. -/
structure Streams (k : Kernel) (fd : Int) (path : String) (access : Access) (stream : Stream)
    (script : List (CallKind × Adjustment)) : Prop where
  opened : ∃ file, k.descriptors.lookup fd = some file ∧ file.node = path ∧
    file.flags.access = access
  stored : k.node? path = some { body := .stream stream, script }
  alone : ∀ event ∈ k.events, event.2.node ≠ path

variable {k k' : Kernel} {fd : Int} {path : String} {terms : Terms} {w : Wire}

theorem Streams.feeds {access : Access} {stream : Stream} {script : List (CallKind × Adjustment)}
    (h : k.Streams fd path access stream script) (settled : stream.Settled)
    (gentle : Gentle script) :
    k.Feeds fd path (termsOf fd access) ⟨stream.unread, stream.written.toBytes, script.length⟩ where
  alone := h.alone
  opened := by
    obtain ⟨file, found, node, rfl⟩ := h.opened
    exact ⟨file, found, node, rfl⟩
  stored := ⟨stream, script, h.stored, settled, gentle, rfl⟩

/-- **Whatever happens elsewhere**, the stream stays. -/
theorem Feeds.elsewhere (h : k.Feeds fd path terms w) (other : Elsewhere fd path k k') :
    k'.Feeds fd path terms w where
  alone := other.alone h.alone
  opened := by
    rw [other.descriptor]
    exact h.opened
  stored := by
    rw [other.node]
    exact h.stored

theorem Feeds.allocate (h : k.Feeds fd path terms w) : k.allocate.2.Feeds fd path terms w :=
  h.elsewhere ⟨rfl, rfl, fun alone => alone, rfl⟩

/-- A stream whose bytes or script change. -/
theorem Feeds.setNode (h : k.Feeds fd path terms w) {stream : Stream}
    {script : List (CallKind × Adjustment)} (settled : stream.Settled) (gentle : Gentle script) :
    (k.setNode path { body := .stream stream, script }).Feeds fd path terms
      ⟨stream.unread, stream.written.toBytes, script.length⟩ where
  alone := h.alone
  opened := h.opened
  stored := ⟨stream, script, by rw [node?_setNode, if_pos rfl], settled, gentle, rfl⟩

/-- **The script has its word**, a gentle one, which takes patience unless it is none. -/
theorem Feeds.consult (h : k.Feeds fd path terms w) (kind : CallKind)
    (transfers : kind.transfers = true) :
    ∃ patience, (k.consult path kind).2.Feeds fd path terms ⟨w.unread, w.written, patience⟩ ∧
      patience ≤ w.patience ∧ (k.consult path kind).1.Gentle ∧
      ((k.consult path kind).1 ≠ {} → patience < w.patience) := by
  obtain ⟨stream, script, found, settled, gentle, rfl⟩ := h.stored
  obtain ⟨left, consulted⟩ := k.consulted found h.alone kind
  have before := h.setNode settled fun item hi => gentle item (consulted.subset item hi)
  obtain ⟨le, less⟩ := consulted.length_le
  refine ⟨_, before.elsewhere (consulted.elsewhere fd), le, ?_, less⟩
  obtain ⟨none, _⟩ | ⟨mem, _⟩ := consulted.word
  · rw [none]
    exact gentle_none
  · exact gentle _ mem transfers

/-- **The bytes written to the stream** at a path. -/
def written? (k : Kernel) (path : String) : Option Bytes :=
  match k.node? path with
  | some { body := .stream stream, .. } => some stream.written.toBytes
  | _ => none

theorem Feeds.written?_eq (h : k.Feeds fd path terms w) : k.written? path = some w.written := by
  obtain ⟨stream, script, found, _, _, rfl⟩ := h.stored
  rw [written?, found]

/-! ## Calls on the descriptor -/

/-- **A call on the descriptor**: the script has it try again, or it does what it does to the
stream. -/
theorem Feeds.onDescriptor {α : Type} (h : k.Feeds fd path terms w) (kind : CallKind)
    (transfers : kind.transfers = true)
    (act : Kernel → OpenFile → Body → Option Nat → Except Errno α × Kernel) :
    ∃ k₁ patience, k₁.Feeds fd path terms ⟨w.unread, w.written, patience⟩ ∧
      patience ≤ w.patience ∧
      ((∃ x, k.onDescriptor fd kind act = (.error x, k₁) ∧ x.AsksAgain ∧ patience < w.patience) ∨
        ∃ file stream script max?, file.node = path ∧ terms = termsOf fd file.flags.access ∧
          k₁.node? path = some { body := .stream stream, script } ∧ stream.Settled ∧
          Gentle script ∧ w.unread = stream.unread ∧ w.written = stream.written.toBytes ∧
          patience = script.length ∧ max? ≠ some 0 ∧
          k.onDescriptor fd kind act = act k₁ file (.stream stream) max?) := by
  obtain ⟨file, found, rfl, access⟩ := h.opened
  obtain ⟨patience, kept, le, gentle, less⟩ := h.consult kind transfers
  refine ⟨(k.consult file.node kind).2, patience, kept, le, ?_⟩
  unfold Kernel.onDescriptor
  rw [found]
  dsimp only
  cases errno : (k.consult file.node kind).1.errno? with
  | some x =>
    exact .inl ⟨x, rfl, gentle.asksAgain errno, less (Adjustment.ne_none errno)⟩
  | none =>
    obtain ⟨stream, script, stored, settled, fair, same⟩ := kept.stored
    obtain ⟨unread, written, left⟩ := Wire.mk.inj same
    refine .inr ⟨file, stream, script, (k.consult file.node kind).1.max?, rfl, access, stored,
      settled, fair, unread, written, left, gentle.most, ?_⟩
    rw [stored]

/-- **Reads** bring a first part of what is unread. -/
theorem Feeds.read (h : k.Feeds fd path terms w) {len : Nat} (pos : 0 < len) :
    ∃ w', w.Replies terms fd (Descriptor.reading fd len (k.read fd len).1) w' ∧
      (k.read fd len).2.Feeds fd path terms w' := by
  unfold Kernel.read
  obtain ⟨k₁, patience, kept, le, ⟨x, run, again, less⟩ | ⟨file, stream, script, max?, node, access,
    stored, settled, gentle, unread, written, left, most, run⟩⟩ := h.onDescriptor .read rfl _
  · rw [run]
    exact ⟨_, .late (.read len) again less, kept⟩
  rw [run]
  have some : 0 < limited len max? := limited_pos pos most
  dsimp only
  split
  · next closed => exact ⟨_, .refused (.read len) (by simp [access, termsOf, closed]) le, kept⟩
  have allowed : terms.allows .readable = true := by simp_all [termsOf]
  have brought : w.Replies terms fd
      (Descriptor.reading fd len (.ok (w.unread.take (limited len max?)))) _ :=
    .read allowed some le
  split
  · next ends =>
    -- Nothing is unread, and the read says so.
    have empty : w.unread = [] := by simp_all
    rw [if_pos settled.hungUp]
    have none : w.unread.take (limited len max?) = [] := by rw [empty, List.take_nil]
    have all : w.unread.drop (limited len max?) = w.unread := by rw [empty, List.drop_nil]
    rw [none, all] at brought
    exact ⟨_, brought, kept⟩
  · rw [unread, written, left] at brought
    refine ⟨_, brought, ?_⟩
    subst node
    rw [setBody_of_node stored]
    exact kept.setNode ⟨settled.hungUp, settled.sound, settled.roomy⟩ gentle

/-- **Writes** take a first part of the data, and on standard error all of it. -/
theorem Feeds.write (h : k.Feeds fd path terms w) {data : Bytes} (some : data ≠ []) :
    ∃ w', w.Replies terms fd (Descriptor.writing fd data (k.write fd data).1) w' ∧
      (k.write fd data).2.Feeds fd path terms w' := by
  have pos : 0 < data.length := List.length_pos_iff.2 some
  unfold Kernel.write
  split
  · next number =>
    obtain ⟨file, _, _, access⟩ := h.opened
    have allowed : terms.allows .writable = true := by simp [access, termsOf, number]
    have took : w.Replies terms fd (Descriptor.writing fd data (.ok data.length)) _ :=
      .wrote allowed pos (Nat.le_refl _) (Nat.le_refl w.patience)
    have lost : terms.arriving (data.take data.length) = [] := by
      simp [access, termsOf, Terms.arriving, number]
    rw [lost, List.append_nil] at took
    exact ⟨w, took, h⟩
  next number =>
  unfold Kernel.writeNode
  obtain ⟨k₁, patience, kept, le, ⟨x, run, again, less⟩ | ⟨file, stream, script, max?, node, access,
    stored, settled, gentle, unread, written, left, most, run⟩⟩ := h.onDescriptor .write rfl _
  · rw [run]
    exact ⟨_, .late (.write data) again less, kept⟩
  rw [run]
  have fits : limited data.length max? ≤ data.length := Nat.min_le_left _ _
  have count : (data.take (limited data.length max?)).length = limited data.length max? :=
    List.length_take_of_le fits
  dsimp only
  split
  · next closed =>
    exact ⟨_, .refused (.write data) (by simp [access, termsOf, closed, number]) le, kept⟩
  next open_ =>
  have allowed : terms.allows .writable = true := by simp [access, termsOf, open_]
  have took : w.Replies terms fd
      (Descriptor.writing fd data (.ok (limited data.length max?))) _ :=
    .wrote allowed (limited_pos pos most) fits le
  have arrives (bytes : Bytes) : terms.arriving bytes = bytes := by
    simp [access, termsOf, Terms.arriving, number]
  rw [arrives, unread, written, left] at took
  rw [settled.sound, settled.roomy]
  simp only [Bool.false_eq_true, if_false, Option.getD_none, List.take_length, Option.map_none,
    reduceCtorEq, decide_false, Bool.false_and]
  rw [count]
  refine ⟨_, took, ?_⟩
  subst node
  rw [setBody_of_node stored, ← Contents.toBytes_append]
  exact kept.setNode ⟨settled.hungUp, rfl, rfl⟩ gentle

/-- **Polls** end at once. -/
theorem Feeds.poll (h : k.Feeds fd path terms w) (direction : Direction) (timeout : Option Nat) :
    ∃ w', w.Replies terms fd ⟨.poll fd direction timeout, (k.poll fd direction timeout).1⟩ w' ∧
      (k.poll fd direction timeout).2.Feeds fd path terms w' := by
  obtain ⟨file, found, rfl, _⟩ := h.opened
  obtain ⟨patience, kept, le, gentle, less⟩ := h.consult .poll rfl
  unfold Kernel.poll
  rw [found]
  dsimp only
  cases errno : (k.consult file.node .poll).1.errno? with
  | some x =>
    exact ⟨_, .troubled (less (Adjustment.ne_none errno)), kept⟩
  | none =>
    obtain ⟨stream, script, stored, settled, _⟩ := kept.stored
    have ready : ((k.consult file.node .poll).2.node? file.node).all
        (fun node => node.body.isReady direction) = true := by
      rw [stored]
      cases direction <;> simp [Body.isReady, settled.hungUp, settled.roomy]
    dsimp only
    unfold awaitNode
    rw [if_pos ready]
    exact ⟨_, .ready le, kept⟩

/-- **A word with the scheduler** leaves the stream alone. -/
theorem Feeds.wait (h : k.Feeds fd path terms w) (direction : Direction) :
    (k.wait direction).2.Feeds fd path terms w := by
  unfold Kernel.wait
  split
  · exact h
  · next rest _ =>
    have same : Elsewhere fd path k { k with wakes := rest } :=
      ⟨rfl, rfl, fun alone => alone, rfl⟩
    have before := h.elsewhere same
    exact before.elsewhere (elsewhere_sleep fd before.alone _)

/-! ## Dialogues -/

/-- **Whatever a transfer asks**, the stream replies as its wire. -/
theorem Feeds.answer (h : k.Feeds fd path terms w) {r : Request}
    (transfers : Exchange.Transfers fd ⟨r, (k.answer r).1⟩) :
    ∃ w', w.Replies terms fd ⟨r, (k.answer r).1⟩ w' ∧ (k.answer r).2.Feeds fd path terms w' := by
  generalize whole : (⟨r, (k.answer r).1⟩ : Exchange) = e at transfers
  cases transfers with
  | read reply pos =>
    cases whole
    exact h.read pos
  | write reply some =>
    cases whole
    exact h.write some
  | poll direction timeout reply =>
    cases whole
    exact h.poll direction timeout
  | wait direction left reply =>
    cases whole
    exact ⟨w, .waited _, h.wait direction⟩

/-- **A dialogue with the stream** is one with its wire. -/
theorem Feeds.converses {es : Dialogue} (h : k.Feeds fd path terms w)
    (leads : Host.Leads k es k') (transfers : es.Transfers fd) :
    ∃ w', w.Converses terms fd es w' ∧ k'.Feeds fd path terms w' := by
  induction leads generalizing w with
  | nil k => exact ⟨w, .nil w, h⟩
  | cons r _ ih =>
    obtain ⟨first, rest⟩ := List.forall_mem_cons.1 transfers
    obtain ⟨w₁, reply, kept⟩ := h.answer first
    obtain ⟨w', converses, kept'⟩ := ih kept rest
    exact ⟨w', .cons reply converses, kept'⟩
  | allocate _ ih => exact ih h.allocate transfers

end Kernel

end BufferedChannels.Simulation
