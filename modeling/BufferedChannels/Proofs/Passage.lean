import Mathlib.Data.List.TakeWhile
import BufferedChannels.Proofs.Clock
import BufferedChannels.Waiter.Wait

/-!
# Proofs/Passage — what scripts and time leave alone

Before a call does what it does, its script may have it wait, and events befall nodes meanwhile.
None of this opens or closes a descriptor (`SameTable`), takes anything away from a node or writes
its script: a file **only grows** (`Grown`), a script only loses words (`Unwritten`), and no node
comes to be.  And whatever is asked of a kernel, it lends the number that stands for no descriptor
to nobody (`LendsNone`).
-/

namespace BufferedChannels.Simulation

namespace Contents

theorem size_append (c : Contents) (new : Bytes) : (c.append new).size = c.size + new.length := by
  rw [← length_toBytes, toBytes_append, List.length_append, length_toBytes]

/-- **A write makes a file as long as it reaches**, and never shorter. -/
theorem size_write (c : Contents) (start : Nat) (new : Bytes) :
    (c.write start new).size = max c.size (start + new.length) := by
  rw [← length_toBytes]
  rcases Nat.lt_or_ge start c.size with before | behind
  · rw [toBytes_write_of_lt_size before, Bytes.overwrite, List.length_append, List.length_append,
      List.length_take, List.length_drop, length_toBytes]
    omega
  · rw [toBytes_write_of_size_le behind, List.length_append, List.length_append,
      List.length_replicate, length_toBytes]
    omega

end Contents

/-- **What becomes of a body that nobody truncates**: it stays what it is, and a file does not get
shorter. -/
inductive Body.Grows : Body → Body → Prop
  | file {contents contents' : Contents} : contents.size ≤ contents'.size →
      Grows (.file contents) (.file contents')
  | directory (contents contents' : Contents) : Grows (.directory contents) (.directory contents')
  | stream (stream stream' : Stream) : Grows (.stream stream) (.stream stream')

namespace Body.Grows

variable {body body' body'' : Body}

theorem refl (body : Body) : body.Grows body := by
  cases body
  · exact .file (Nat.le_refl _)
  · exact .directory _ _
  · exact .stream _ _

theorem trans (h : body.Grows body') (h' : body'.Grows body'') : body.Grows body'' := by
  cases h with
  | file le =>
    cases h' with
    | file le' => exact .file (Nat.le_trans le le')
  | directory =>
    cases h'
    exact .directory _ _
  | stream =>
    cases h'
    exact .stream _ _

end Body.Grows

theorem Stimulus.grows_apply (s : Stimulus) (node : Node) :
    node.body.Grows (s.apply node).body := by
  unfold apply
  dsimp only
  rcases node.body with contents | contents | stream
  · refine .file ?_
    rw [Contents.size_append]
    exact Nat.le_add_right _ _
  · exact .directory _ _
  · exact .stream _ _

namespace Kernel

variable {k k' k'' : Kernel}

/-! ## The table of descriptors -/

/-- **Kernels that differ in their nodes** and in how far time has got: the descriptors and the
allocations to come are the same. -/
def SameTable (k k' : Kernel) : Prop :=
  k'.descriptors = k.descriptors ∧ k'.failingAllocation = k.failingAllocation

theorem SameTable.trans (h : SameTable k k') (h' : SameTable k' k'') : SameTable k k'' :=
  ⟨h'.1.trans h.1, h'.2.trans h.2⟩

theorem sameTable_setBody (k : Kernel) (name : String) (body : Body) :
    SameTable k (k.setBody name body) := by
  unfold setBody
  split <;> exact ⟨rfl, rfl⟩

theorem sameTable_befall (k : Kernel) (s : Stimulus) : SameTable k (k.befall s) := by
  unfold befall
  split <;> exact ⟨rfl, rfl⟩

/-! ## Bodies -/

/-- The body of the node under a name. -/
def body? (k : Kernel) (name : String) : Option Body := (k.node? name).map Node.body

/-- **Kernels whose nodes only grow.** -/
def Grown (k k' : Kernel) : Prop :=
  ∀ name body', k'.body? name = some body' → ∃ body, k.body? name = some body ∧ body.Grows body'

theorem Grown.of_same (same : k'.nodes = k.nodes) : Grown k k' := fun name body' found =>
  ⟨body', by rwa [body?, node?, ← same], .refl body'⟩

theorem Grown.trans (h : Grown k k') (h' : Grown k' k'') : Grown k k'' := by
  intro name body'' found
  obtain ⟨body', found', grows'⟩ := h' name body'' found
  obtain ⟨body, found, grows⟩ := h name body' found'
  exact ⟨body, found, grows.trans grows'⟩

theorem body?_setNode (k : Kernel) (name other : String) (node : Node) :
    (k.setNode name node).body? other = if other = name then some node.body else k.body? other := by
  rw [body?, node?_setNode]
  split <;> rfl

/-- A node that grows, or only loses words of its script. -/
theorem grown_setNode {name : String} {node node' : Node} (found : k.node? name = some node)
    (grows : node.body.Grows node'.body) : Grown k (k.setNode name node') := by
  intro other body' there
  rw [body?_setNode] at there
  split at there
  · next here =>
    obtain rfl := Option.some.inj there
    exact ⟨node.body, by rw [here, body?, found]; rfl, grows⟩
  · exact ⟨body', there, .refl body'⟩

theorem grown_befall (k : Kernel) (s : Stimulus) : Grown k (k.befall s) := by
  unfold befall
  split
  · next node found => exact grown_setNode found (s.grows_apply node)
  · exact .of_same rfl

theorem body?_befall (k : Kernel) {s : Stimulus} {name : String} (other : s.node ≠ name) :
    (k.befall s).body? name = k.body? name := by
  unfold befall
  split
  · rw [body?_setNode, if_neg (Ne.symm other)]
  · rfl

/-! ## Scripts -/

/-- **Kernels whose scripts only lose words.** -/
def Unwritten (k k' : Kernel) : Prop :=
  ∀ name node', k'.node? name = some node' →
    ∃ node, k.node? name = some node ∧ ∀ item ∈ node'.script, item ∈ node.script

theorem Unwritten.of_same (same : k'.nodes = k.nodes) : Unwritten k k' := fun name node' found =>
  ⟨node', by rwa [node?, ← same], fun _ mem => mem⟩

theorem Unwritten.trans (h : Unwritten k k') (h' : Unwritten k' k'') : Unwritten k k'' := by
  intro name node'' found
  obtain ⟨node', found', words'⟩ := h' name node'' found
  obtain ⟨node, found, words⟩ := h name node' found'
  exact ⟨node, found, fun item mem => words item (words' item mem)⟩

theorem unwritten_setNode {name : String} {node node' : Node} (found : k.node? name = some node)
    (words : ∀ item ∈ node'.script, item ∈ node.script) : Unwritten k (k.setNode name node') := by
  intro other node'' there
  rw [node?_setNode] at there
  split at there
  · next here =>
    obtain rfl := Option.some.inj there
    exact ⟨node, here ▸ found, words⟩
  · exact ⟨node'', there, fun _ mem => mem⟩

theorem unwritten_befall (k : Kernel) (s : Stimulus) : Unwritten k (k.befall s) := by
  unfold befall
  split
  · next node found => exact unwritten_setNode found fun _ mem => mem
  · exact .of_same rfl

/-! ## Time -/

/-- **No event is overdue.**  It is so once a kernel has begun, and every call leaves it so. -/
def Settled (k : Kernel) : Prop := (k.events.takeWhile fun event => event.1 ≤ k.clock) = []

/-- **What happens to others** opens and closes nothing, takes nothing away and writes no script.
What no event is about stays as it is. -/
structure Passes (k k' : Kernel) : Prop where
  table : SameTable k k'
  grown : Grown k k'
  unwritten : Unwritten k k'
  alone : ∀ name, (∀ event ∈ k.events, event.2.node ≠ name) → k'.body? name = k.body? name
  events : ∀ event ∈ k'.events, event ∈ k.events
  largestFile : k'.largestFile = k.largestFile
  settled : k.Settled → k'.Settled

theorem Passes.refl (k : Kernel) : Passes k k :=
  ⟨⟨rfl, rfl⟩, .of_same rfl, .of_same rfl, fun _ _ => rfl, fun _ mem => mem, rfl, fun h => h⟩

theorem Passes.trans (h : Passes k k') (h' : Passes k' k'') : Passes k k'' where
  table := h.table.trans h'.table
  grown := h.grown.trans h'.grown
  unwritten := h.unwritten.trans h'.unwritten
  alone name others := (h'.alone name fun event mem => others event (h.events event mem)).trans
    (h.alone name others)
  events event mem := h.events event (h'.events event mem)
  largestFile := h'.largestFile.trans h.largestFile
  settled settled := h'.settled (h.settled settled)

/-- Events that befall nodes one after another. -/
theorem befallAll_spec (due : List (Nat × Stimulus)) (k : Kernel) :
    let k' := due.foldl (fun k event => k.befall event.2) k
    SameTable k k' ∧ Grown k k' ∧ Unwritten k k' ∧ k'.events = k.events ∧
      k'.clock = k.clock ∧ k'.largestFile = k.largestFile ∧
        ∀ name, (∀ event ∈ due, event.2.node ≠ name) → k'.body? name = k.body? name := by
  induction due generalizing k with
  | nil => exact ⟨⟨rfl, rfl⟩, .of_same rfl, .of_same rfl, rfl, rfl, rfl, fun _ _ => rfl⟩
  | cons event rest ih =>
    obtain ⟨table, grown, unwritten, events, clock, largest, alone⟩ := ih (k.befall event.2)
    have still : (k.befall event.2).events = k.events ∧ (k.befall event.2).clock = k.clock ∧
        (k.befall event.2).largestFile = k.largestFile := by
      unfold befall
      split <;> exact ⟨rfl, rfl, rfl⟩
    refine ⟨(sameTable_befall k event.2).trans table, (grown_befall k event.2).trans grown,
      (unwritten_befall k event.2).trans unwritten, events.trans still.1, clock.trans still.2.1,
      largest.trans still.2.2, fun name others => ?_⟩
    obtain ⟨first, later⟩ := List.forall_mem_cons.1 others
    exact (alone name later).trans (k.body?_befall first)

/-- **Time passes**, and then no event is overdue. -/
theorem passes_advanceTo (k : Kernel) (instant : Nat) :
    Passes k (k.advanceTo instant) ∧ (k.advanceTo instant).Settled := by
  obtain ⟨table, grown, unwritten, events, clock, largest, alone⟩ :=
    befallAll_spec (k.events.takeWhile fun event => event.1 ≤ max k.clock instant)
      { k with
        clock := max k.clock instant
        events := k.events.dropWhile fun event => event.1 ≤ max k.clock instant }
  have settled : (k.advanceTo instant).Settled := by
    rw [Settled, advanceTo, events, clock]
    exact List.takeWhile_eq_nil_iff.2 fun some => List.dropWhile_get_zero_not _ _ some
  refine ⟨⟨table, grown, unwritten, fun name others => alone name fun event mem =>
    others event ((List.takeWhile_sublist _).mem mem), fun event mem => ?_, largest,
    fun _ => settled⟩, settled⟩
  rw [advanceTo, events] at mem
  exact (List.dropWhile_sublist _).mem mem

/-- Where nothing is overdue, **no time** is nothing. -/
theorem Settled.sleep_zero (h : k.Settled) : k.sleep 0 = k := by
  have all : (k.events.dropWhile fun event => event.1 ≤ k.clock) = k.events := by
    have whole := k.events.takeWhile_append_dropWhile (p := fun event => event.1 ≤ k.clock)
    rwa [h, List.nil_append] at whole
  rw [sleep, advanceTo, Nat.add_zero, Nat.max_self, h, all]
  rfl

/-- **A script has its word**: the word goes, and time may pass. -/
theorem passes_consult (k : Kernel) (name : String) (kind : CallKind) :
    Passes k (k.consult name kind).2 := by
  unfold consult
  split
  · exact .refl k
  · next node found =>
    have word : Passes k (k.setNode name { node with script :=
        (takeAdjustment kind node.script).2 }) := by
      refine ⟨⟨rfl, rfl⟩, grown_setNode found (.refl node.body),
        unwritten_setNode found (takeAdjustment_spec kind node.script).2, fun other _ => ?_,
        fun _ mem => mem, rfl, fun h => h⟩
      rw [body?_setNode]
      split
      · next here => rw [here, body?, found]; rfl
      · rfl
    exact word.trans (passes_advanceTo _ _).1

/-- **The ways of a call on a descriptor**: it is refused, or it does what it does; in both cases
its script had its word before. -/
theorem onDescriptor_ways {α : Type} (k : Kernel) (fd : Int) (kind : CallKind)
    (act : Kernel → OpenFile → Body → Option Nat → Except Errno α × Kernel) :
    ∃ k₁, Passes k k₁ ∧ ((∃ e, k.onDescriptor fd kind act = (.error e, k₁)) ∨
      ∃ file body max?, k₁.descriptors.lookup fd = some file ∧ k₁.body? file.node = some body ∧
        k.onDescriptor fd kind act = act k₁ file body max?) := by
  unfold onDescriptor
  split
  · exact ⟨k, .refl k, .inl ⟨_, rfl⟩⟩
  next file opened =>
  have passes := k.passes_consult file.node kind
  refine ⟨_, passes, ?_⟩
  dsimp only
  split
  · exact .inl ⟨_, rfl⟩
  split
  · exact .inl ⟨_, rfl⟩
  · next node found =>
    refine .inr ⟨file, node.body, _, by rw [passes.table.1, opened], ?_, rfl⟩
    rw [body?, found]
    rfl

/-- Waiting for a node only lets time pass. -/
theorem passes_awaitNode (name : String) (direction : Direction) (limit? : Option Nat) (fuel : Nat)
    (k : Kernel) : Passes k (awaitNode name direction limit? fuel k).2 := by
  refine awaitNode_of_ways (P := fun _ => True) (R := fun k r => Passes k r.2)
    (fun k _ _ => .refl k) (fun k _ _ => ?_)
    (fun k instant _ => ⟨trivial, fun r later => (passes_advanceTo k instant).1.trans later⟩)
    fuel trivial
  unfold expire
  split
  · exact (passes_advanceTo k _).1
  · exact .refl k

/-- **A poll** only lets time pass. -/
theorem passes_poll (k : Kernel) (fd : Int) (direction : Direction) (timeout : Option Nat) :
    Passes k (k.poll fd direction timeout).2 := by
  unfold poll
  split
  · exact .refl k
  · next file _ =>
    have told := k.passes_consult file.node .poll
    dsimp only
    split
    · exact told
    · exact told.trans (passes_awaitNode ..)

/-- **A scheduler's wait** only lets time pass. -/
theorem passes_wait (k : Kernel) (direction : Direction) : Passes k (k.wait direction).2 := by
  unfold wait
  split
  · exact .refl k
  · next rest _ =>
    have word : Passes k { k with wakes := rest } := ⟨⟨rfl, rfl⟩, .of_same rfl, .of_same rfl,
      fun _ _ => rfl, fun _ mem => mem, rfl, fun h => h⟩
    exact word.trans (passes_advanceTo _ _).1

/-! ## The number that stands for no descriptor -/

/-- **No descriptor has the number that stands for none.**  An opening that returns it has failed,
and a call that names it is refused. -/
def LendsNone (k : Kernel) : Prop := k.descriptors.lookup Waiter.noDescriptor = none

namespace LendsNone

variable {fd : Int}

/-- **What is open has another number.** -/
theorem numbered (h : k.LendsNone) {file : OpenFile}
    (opened : k.descriptors.lookup fd = some file) :
    fd ≠ Waiter.noDescriptor := by
  rintro rfl
  exact nomatch h.symm.trans opened

theorem sameTable (h : k.LendsNone) (same : SameTable k k') : k'.LendsNone := by
  rw [LendsNone, same.1]
  exact h

theorem setDescriptor (h : k.LendsNone) (numbered : fd ≠ Waiter.noDescriptor) (file : OpenFile) :
    (k.setDescriptor fd file).LendsNone :=
  (lookup_assign ..).trans ((if_neg (Ne.symm numbered)).trans h)

theorem newDescriptor (h : k.LendsNone) (name : String) (flags : Flags) :
    (k.newDescriptor name flags).2.LendsNone := by
  refine h.setDescriptor (fun none => ?_) _
  have number : (k.freeDescriptor : Int) = -1 := none
  omega

theorem onDescriptor {α : Type} (h : k.LendsNone) {kind : CallKind}
    {act : Kernel → OpenFile → Body → Option Nat → Except Errno α × Kernel}
    (acts : ∀ k file body max?, k.LendsNone → fd ≠ Waiter.noDescriptor →
      (act k file body max?).2.LendsNone) : (k.onDescriptor fd kind act).2.LendsNone := by
  obtain ⟨k₁, passes, ⟨e, run⟩ | ⟨file, body, max?, opened, _, run⟩⟩ :=
    k.onDescriptor_ways fd kind act
  all_goals
    have none := h.sameTable passes.table
    rw [run]
  · exact none
  · exact acts k₁ file body max? none (none.numbered opened)

theorem openPath (h : k.LendsNone) (path : String) (flags : Flags) :
    (k.openPath path flags).2.LendsNone := by
  have told := h.sameTable (k.passes_consult path .openPath).table
  unfold Kernel.openPath
  dsimp only
  split
  · exact told
  split
  · split
    · exact newDescriptor (k := Kernel.setNode _ _ _) told path flags
    · exact told
  split
  · exact told
  split
  · exact told
  split
  · exact told
  · refine newDescriptor ?_ path flags
    split
    · split
      · exact told.sameTable (sameTable_setBody _ path (.file {}))
      · exact told
    · exact told

theorem read (h : k.LendsNone) (len : Nat) : (k.read fd len).2.LendsNone := by
  refine h.onDescriptor fun k file body max? h numbered => ?_
  dsimp only
  split
  · exact h
  rcases body with contents | _ | stream
  · exact h.setDescriptor numbered _
  · exact h
  · dsimp only
    split
    · split <;> exact h
    · exact h.sameTable (sameTable_setBody k file.node _)

theorem writeAt (h : k.LendsNone) (numbered : fd ≠ Waiter.noDescriptor) (file : OpenFile)
    (contents : Contents) (rebuild : Contents → Body) (data : Bytes) :
    (k.writeAt fd file contents rebuild data).2.LendsNone := by
  unfold Kernel.writeAt
  generalize (if file.flags.append then contents.size else file.offset) = offset
  dsimp only
  split
  · exact h.setDescriptor numbered _
  split
  · exact h.setDescriptor numbered _
  · exact (h.sameTable (sameTable_setBody k file.node _)).setDescriptor numbered _

theorem write (h : k.LendsNone) (data : Bytes) : (k.write fd data).2.LendsNone := by
  unfold Kernel.write
  split
  · exact h
  refine h.onDescriptor fun k file body max? h numbered => ?_
  dsimp only
  split
  · exact h
  rcases body with contents | contents | stream
  · exact h.writeAt numbered ..
  · exact h.writeAt numbered ..
  · dsimp only
    split
    · exact h
    split
    · exact h
    · exact h.sameTable (sameTable_setBody k file.node _)

theorem seek (h : k.LendsNone) (offset : Int) (whence : Whence) :
    (k.seek fd offset whence).2.LendsNone := by
  refine h.onDescriptor fun k file body max? h numbered => ?_
  dsimp only
  split
  · exact h
  · generalize (_ + offset : Int) = target
    split
    · exact h
    · exact h.setDescriptor numbered _

theorem close (h : k.LendsNone) (fd : Int) : (k.close fd).2.LendsNone := by
  unfold Kernel.close
  split
  · exact h
  · next file _ =>
    have told := h.sameTable (k.passes_consult file.node .close).table
    have left : ((k.consult file.node .close).2.descriptors.filter fun entry =>
        entry.1 ≠ fd).lookup Waiter.noDescriptor = none := by
      rw [lookup_filter_ne]
      split
      · rfl
      · exact told
    dsimp only
    split <;> exact left

/-- **Whatever is asked**, the number is not lent. -/
theorem answer (h : k.LendsNone) (r : Request) : (k.answer r).2.LendsNone := by
  cases r with
  | openPath path flags _ => exact h.openPath path flags
  | read fd len => exact h.read len
  | write fd data => exact h.write data
  | seek fd offset whence => exact h.seek offset whence
  | stat fd => exact h.onDescriptor fun _ _ _ _ h _ => h
  | close fd => exact h.close fd
  | getFlags fd => exact h.onDescriptor fun _ _ _ _ h _ => h
  | setFlags fd flags => exact h.onDescriptor fun _ _ _ _ h numbered => h.setDescriptor numbered _
  | poll fd direction timeout => exact h.sameTable (k.passes_poll fd direction timeout).table
  | claim fd => exact h
  | release fd => exact h
  | wait fd direction left => exact h.sameTable (k.passes_wait direction).table

/-- **However long a program talks to the kernel**, the number is not lent. -/
theorem leads {es : Dialogue} (leads : Host.Leads k es k') (h : k.LendsNone) : k'.LendsNone := by
  induction leads with
  | nil => exact h
  | allocate _ ih => exact ih h
  | cons r _ ih => exact ih (h.answer r)

end LendsNone

end Kernel

end BufferedChannels.Simulation
