import BufferedChannels.Proofs.Bounds
import BufferedChannels.Descriptor
import BufferedChannels.Ownership

/-!
# Proofs/CalmPath — a path that nobody else comes near

A path of the simulated kernel is `Calm` when no event is about it and its script spares moves.
Whatever happens `Elsewhere` leaves it calm, and so do the time that passes and the words of its own
script.
-/

namespace BufferedChannels.Simulation

/-! ## Keys and scripts -/

/-- **Assigning to a key** changes what is found under it only. -/
theorem lookup_assign {α β : Type} [DecidableEq α] (key other : α) (value : β) (l : List (α × β)) :
    (assign key value l).lookup other = if other = key then some value else l.lookup other := by
  induction l with
  | nil => exact Ownership.lookup_cons_eq other key value []
  | cons entry rest ih =>
    obtain ⟨k, v⟩ := entry
    rw [assign]
    by_cases here : k = key
    · rw [if_pos here, Ownership.lookup_cons_eq, Ownership.lookup_cons_eq, here]
      split <;> rfl
    · rw [if_neg here, Ownership.lookup_cons_eq, Ownership.lookup_cons_eq, ih]
      by_cases same : other = key
      · rw [if_pos same, if_neg (same ▸ Ne.symm here), if_pos same]
      · rw [if_neg same, if_neg same]

/-- **Taking a key out** changes what is found under it only. -/
theorem lookup_filter_ne {β : Type} (fd other : Int) (l : List (Int × β)) :
    (l.filter fun entry => entry.1 ≠ fd).lookup other =
      if other = fd then none else l.lookup other := by
  induction l with
  | nil => exact (ite_self none).symm
  | cons entry rest ih =>
    obtain ⟨key, value⟩ := entry
    rw [List.filter_cons, Ownership.lookup_cons_eq]
    by_cases same : key = fd
    · rw [if_neg (by simpa using same), ih, same]
      split <;> rfl
    · rw [if_pos (by simpa using same), Ownership.lookup_cons_eq, ih]
      by_cases here : other = key
      · rw [if_pos here, if_pos here, if_neg (here ▸ same)]
      · rw [if_neg here, if_neg here]

/-- Assigning what is there already changes nothing. -/
theorem assign_of_lookup {α β : Type} [DecidableEq α] {key : α} {value : β} {l : List (α × β)}
    (found : l.lookup key = some value) : assign key value l = l := by
  induction l with
  | nil => cases found
  | cons entry rest ih =>
    obtain ⟨k, v⟩ := entry
    rw [Ownership.lookup_cons_eq] at found
    rw [assign]
    by_cases here : key = k
    · rw [if_pos here] at found
      rw [if_pos here.symm, here, Option.some.inj found]
    · rw [if_neg here] at found
      rw [if_neg (Ne.symm here), ih found]

/-- Of two values that are assigned, the second stays. -/
theorem assign_assign {α β : Type} [DecidableEq α] (key : α) (first second : β) (l : List (α × β)) :
    assign key second (assign key first l) = assign key second l := by
  induction l with
  | nil => exact if_pos rfl
  | cons entry rest ih =>
    obtain ⟨k, v⟩ := entry
    rw [assign, assign]
    by_cases here : k = key
    · rw [if_pos here, if_pos here]
      exact if_pos rfl
    · rw [if_neg here, if_neg here, assign, if_neg here, ih]

/-- **An adjustment is nothing, or a word of the script** that is then gone. -/
theorem takeAdjustment_spec (kind : CallKind) (script : List (CallKind × Adjustment)) :
    (takeAdjustment kind script = ({}, script) ∨
      (kind, (takeAdjustment kind script).1) ∈ script ∧
        (takeAdjustment kind script).2.length < script.length) ∧
      ∀ item ∈ (takeAdjustment kind script).2, item ∈ script := by
  induction script with
  | nil => exact ⟨.inl rfl, fun _ no => no⟩
  | cons first rest ih =>
    obtain ⟨k, adjustment⟩ := first
    rw [takeAdjustment]
    by_cases here : k = kind
    · rw [if_pos here, here]
      exact ⟨.inr ⟨List.mem_cons_self, Nat.lt_succ_self _⟩,
        fun item h => List.mem_cons_of_mem _ h⟩
    · rw [if_neg here]
      obtain ⟨taken, left⟩ := ih
      refine ⟨?_, fun item h => ?_⟩
      · obtain none | ⟨mem, less⟩ := taken
        · rw [none]
          exact .inl rfl
        · exact .inr ⟨List.mem_cons_of_mem _ mem, Nat.succ_lt_succ less⟩
      · rcases List.mem_cons.1 h with rfl | h
        · exact List.mem_cons_self
        · exact List.mem_cons_of_mem _ (left item h)

/-- What has a call fail is a word. -/
theorem Adjustment.ne_none {adjustment : Adjustment} {x : Errno}
    (fails : adjustment.errno? = some x) : adjustment ≠ {} := by
  intro none
  simp [none] at fails

/-- **A script that leaves moves alone** and lets a read that succeeds bring at least a byte. -/
def Fair (script : List (CallKind × Adjustment)) : Prop :=
  ∀ item ∈ script, item.1 ≠ .seek ∧ (item.1 = .read → item.2.max? ≠ some 0)

namespace Kernel

/-! ## What happens elsewhere -/

/-- **What happens elsewhere** leaves a path and a descriptor alone. -/
structure Elsewhere (fd : Int) (path : String) (k k' : Kernel) : Prop where
  node : k'.node? path = k.node? path
  descriptor : k'.descriptors.lookup fd = k.descriptors.lookup fd
  alone : (∀ event ∈ k.events, event.2.node ≠ path) → ∀ event ∈ k'.events, event.2.node ≠ path
  largestFile : k'.largestFile = k.largestFile

theorem Elsewhere.refl (fd : Int) (path : String) (k : Kernel) : Elsewhere fd path k k :=
  ⟨rfl, rfl, fun alone => alone, rfl⟩

theorem Elsewhere.trans {fd : Int} {path : String} {k k' k'' : Kernel}
    (h : Elsewhere fd path k k') (h' : Elsewhere fd path k' k'') : Elsewhere fd path k k'' where
  node := h'.node.trans h.node
  descriptor := h'.descriptor.trans h.descriptor
  alone := fun alone => h'.alone (h.alone alone)
  largestFile := h'.largestFile.trans h.largestFile

theorem node?_setNode (k : Kernel) (name other : String) (node : Node) :
    (k.setNode name node).node? other = if other = name then some node else k.node? other :=
  lookup_assign name other node k.nodes

theorem setBody_of_node {k : Kernel} {name : String} {body : Body}
    {script : List (CallKind × Adjustment)} (found : k.node? name = some { body, script })
    (body' : Body) : k.setBody name body' = k.setNode name { body := body', script } := by
  rw [setBody, found]

theorem elsewhere_befall (fd : Int) {path : String} (k : Kernel) {s : Stimulus}
    (other : s.node ≠ path) : Elsewhere fd path k (k.befall s) := by
  unfold befall
  split
  · refine ⟨?_, rfl, fun alone => alone, rfl⟩
    rw [node?_setNode, if_neg (Ne.symm other)]
  · exact .refl fd path k

theorem elsewhere_foldl_befall (fd : Int) {path : String} (k : Kernel)
    {due : List (Nat × Stimulus)} (others : ∀ event ∈ due, event.2.node ≠ path) :
    Elsewhere fd path k (due.foldl (fun k event => k.befall event.2) k) := by
  induction due generalizing k with
  | nil => exact .refl fd path k
  | cons event rest ih =>
    obtain ⟨first, later⟩ := List.forall_mem_cons.1 others
    exact (elsewhere_befall fd k first).trans (ih (k.befall event.2) later)

/-- **Time passes elsewhere** as far as a path goes that no event is about. -/
theorem elsewhere_sleep (fd : Int) {path : String} {k : Kernel}
    (alone : ∀ event ∈ k.events, event.2.node ≠ path) (duration : Nat) :
    Elsewhere fd path k (k.sleep duration) := by
  have later (clock : Nat) (events : List (Nat × Stimulus)) (le : ∀ e ∈ events, e ∈ k.events) :
      Elsewhere fd path k { k with clock, events } :=
    ⟨rfl, rfl, fun alone e he => alone e (le e he), rfl⟩
  refine (later _ _ fun e he => ?_).trans (elsewhere_foldl_befall fd _ fun e he => ?_)
  · exact (List.dropWhile_sublist _).mem he
  · exact alone e ((List.takeWhile_sublist _).mem he)

theorem consult_of_node {k : Kernel} {path : String} {node : Node}
    (found : k.node? path = some node) (kind : CallKind) :
    k.consult path kind = ((takeAdjustment kind node.script).1,
      (k.setNode path { node with script := (takeAdjustment kind node.script).2 }).sleep
        (takeAdjustment kind node.script).1.delay) := by
  rw [Kernel.consult, found]

/-- **The script's word on a call**: a word of the script that is then gone, or none.  What else
happens before the call happens elsewhere. -/
structure Consulted (k : Kernel) (path : String) (node : Node) (kind : CallKind)
    (script : List (CallKind × Adjustment)) : Prop where
  subset : ∀ item ∈ script, item ∈ node.script
  word : ((k.consult path kind).1 = {} ∧ script = node.script) ∨
    ((kind, (k.consult path kind).1) ∈ node.script ∧ script.length < node.script.length)
  elsewhere : ∀ fd, Elsewhere fd path (k.setNode path { node with script }) (k.consult path kind).2

theorem consulted {k : Kernel} {path : String} {node : Node} (found : k.node? path = some node)
    (alone : ∀ event ∈ k.events, event.2.node ≠ path) (kind : CallKind) :
    ∃ script, k.Consulted path node kind script := by
  obtain ⟨taken, left⟩ := takeAdjustment_spec kind node.script
  refine ⟨_, left, ?_, fun fd => ?_⟩
  · rw [consult_of_node found]
    exact taken.imp_left fun none => ⟨congrArg Prod.fst none, congrArg Prod.snd none⟩
  · rw [consult_of_node found]
    exact elsewhere_sleep fd (k := k.setNode path _) alone _

/-- **A word takes patience**, as much as the script has words. -/
theorem Consulted.length_le {k : Kernel} {path : String} {node : Node} {kind : CallKind}
    {script : List (CallKind × Adjustment)} (h : k.Consulted path node kind script) :
    script.length ≤ node.script.length ∧
      ((k.consult path kind).1 ≠ {} → script.length < node.script.length) := by
  obtain ⟨none, same⟩ | ⟨_, less⟩ := h.word
  · exact ⟨Nat.le_of_eq (congrArg _ same), fun word => absurd none word⟩
  · exact ⟨Nat.le_of_lt less, fun _ => less⟩

/-! ## A path that is left alone -/

/-- **A path is left alone**: no event is about it, its script is fair, and neither its file nor the
greatest size of a file is longer than a position can tell. -/
structure Calm (k : Kernel) (path : String) : Prop where
  alone : ∀ event ∈ k.events, event.2.node ≠ path
  fair : ∀ node, k.node? path = some node → Fair node.script
  short : ∀ contents script, k.node? path = some { body := .file contents, script } →
    contents.toBytes.length ≤ Descriptor.maxOffset
  largest : k.largestFile ≤ Descriptor.maxOffset

/-- **A short file with a fair script** makes its path calm, if no event is about it. -/
theorem calm_of_file {k : Kernel} {path : String} {bytes : Bytes}
    {script : List (CallKind × Adjustment)}
    (found : k.node? path = some { body := .file (.ofBytes bytes), script })
    (alone : ∀ event ∈ k.events, event.2.node ≠ path) (fair : Fair script)
    (short : bytes.length ≤ Descriptor.maxOffset) (largest : k.largestFile ≤ Descriptor.maxOffset) :
    k.Calm path := by
  refine ⟨alone, fun node h => ?_, fun contents script' h => ?_, largest⟩
  · obtain rfl := Option.some.inj (found.symm.trans h)
    exact fair
  · obtain ⟨body, _⟩ := Node.mk.inj (Option.some.inj (found.symm.trans h))
    rw [← Body.file.inj body, Contents.toBytes_ofBytes]
    exact short

variable {k k' : Kernel} {fd : Int} {path : String}

/-- **Whatever happens elsewhere**, the path stays calm. -/
theorem Calm.elsewhere (h : k.Calm path) (other : Elsewhere fd path k k') : k'.Calm path where
  alone := other.alone h.alone
  fair := by
    rw [other.node]
    exact h.fair
  short := by
    rw [other.node]
    exact h.short
  largest := by
    rw [other.largestFile]
    exact h.largest

theorem Calm.allocate (h : k.Calm path) : k.allocate.2.Calm path :=
  ⟨h.alone, h.fair, h.short, h.largest⟩

/-- A node that is put in place, fair and short. -/
theorem Calm.setNode (h : k.Calm path) {node : Node} (fair : Fair node.script)
    (short : ∀ contents, node.body = .file contents →
      contents.toBytes.length ≤ Descriptor.maxOffset) : (k.setNode path node).Calm path where
  alone := h.alone
  fair := by
    intro node' found
    rw [node?_setNode, if_pos rfl] at found
    exact Option.some.inj found ▸ fair
  short := by
    intro contents script found
    rw [node?_setNode, if_pos rfl] at found
    exact short contents (congrArg Node.body (Option.some.inj found))
  largest := h.largest

theorem Calm.setBody (h : k.Calm path) {body : Body} (short : ∀ contents, body = .file contents →
    contents.toBytes.length ≤ Descriptor.maxOffset) : (k.setBody path body).Calm path := by
  unfold Kernel.setBody
  split
  · next node found => exact h.setNode (h.fair node found) short
  · exact h

/-- **The script's word** leaves a path as calm as before, and the descriptors where they are. -/
theorem Calm.consult (h : k.Calm path) (kind : CallKind) : (k.consult path kind).2.Calm path ∧
    ∀ fd, (k.consult path kind).2.descriptors.lookup fd = k.descriptors.lookup fd := by
  cases found : k.node? path with
  | none =>
    rw [Kernel.consult, found]
    exact ⟨h, fun _ => rfl⟩
  | some node =>
    obtain ⟨script, consulted⟩ := k.consulted found h.alone kind
    have fair : Fair script := fun item hi => h.fair node found item (consulted.subset item hi)
    have before : (k.setNode path { node with script }).Calm path :=
      h.setNode fair fun contents is => h.short contents node.script (is ▸ found)
    exact ⟨before.elsewhere (consulted.elsewhere 0), fun fd => (consulted.elsewhere fd).descriptor⟩

end Kernel

end BufferedChannels.Simulation
