import BufferedChannels.Proofs.Meter
import BufferedChannels.Proofs.Passage

/-!
# Proofs/Delays — how long the simulated kernel can keep a transfer busy

What the kernel has in store for a descriptor is finite: the words of its node's script, the events
to come and the words of the scheduler.  Their number is the **slack** of a `Meter`: an interruption
is a word of the script, a blocked stream becomes ready by an event only, and **nothing else that
passes takes more than time** (`Drifts`).  All of this holds of a stream that does not break without
hanging up; what more is known of the node is its `Pledge`.
-/

namespace BufferedChannels

namespace Simulation

/-! ## Shapes -/

/-- **The shape of a node**: what reads and writes leave of it. -/
inductive Shape where
  | file | directory
  | stream (hungUp broken : Bool)

/-- The shape of what a node is. -/
def Body.shape : Body → Shape
  | .file _ => .file
  | .directory _ => .directory
  | .stream s => .stream s.hungUp s.broken

/-- A shape after a stimulus: only a stream changes. -/
def Stimulus.onShape (s : Stimulus) : Shape → Shape
  | .stream hungUp broken => .stream (hungUp || s.hangsUp) (broken || s.breaks)
  | shape => shape

theorem Stimulus.shape_apply (s : Stimulus) (node : Node) :
    (s.apply node).body.shape = s.onShape node.body.shape := by
  obtain ⟨_ | _ | _, _⟩ := node <;> rfl

/-- **A pledge**: the shapes that a node may have at any time.  A broken stream hung up. -/
structure Pledge where
  Allows : Shape → Prop
  sound : ∀ hungUp, Allows (.stream hungUp true) → hungUp = true

namespace Pledge

/-- The node never breaks. -/
def unbroken : Pledge where
  Allows shape := ∀ hungUp, shape ≠ .stream hungUp true
  sound hungUp whole := absurd rfl (whole hungUp)

/-- The node is a file or a directory. -/
def solid : Pledge where
  Allows shape := shape = .file ∨ shape = .directory
  sound _ no := nomatch no

/-- The node is no stream, or its other end hung up. -/
def ended : Pledge where
  Allows shape := ∀ broken, shape ≠ .stream false broken
  sound hungUp stays := by
    cases hungUp with
    | true => rfl
    | false => exact absurd rfl (stays true)

end Pledge

namespace Kernel

variable {pledge : Pledge} {fd : Int} {path : String} {k k' k'' : Kernel}

/-! ## What the kernel has in store -/

/-- **A node keeps a pledge**, and so do the events to come. -/
structure Bears (k : Kernel) (pledge : Pledge) (path : String) : Prop where
  stored : ∃ node, k.node? path = some node ∧ pledge.Allows node.body.shape
  events : ∀ event ∈ k.events, event.2.node = path →
    ∀ shape, pledge.Allows shape → pledge.Allows (event.2.onShape shape)

/-- **A descriptor stands on a node** that keeps a pledge. -/
structure Keeps (k : Kernel) (pledge : Pledge) (fd : Int) (path : String) : Prop
    extends k.Bears pledge path where
  opened : ∃ file, k.descriptors.lookup fd = some file ∧ file.node = path

/-- **What is in store for a node**: words of its script, events and words of the scheduler. -/
def inStore (path : String) (k : Kernel) : Nat :=
  (k.node? path).elim 0 (·.script.length) + k.events.length + k.wakes.length

/-- Whether a transfer with a node would have to wait. -/
def Blocks (path : String) (direction : Direction) (k : Kernel) : Prop :=
  ∃ node, k.node? path = some node ∧ node.body.isReady direction = false

/-- **What passes by a node** leaves it as it was, or something less is in store. -/
structure Drifts (pledge : Pledge) (path : String) (k k' : Kernel) : Prop where
  bears : k'.Bears pledge path
  descriptors : k'.descriptors = k.descriptors
  course : k'.inStore path < k.inStore path ∨
    k'.inStore path = k.inStore path ∧ k'.node? path = k.node? path

namespace Drifts

theorem le (h : Drifts pledge path k k') : k'.inStore path ≤ k.inStore path :=
  h.course.elim Nat.le_of_lt fun same => Nat.le_of_eq same.1

theorem trans (h : Drifts pledge path k k') (h' : Drifts pledge path k' k'') :
    Drifts pledge path k k'' where
  bears := h'.bears
  descriptors := h'.descriptors.trans h.descriptors
  course := by
    rcases h'.course with less | ⟨same, node⟩
    · exact .inl (Nat.lt_of_lt_of_le less h.le)
    · exact h.course.imp (fun less => same ▸ less) fun ⟨same', node'⟩ =>
        ⟨same.trans same', node.trans node'⟩

/-- A descriptor stands where it stood. -/
theorem keeps (h : Drifts pledge path k k') (keeps : k.Keeps pledge fd path) :
    k'.Keeps pledge fd path where
  toBears := h.bears
  opened := by
    rw [h.descriptors]
    exact keeps.opened

/-- **A blocked node** is still blocked unless less is in store. -/
theorem blocks {direction : Direction} (h : Drifts pledge path k k')
    (blocks : k.Blocks path direction) :
    k'.inStore path < k.inStore path ∨ k'.Blocks path direction := by
  refine h.course.imp_right fun ⟨_, node⟩ => ?_
  obtain ⟨found, stored, unready⟩ := blocks
  exact ⟨found, node.trans stored, unready⟩

end Drifts

/-! ## Time that passes -/

/-- A node that the pledge allows in the place of another. -/
theorem Bears.setNode (h : k.Bears pledge path) {node : Node}
    (allowed : pledge.Allows node.body.shape) : (k.setNode path node).Bears pledge path where
  stored := ⟨node, by rw [node?_setNode, if_pos rfl], allowed⟩
  events := h.events

theorem inStore_setNode {node : Node} (found : k.node? path = some node) (node' : Node) :
    (k.setNode path node').inStore path + node.script.length =
      k.inStore path + node'.script.length := by
  have there : (k.setNode path node').node? path = some node' := by rw [node?_setNode, if_pos rfl]
  rw [inStore, inStore, there, found]
  show node'.script.length + k.events.length + k.wakes.length + node.script.length =
    node.script.length + k.events.length + k.wakes.length + node'.script.length
  omega

/-- **A stimulus** breaks no pledge that it respects, and takes nothing from the store. -/
theorem Bears.befall (h : k.Bears pledge path) {s : Stimulus}
    (respects : s.node = path → ∀ shape, pledge.Allows shape → pledge.Allows (s.onShape shape)) :
    (k.befall s).Bears pledge path ∧ (k.befall s).inStore path = k.inStore path ∧
      (k.befall s).descriptors = k.descriptors := by
  unfold Kernel.befall
  split
  · next node found =>
    by_cases here : s.node = path
    · obtain ⟨node', stored, allowed⟩ := h.stored
      rw [here] at found ⊢
      obtain rfl := Option.some.inj (stored.symm.trans found)
      refine ⟨h.setNode (s.shape_apply node' ▸ respects here _ allowed), ?_, rfl⟩
      exact Nat.add_right_cancel (inStore_setNode stored (s.apply node'))
    · have same : (k.setNode s.node (s.apply node)).node? path = k.node? path := by
        rw [node?_setNode, if_neg (Ne.symm here)]
      refine ⟨⟨same ▸ h.stored, h.events⟩, ?_, rfl⟩
      rw [inStore, same]
      rfl
  · exact ⟨h, rfl, rfl⟩

theorem Bears.befallAll (h : k.Bears pledge path) {due : List (Nat × Stimulus)}
    (respect : ∀ event ∈ due, event.2.node = path →
      ∀ shape, pledge.Allows shape → pledge.Allows (event.2.onShape shape)) :
    (due.foldl (fun k event => k.befall event.2) k).Bears pledge path ∧
      (due.foldl (fun k event => k.befall event.2) k).inStore path = k.inStore path ∧
      (due.foldl (fun k event => k.befall event.2) k).descriptors = k.descriptors := by
  induction due generalizing k with
  | nil => exact ⟨h, rfl, rfl⟩
  | cons event rest ih =>
    obtain ⟨first, later⟩ := List.forall_mem_cons.1 respect
    obtain ⟨bears, same, descriptors⟩ := h.befall first
    obtain ⟨bears', same', descriptors'⟩ := ih bears later
    exact ⟨bears', same'.trans same, descriptors'.trans descriptors⟩

/-- **The clock moves** past events, which are then no longer in store, or past nothing. -/
theorem Bears.advanceTo (h : k.Bears pledge path) (instant : Nat) :
    Drifts pledge path k (k.advanceTo instant) := by
  unfold Kernel.advanceTo
  dsimp only
  generalize hdue : k.events.takeWhile (fun event => event.1 ≤ max k.clock instant) = due
  generalize hlater : k.events.dropWhile (fun event => event.1 ≤ max k.clock instant) = later
  have parts : due ++ later = k.events := by
    rw [← hdue, ← hlater]
    exact List.takeWhile_append_dropWhile
  have bears : Bears { k with clock := max k.clock instant, events := later } pledge path :=
    ⟨h.stored, fun event mem => h.events event (parts ▸ List.mem_append_right _ mem)⟩
  obtain ⟨bears, same, descriptors⟩ :=
    bears.befallAll fun event mem => h.events event (parts ▸ List.mem_append_left _ mem)
  have count := congrArg List.length parts
  rw [List.length_append] at count
  rcases due with _ | ⟨first, due⟩
  · obtain rfl : later = k.events := parts
    exact ⟨bears, descriptors, same ▸ .inr ⟨rfl, rfl⟩⟩
  · refine ⟨bears, descriptors, .inl (Nat.lt_of_le_of_lt (Nat.le_of_eq same) ?_)⟩
    rw [List.length_cons] at count
    show (k.node? path).elim 0 (·.script.length) + later.length + k.wakes.length <
      (k.node? path).elim 0 (·.script.length) + k.events.length + k.wakes.length
    omega

/-- **The script has its word**, which is then no longer in store. -/
theorem Bears.consult (h : k.Bears pledge path) (kind : CallKind) :
    Drifts pledge path k (k.consult path kind).2 ∧
      ((k.consult path kind).1 ≠ {} → (k.consult path kind).2.inStore path < k.inStore path) := by
  obtain ⟨node, stored, allowed⟩ := h.stored
  generalize hscript : (takeAdjustment kind node.script).2 = script
  have consult := consult_of_node stored kind
  rw [hscript] at consult
  have bears : (k.setNode path { node with script }).Bears pledge path := h.setNode allowed
  have slept := bears.advanceTo ((k.setNode path { node with script }).clock +
    (takeAdjustment kind node.script).1.delay)
  have count := inStore_setNode stored { node with script }
  dsimp only at count
  rw [consult]
  obtain none | ⟨_, less⟩ := (takeAdjustment_spec kind node.script).1
  · obtain rfl : node.script = script := (congrArg Prod.snd none).symm.trans hscript
    refine ⟨.trans ⟨bears, rfl, .inr ⟨Nat.add_right_cancel count, ?_⟩⟩ slept, fun word => ?_⟩
    · rw [node?_setNode, if_pos rfl, stored]
    · exact absurd (congrArg Prod.fst none) word
  · rw [hscript] at less
    have spent : (k.setNode path { node with script }).inStore path < k.inStore path := by omega
    exact ⟨.trans ⟨bears, rfl, .inl spent⟩ slept, fun _ => Nat.lt_of_le_of_lt slept.le spent⟩

/-! ## Calls -/

/-- **A call on the descriptor**: the script has it fail, or it does what it does to the node. -/
theorem Keeps.onDescriptor {α : Type} (h : k.Keeps pledge fd path) (kind : CallKind)
    (act : Kernel → OpenFile → Body → Option Nat → Except Errno α × Kernel) :
    ∃ k₁, k₁.Keeps pledge fd path ∧ k₁.inStore path ≤ k.inStore path ∧
      ((∃ x, k.onDescriptor fd kind act = (.error x, k₁) ∧ k₁.inStore path < k.inStore path) ∨
        ∃ file body script max?, file.node = path ∧ k₁.node? path = some { body, script } ∧
          pledge.Allows body.shape ∧ (max? ≠ none → k₁.inStore path < k.inStore path) ∧
          k.onDescriptor fd kind act = act k₁ file body max?) := by
  obtain ⟨file, found, rfl⟩ := h.opened
  obtain ⟨drifts, less⟩ := h.consult kind
  refine ⟨(k.consult file.node kind).2, drifts.keeps h, drifts.le, ?_⟩
  unfold Kernel.onDescriptor
  rw [found]
  dsimp only
  cases errno : (k.consult file.node kind).1.errno? with
  | some x => exact .inl ⟨x, rfl, less (Adjustment.ne_none errno)⟩
  | none =>
    obtain ⟨⟨body, script⟩, stored, allowed⟩ := drifts.bears.stored
    refine .inr ⟨file, body, script, (k.consult file.node kind).1.max?, rfl, stored, allowed,
      fun limits => less fun none => limits (congrArg Adjustment.max? none), ?_⟩
    rw [stored]

/-- A descriptor that is moved. -/
theorem Keeps.setDescriptor (h : k.Keeps pledge fd path) {file : OpenFile}
    (node : file.node = path) : (k.setDescriptor fd file).Keeps pledge fd path where
  stored := h.stored
  events := h.events
  opened := ⟨file, (lookup_assign ..).trans (if_pos rfl), node⟩

/-- **A body that the pledge allows** in the place of another, with nothing taken from the store. -/
theorem Keeps.setBody (h : k.Keeps pledge fd path) {body : Body}
    {script : List (CallKind × Adjustment)} (stored : k.node? path = some { body, script })
    (body' : Body) (allowed : pledge.Allows body'.shape) :
    (k.setBody path body').Keeps pledge fd path ∧
      (k.setBody path body').inStore path = k.inStore path := by
  rw [setBody_of_node stored]
  exact ⟨⟨h.setNode allowed, h.opened⟩,
    Nat.add_right_cancel (inStore_setNode stored ⟨body', script⟩)⟩

/-- **A refusal for good** takes nothing, as long as nothing was added to the store. -/
theorem callTakes_of_refused {α : Type} {direction : Direction} {idle : α → Prop} {e : Errno}
    (le : k'.inStore path ≤ k.inStore path) (retried : e.recognized ≠ .interrupted)
    (blocked : e.recognized ≠ .wouldBlock) :
    CallTakes (inStore path) (Blocks path direction) idle k k' (.error e) :=
  ⟨le, fun is => absurd is retried, fun is => absurd is blocked⟩

/-- A call that the script has fail takes a word. -/
theorem callTakes_of_word {α : Type} {direction : Direction} {idle : α → Prop} {e : Errno}
    (less : k'.inStore path < k.inStore path) :
    CallTakes (inStore path) (Blocks path direction) idle k k' (.error e) :=
  ⟨Nat.le_of_lt less, fun _ => less, fun _ => .inl less⟩

/-- **A read** is blocked where nothing is unread and more may come. -/
theorem Keeps.read (h : k.Keeps pledge fd path) (len : Nat) :
    (k.read fd len).2.Keeps pledge fd path ∧
      CallTakes (inStore path) (Blocks path .readable) (fun _ : Bytes => False) k
        (k.read fd len).2 (k.read fd len).1 := by
  unfold Kernel.read
  obtain ⟨k₁, keeps, le, ⟨x, run, less⟩ | ⟨file, body, script, max?, node, stored, allowed, _,
    run⟩⟩ := h.onDescriptor .read _
  all_goals rw [run]
  · exact ⟨keeps, callTakes_of_word less⟩
  have moved {k' : Kernel} {bytes : Bytes} (same : k'.inStore path = k₁.inStore path) :
      CallTakes (inStore path) (Blocks path .readable) (fun _ : Bytes => False) k k'
        (.ok bytes) := ⟨Nat.le_trans (Nat.le_of_eq same) le, fun no => no.elim⟩
  dsimp only
  split
  · exact ⟨keeps, callTakes_of_refused le (by decide) (by decide)⟩
  rcases body with contents | contents | stream
  · exact ⟨keeps.setDescriptor node, moved rfl⟩
  · exact ⟨keeps, callTakes_of_refused le (by decide) (by decide)⟩
  · dsimp only
    split
    · next ends =>
      split
      · exact ⟨keeps, moved rfl⟩
      · next open_ =>
        -- A stream that is blocked did not hang up, and so it is not broken.
        have whole : stream.broken = false :=
          Bool.eq_false_iff.2 fun broken => open_ (pledge.sound _ (broken ▸ allowed))
        refine ⟨keeps, le, fun is => absurd is (by decide), fun _ => .inr ?_⟩
        exact ⟨_, stored, by simp_all [Body.isReady]⟩
    · subst node
      obtain ⟨keeps, same⟩ := keeps.setBody stored
        (.stream { stream with unread := stream.unread.drop (limited len max?) }) allowed
      exact ⟨keeps, moved same⟩

/-- Writing to a file or directory takes all of the data or fails for good. -/
theorem Keeps.writeAt (h : k.Keeps pledge fd path) {file : OpenFile} (node : file.node = path)
    {contents contents' : Contents} {rebuild : Contents → Body}
    {script : List (CallKind × Adjustment)}
    (stored : k.node? path = some { body := rebuild contents, script })
    (allowed : ∀ contents, pledge.Allows (rebuild contents).shape) (data : Bytes) :
    (k.writeAt fd file contents' rebuild data).2.Keeps pledge fd path ∧
      (k.writeAt fd file contents' rebuild data).2.inStore path = k.inStore path ∧
      ((k.writeAt fd file contents' rebuild data).1 = .ok data.length ∨
        (k.writeAt fd file contents' rebuild data).1 = .error .tooLarge) := by
  unfold Kernel.writeAt
  generalize (if file.flags.append then contents'.size else file.offset) = offset
  dsimp only
  split
  · next empty =>
    rw [List.isEmpty_iff.1 empty]
    exact ⟨h.setDescriptor node, rfl, .inl rfl⟩
  split
  · exact ⟨h.setDescriptor node, rfl, .inr rfl⟩
  · subst node
    obtain ⟨keeps, same⟩ := h.setBody stored _ (allowed (contents'.write offset data))
    exact ⟨keeps.setDescriptor rfl, same, .inl rfl⟩

/-- **Bytes for a file or directory**: to write none takes slack, if the call for it did. -/
theorem Keeps.writeFile (h : k'.Keeps pledge fd path) {file : OpenFile} (node : file.node = path)
    {contents contents' : Contents} {rebuild : Contents → Body}
    {script : List (CallKind × Adjustment)}
    (stored : k'.node? path = some { body := rebuild contents, script })
    (allowed : ∀ contents, pledge.Allows (rebuild contents).shape) {data : Bytes}
    (le : k'.inStore path ≤ k.inStore path)
    (cut : data = [] → k'.inStore path < k.inStore path) :
    (k'.writeAt fd file contents' rebuild data).2.Keeps pledge fd path ∧
      CallTakes (inStore path) (Blocks path .writable) (fun n : Nat => n = 0) k
        (k'.writeAt fd file contents' rebuild data).2
        (k'.writeAt fd file contents' rebuild data).1 := by
  obtain ⟨keeps, same, all | large⟩ := h.writeAt node stored allowed data
  all_goals rw [← same] at le
  · rw [all]
    exact ⟨keeps, le, fun none => same ▸ cut (List.length_eq_zero_iff.1 none)⟩
  · rw [large]
    exact ⟨keeps, callTakes_of_refused le (by decide) (by decide)⟩

/-- A stream with room takes a byte at least, if there is any. -/
theorem eq_nil_of_take_room {room? : Option Nat} {data : Bytes}
    (roomy : ¬ (room? = some 0 && !data.isEmpty) = true)
    (none : data.take (room?.getD data.length) = []) : data = [] := by
  rcases List.take_eq_nil_iff.1 none with noRoom | empty
  · cases room? with
    | none => exact List.length_eq_zero_iff.1 noRoom
    | some room =>
      rw [Option.getD_some] at noRoom
      simpa [noRoom] using roomy
  · exact empty

/-- **A write** is blocked where a stream has no room, and to no avail only by a word of the
script. -/
theorem Keeps.write (h : k.Keeps pledge fd path) {data : Bytes} (some : data ≠ []) :
    (k.write fd data).2.Keeps pledge fd path ∧
      CallTakes (inStore path) (Blocks path .writable) (fun n : Nat => n = 0) k
        (k.write fd data).2 (k.write fd data).1 := by
  unfold Kernel.write
  split
  · exact ⟨h, Nat.le_refl _, fun none => absurd (List.length_eq_zero_iff.1 none) some⟩
  unfold Kernel.writeNode
  obtain ⟨k₁, keeps, le, ⟨x, run, less⟩ | ⟨file, body, script, max?, node, stored, allowed, less,
    run⟩⟩ := h.onDescriptor .write _
  all_goals rw [run]
  · exact ⟨keeps, callTakes_of_word less⟩
  dsimp only
  generalize hwant : data.take (limited data.length max?) = want
  -- Without a limit the whole of the data is to be written.
  have cut : want = [] → k₁.inStore path < k.inStore path := by
    refine fun none => less fun noLimit => some ?_
    rw [noLimit, limited, Option.getD_none, Nat.min_self, List.take_length] at hwant
    exact hwant.trans none
  split
  · exact ⟨keeps, callTakes_of_refused le (by decide) (by decide)⟩
  rcases body with contents | contents | stream
  · exact keeps.writeFile node stored (fun _ => allowed) le cut
  · exact keeps.writeFile node stored (fun _ => allowed) le cut
  · dsimp only
    split
    · exact ⟨keeps, callTakes_of_refused le (by decide) (by decide)⟩
    next whole =>
    split
    · next narrow =>
      refine ⟨keeps, le, fun is => absurd is (by decide), fun _ => .inr ?_⟩
      exact ⟨_, stored, by simp_all [Body.isReady]⟩
    · next roomy =>
      subst node
      obtain ⟨keeps, same⟩ := keeps.setBody stored
        (.stream { stream with
          written := stream.written.append (want.take (stream.room?.getD want.length))
          room? := stream.room?.map (· - (want.take (stream.room?.getD want.length)).length) })
        allowed
      exact ⟨keeps, Nat.le_trans (Nat.le_of_eq same) le, fun none =>
        same ▸ cut (eq_nil_of_take_room roomy (List.length_eq_zero_iff.1 none))⟩

/-! ## Waits -/

/-- A wait that nothing ended. -/
theorem Keeps.expire (h : k.Keeps pledge fd path) {direction : Direction}
    (blocks : k.Blocks path direction) (limit? : Option Nat) :
    (k.expire limit?).2.Keeps pledge fd path ∧
      PollTakes (inStore path) (Blocks path direction) (·.Keeps pledge fd path) limit? k
        (k.expire limit?).2 (k.expire limit?).1 := by
  cases limit? with
  | none => exact ⟨h, rfl, k, h, blocks⟩
  | some limit =>
    have drifts := h.advanceTo limit
    exact ⟨drifts.keeps h, drifts.le⟩

/-- A node that is ready ends a wait at once. -/
theorem Keeps.polled (h : k.Keeps pledge fd path) {direction : Direction} {limit? : Option Nat}
    (ready : (k.node? path).all (fun node => node.body.isReady direction) = true) :
    k.Keeps pledge fd path ∧ PollTakes (inStore path) (Blocks path direction)
      (·.Keeps pledge fd path) limit? k k .ready := by
  refine ⟨h, Nat.le_refl _, fun ⟨node, stored, blocked⟩ => ?_⟩
  rw [stored, Option.all_some, blocked] at ready
  cases ready

/-- One that is not blocks. -/
theorem Keeps.blocks (h : k.Keeps pledge fd path) {direction : Direction}
    (unready : ¬ (k.node? path).all (fun node => node.body.isReady direction) = true) :
    k.Blocks path direction := by
  obtain ⟨node, stored, _⟩ := h.stored
  exact ⟨node, stored, by simpa [stored] using unready⟩

/-- What passes before a wait takes no less from the store than nothing. -/
theorem Drifts.polls {direction : Direction} {limit? : Option Nat} {reply : Polled}
    (drifts : Drifts pledge path k k')
    (takes : PollTakes (inStore path) (Blocks path direction) (·.Keeps pledge fd path) limit? k' k''
      reply) :
    PollTakes (inStore path) (Blocks path direction) (·.Keeps pledge fd path) limit? k k''
      reply := by
  have le := drifts.le
  cases reply with
  | ready =>
    obtain ⟨le', less⟩ := takes
    refine ⟨Nat.le_trans le' le, fun blocks => ?_⟩
    rcases drifts.blocks blocks with early | still
    · exact Nat.lt_of_le_of_lt le' early
    · exact Nat.lt_of_lt_of_le (less still) le
  | timedOut => exact Nat.le_trans takes le
  | failed e => exact Nat.lt_of_lt_of_le takes le
  | never => exact takes

/-- **Waiting for a node**: only an event makes it ready, which is then no longer in store. -/
theorem Keeps.awaitNode (h : k.Keeps pledge fd path) (direction : Direction) (limit? : Option Nat)
    (fuel : Nat) :
    (awaitNode path direction limit? fuel k).2.Keeps pledge fd path ∧
      PollTakes (inStore path) (Blocks path direction) (·.Keeps pledge fd path) limit? k
        (awaitNode path direction limit? fuel k).2 (awaitNode path direction limit? fuel k).1 := by
  refine awaitNode_of_ways (P := (·.Keeps pledge fd path))
    (R := fun k r => r.2.Keeps pledge fd path ∧ PollTakes (inStore path) (Blocks path direction)
      (·.Keeps pledge fd path) limit? k r.2 r.1)
    (fun k h ready => h.polled ready) (fun k h unready => h.expire (h.blocks unready) limit?)
    (fun k instant h => ?_) fuel h
  have drifts := h.advanceTo instant
  exact ⟨drifts.keeps h, fun r ⟨keeps, takes⟩ => ⟨keeps, drifts.polls takes⟩⟩

/-- **A poll** takes a word of the script, or it ends as the wait for the node does. -/
theorem Keeps.poll (h : k.Keeps pledge fd path) (direction : Direction) (timeout : Option Nat) :
    (k.poll fd direction timeout).2.Keeps pledge fd path ∧
      PollTakes (inStore path) (Blocks path direction) (·.Keeps pledge fd path) timeout k
        (k.poll fd direction timeout).2 (k.poll fd direction timeout).1 := by
  obtain ⟨file, found, rfl⟩ := h.opened
  obtain ⟨drifts, less⟩ := h.consult .poll
  unfold Kernel.poll
  rw [found]
  dsimp only
  cases errno : (k.consult file.node .poll).1.errno? with
  | some x => exact ⟨drifts.keeps h, less (Adjustment.ne_none errno)⟩
  | none =>
    dsimp only
    generalize hlimit : timeout.map
      (fun ms => (k.consult file.node .poll).2.clock + ms * Deadline.millisecond) = limit?
    obtain ⟨keeps, takes⟩ := (drifts.keeps h).awaitNode direction limit?
      (k.consult file.node .poll).2.events.length
    refine ⟨keeps, (drifts.polls takes).endless fun noLimit => ?_⟩
    exact Option.map_eq_none_iff.1 (hlimit.trans noLimit)

/-- **A word of the scheduler** is then no longer in store. -/
theorem Keeps.wait (h : k.Keeps pledge fd path) (direction : Direction) :
    (k.wait direction).2.Keeps pledge fd path ∧
      WakeTakes (inStore path) k (k.wait direction).2 (k.wait direction).1 := by
  unfold Kernel.wait
  split
  · exact ⟨h, Nat.le_refl _⟩
  · next wake duration rest words =>
    have keeps : Keeps { k with wakes := rest } pledge fd path := ⟨⟨h.stored, h.events⟩, h.opened⟩
    have slept := keeps.advanceTo (k.clock + duration)
    have less : ({ k with wakes := rest } : Kernel).inStore path < k.inStore path := by
      show _ + rest.length < _ + k.wakes.length
      rw [words, List.length_cons]
      exact Nat.lt_succ_self _
    have less := Nat.lt_of_le_of_lt slept.le less
    refine ⟨slept.keeps keeps, ?_⟩
    cases wake with
    | timedOut => exact Nat.le_of_lt less
    | _ => exact less

/-- **The meter of a node** that keeps a pledge: what is in store for it. -/
def meter (pledge : Pledge) (fd : Int) (path : String) : Meter Kernel fd where
  Keeps k := k.Keeps pledge fd path
  slack := inStore path
  Blocks := Blocks path
  read _ len h _ := h.read len
  write _ _ h some := h.write some
  poll _ direction timeout h := h.poll direction timeout
  wait _ direction _ h := h.wait direction

/-- **A node that does not break**: it is not broken, and no event breaks it. -/
theorem keeps_unbroken {node : Node} (file : OpenFile) (found : k.descriptors.lookup fd = some file)
    (stored : k.node? file.node = some node)
    (whole : ∀ stream, node.body = .stream stream → stream.broken = false)
    (stays : ∀ event ∈ k.events, event.2.node = file.node → event.2.breaks = false) :
    k.Keeps .unbroken fd file.node where
  opened := ⟨file, found, rfl⟩
  stored := by
    refine ⟨node, stored, fun hungUp is => ?_⟩
    obtain ⟨body, script⟩ := node
    cases body with
    | stream stream =>
      have broken : stream.broken = true := (Shape.stream.inj is).2
      exact Bool.false_ne_true ((whole stream rfl).symm.trans broken)
    | _ => cases is
  events := by
    intro event mem here shape whole hungUp is
    cases shape with
    | stream before broken =>
      have breaks : (broken || event.2.breaks) = true := (Shape.stream.inj is).2
      rw [stays event mem here, Bool.or_false] at breaks
      exact whole before (congrArg (Shape.stream before) breaks)
    | _ => cases is

end Kernel

end Simulation

/-! ## Transfers with a deadline -/

open Simulation

/-- **A deadline bounds a transfer.**  Take a channel that polls a descriptor which stands on a node
that does not break, of a kernel that lends the number that stands for none to nobody.  Whatever the
script of the node says, whatever events befall it and whatever is buffered, a read, a write or a
flush with a deadline **returns after finitely many exchanges**: their number is bounded by what the
kernel has in store, by the bytes that are pending and by those that are asked for.  And then
channel and kernel are ready for another transfer. -/
theorem Operation.returns_by_deadline {c : Channel} (wf : c.WellFormed) (other : c.kind = .other)
    {scope : Scope} (polls : c.waiter = .polling scope) {path : String} {s : System Kernel}
    (keeps : s.host.Keeps .unbroken c.fd path) (none : s.host.LendsNone) {operation : Operation}
    {source : DeadlineSource} (has : operation.deadline? = some source)
    (limited : (source.madeAt s.host.clock).isNever = false)
    (enough : 3 * s.host.inStore path + c.pendingCount + operation.effort + 2 < s.budget) :
    ∃ es answer c' s', (operation.run c).runOn s = (.ok (answer, c'), s') ∧ s.Reaches es s' ∧
      es.length ≤ 3 * s.host.inStore path + c.pendingCount + operation.effort + 4 ∧
      c'.WellFormed ∧ c'.fd = c.fd ∧ c'.waiter = .polling scope ∧
      s'.host.Keeps .unbroken c.fd path ∧ s'.host.LendsNone := by
  have slow : c.kind.alwaysReady = false := by
    rw [other]
    rfl
  have endures (direction : Direction) : (Kernel.meter .unbroken c.fd path).Endures c direction
      (source.madeAt (Host.now s.host)) :=
    ⟨rfl, fun ready => absurd (slow.symm.trans ready) Bool.false_ne_true,
      fun _ _ _ => .inl limited⟩
  obtain ⟨file, opened, _⟩ := keeps.opened
  obtain ⟨es, answer | ⟨answer, c'⟩, s', run, reaches, done⟩ :=
    Meter.returns has wf (.inr ⟨scope, polls⟩) s endures keeps (by
      show 3 * s.host.inStore path + _ < _
      omega)
  · exact absurd done.2.1 (none.numbered opened)
  · obtain ⟨performed, keeps, paid⟩ := done
    refine ⟨es, answer, c', s', run, reaches, ?_, performed.wellFormed, performed.fd,
      performed.waiter.trans polls, keeps, none.leads reaches.host⟩
    exact Nat.le_trans (Nat.le_trans (Nat.le_add_right _ _) (Nat.le_add_right _ _)) paid

/-! A pipe that has a read wait for its bytes, and interrupts it. -/

/-- The kernel of the pipe: a byte arrives after three milliseconds. -/
def fitfulPipe : System Kernel where
  host :=
    { nodes := [("p", { body := .stream {}, script := [(.read, { errno? := some .interrupted }),
        (.poll, { errno? := some .interrupted }), (.read, { errno? := some .wouldBlock })] })]
      descriptors := [(3, { node := "p", flags := { access := .readWrite } })]
      events := [(3000000, { node := "p", push := [1] })] }
  budget := 40

theorem Operation.returns_by_deadline_fitfulPipe :
    ∃ es answer c' s', ((Operation.read 2 (.after 7000000)).run idleChannel).runOn fitfulPipe =
        (.ok (answer, c'), s') ∧ fitfulPipe.Reaches es s' ∧ es.length ≤ 18 ∧ c'.WellFormed ∧
      c'.fd = 3 ∧ c'.waiter = .polling .shared ∧ s'.host.Keeps .unbroken 3 "p" ∧
      s'.host.LendsNone := by
  have keeps : fitfulPipe.host.Keeps .unbroken idleChannel.fd "p" :=
    Kernel.keeps_unbroken ⟨"p", { access := .readWrite }, 0⟩ rfl rfl
      (by rintro stream ⟨⟩; rfl) (by simp [fitfulPipe])
  have wf : idleChannel.WellFormed := ⟨⟨Nat.zero_le _, fun _ => rfl⟩, Nat.zero_le _⟩
  exact Operation.returns_by_deadline wf rfl rfl keeps rfl rfl rfl (by decide)

end BufferedChannels
