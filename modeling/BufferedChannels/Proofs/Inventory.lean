import BufferedChannels.Proofs.Bounds
import BufferedChannels.Proofs.Stock

/-!
# Proofs/Inventory — what a kernel has in stock

The `Inventory` of a kernel says what there is under each name and behind each descriptor: a `Stock`
of materials, which does not change by itself.  A call may be put off, and then something of the
kernel's store is used up or the caller has to wait; when it is not, it **changes one thing of the
stock**.  A read brings what its descriptor `Gives` next, and a write adds to what it `Takes`.
-/

namespace BufferedChannels.Simulation.Kernel

variable {k k' : Kernel} {x : Stock} {name : String} {m : Material} {p : Prospect} {fd : Int}
  {src : Handle}

/-! ## The inventory -/

/-- **A prospect is met** by what a kernel has under a name. -/
def Meets (k : Kernel) (name : String) : Prospect → Prop
  | .nowhere => k.node? name = none
  | .refused e times => ∃ body,
    k.node? name = some ⟨body, List.replicate times (.openPath, { errno? := some e })⟩
  | .carried m => k.Carries name m

/-- **What befalls nodes** leaves every prospect as it is. -/
theorem Meets.ages (h : k.Meets name p) (ages : Ages k k' name) : k'.Meets name p := by
  cases p with
  | nowhere =>
    obtain ⟨_, _, later⟩ := ages
    exact later.trans (congrArg (Option.map _) h)
  | refused e times =>
    obtain ⟨body, found⟩ := h
    obtain ⟨due, _, later⟩ := ages
    rw [found] at later
    exact ⟨_, later.trans (congrArg some (congrArg (Node.mk _) (Node.script_after ..)))⟩
  | carried m => exact Carries.ages h ages

theorem Meets.setNode_other (h : k.Meets name p) {other : String} (apart : name ≠ other)
    (node : Node) : (k.setNode other node).Meets name p := by
  have same : (k.setNode other node).node? name = k.node? name :=
    (node?_setNode ..).trans (if_neg apart)
  cases p with
  | nowhere => exact same.trans h
  | refused e times =>
    obtain ⟨body, found⟩ := h
    exact ⟨body, same.trans found⟩
  | carried m => exact Carries.setNode_other h apart node

/-- **The inventory of a kernel**, which has memory to give and files as long as positions go. -/
structure Inventory (k : Kernel) (x : Stock) : Prop where
  allocates : k.failingAllocation = 0
  largest : k.largestFile = Descriptor.maxOffset
  names : ∀ name, k.Meets name (x.prospects name)
  files : ∀ fd, k.descriptors.lookup fd = x.files fd

/-- A kernel is **not ready** for a call on a node. -/
def Unready (k : Kernel) (name : String) (direction : Direction) : Prop :=
  (k.node? name).all (fun node => node.body.isReady direction) = false

theorem UsesUp.unready (h : UsesUp k k') {direction : Direction}
    (unready : k.Unready name direction) :
    k'.store < k.store ∨ k'.store = k.store ∧ k'.Unready name direction := by
  obtain less | ⟨same, nodes⟩ := h
  · exact .inl less
  · exact .inr ⟨same, by rwa [Unready, node?, nodes]⟩

namespace Inventory

/-- Memory is had. -/
theorem allocate (h : k.Inventory x) : k.allocate = (true, k) := by
  have none := h.allocates
  rw [Kernel.allocate, none]
  show ((true, { k with failingAllocation := 0 }) : Bool × Kernel) = (true, k)
  rw [← none]

/-! ### What changes a stock -/

theorem of_passes (h : k.Inventory x) (passes : Passes k k')
    (names : ∀ name, k'.Meets name (x.prospects name)) : k'.Inventory x where
  allocates := passes.table.2.trans h.allocates
  largest := passes.largestFile.trans h.largest
  names := names
  files fd := by rw [passes.table.1, h.files fd]

/-- **Time** leaves the stock as it is. -/
theorem advanceTo (h : k.Inventory x) (instant : Nat) : (k.advanceTo instant).Inventory x :=
  h.of_passes (k.passes_advanceTo instant).1 fun name =>
    (h.names name).ages (k.ages_advanceTo instant name)

/-- **A script's word** leaves the stock as it is. -/
theorem consult (h : k.Inventory x) (carried : x.prospects name = .carried m) (kind : CallKind) :
    (k.consult name kind).2.Inventory x := by
  refine h.of_passes (k.passes_consult name kind) fun other => ?_
  have meets := h.names other
  by_cases here : other = name
  · subst here
    rw [carried] at meets ⊢
    exact Carries.consult meets other kind
  · exact meets.ages (k.ages_consult here kind)

theorem carries (h : k.Inventory x) (has : x.Has fd src) :
    k.Carries src.file.node src.material := by
  have meets := h.names src.file.node
  rwa [has.carried] at meets

/-- **A descriptor that is put in place** on a material. -/
theorem setDescriptor (h : k.Inventory x) (carried : x.prospects name = .carried m) (fd : Int)
    {file : OpenFile} (same : file.node = name) :
    (k.setDescriptor fd file).Inventory (x.put fd ⟨file, m⟩) where
  allocates := h.allocates
  largest := h.largest
  names := by
    intro other
    have meets : k.Meets other (x.prospects other) := h.names other
    rw [Stock.prospects_put]
    split
    · next here =>
      rw [here, same, carried] at meets
      rwa [here, same]
    · exact meets
  files := by
    intro fd'
    rw [Stock.files_put, ← h.files fd']
    exact lookup_assign fd fd' file k.descriptors

/-- **A body that changes** behind a descriptor. -/
theorem setBody (h : k.Inventory x) (has : x.Has fd src) {body : Body}
    (fits : m.Fits body (k.upcoming src.file.node)) :
    (k.setBody src.file.node body).Inventory (x.put fd ⟨src.file, m⟩) := by
  obtain ⟨⟨old, script⟩, found, mild, _⟩ := h.carries has
  rw [setBody_of_node found]
  exact
    { allocates := h.allocates
      largest := h.largest
      names := fun name => by
        rw [Stock.prospects_put]
        split
        · next here =>
          rw [here]
          exact carries_setNode mild fits
        · next apart => exact (h.names name).setNode_other apart _
      files := fun fd' => by
        rw [Stock.files_put]
        split
        · next here => exact here ▸ (h.files fd).trans has.opened
        · exact h.files fd' }

/-! ### Calls on a descriptor -/

/-- **A call on a descriptor** of the stock: the script puts it off, or it does what it does. -/
theorem onDescriptor {α : Type} {R : Except Errno α × Kernel → Prop} (h : k.Inventory x)
    (has : x.Has fd src) (kind : CallKind)
    {act : Kernel → OpenFile → Body → Option Nat → Except Errno α × Kernel}
    (off : ∀ e k₁, some e ∈ kind.excuses → k₁.Inventory x → k₁.store < k.store → R (.error e, k₁))
    (acts : ∀ k₁ node max?, k₁.Inventory x → k₁.store ≤ k.store → max? ≠ some 0 →
      k₁.node? src.file.node = some node →
      src.material.Fits node.body (k₁.upcoming src.file.node) →
      R (act k₁ src.file node.body max?)) : R (k.onDescriptor fd kind act) := by
  have told := h.consult has.carried kind
  have mild := (h.carries has).mild_consult kind
  obtain ⟨node, found, _, fits⟩ := told.carries has
  rw [Kernel.onDescriptor, (h.files fd).trans has.opened]
  dsimp only
  cases fails : (k.consult src.file.node kind).1.errno? with
  | some e =>
    exact off e _ (fails ▸ mild.1) told (store_consult_lt (Adjustment.ne_none fails))
  | none =>
    dsimp only
    rw [found]
    exact acts _ node _ told (k.store_consult_le ..) mild.2 found fits

/-- Such a kind of call is never put off. -/
theorem not_excused {kind : CallKind} (sure : kind.excuses = [none]) {e : Errno} :
    some e ∉ kind.excuses := by
  rw [sure]
  exact fun mem => nomatch List.mem_singleton.1 mem

theorem getFlags (h : k.Inventory x) (has : x.Has fd src) :
    ∃ k', k.answer (.getFlags fd) = (.ok src.file.flags, k') ∧ k'.Inventory x := by
  dsimp only [answer]
  exact h.onDescriptor (R := fun r => ∃ k', r = (.ok src.file.flags, k') ∧ k'.Inventory x) has
    .getFlags (fun _ _ excused => absurd excused (not_excused rfl))
    fun k₁ _ _ kept _ _ _ _ => ⟨k₁, rfl, kept⟩

theorem setFlags (h : k.Inventory x) (has : x.Has fd src) (flags : Flags) :
    ∃ k', k.answer (.setFlags fd flags) = (.ok (), k') ∧
      k'.Inventory (x.put fd (src.withFlags flags)) := by
  dsimp only [answer]
  exact h.onDescriptor (R := fun r => ∃ k', r = (.ok (), k') ∧
      k'.Inventory (x.put fd (src.withFlags flags))) has
    .setFlags (fun _ _ excused => absurd excused (not_excused rfl))
    fun _ _ _ kept _ _ _ _ => ⟨_, rfl, kept.setDescriptor has.carried fd rfl⟩

/-- **A question about the kind**: streams are neither files nor directories. -/
theorem stat (h : k.Inventory x) (has : x.Has fd src) :
    ∃ mode k', k.answer (.stat fd) = (.ok mode, k') ∧ k'.Inventory x ∧
      ((Kind.ofMode mode).alwaysReady = true → src.material.isStored = true) := by
  have streams (stream : Stream) : (Kind.ofMode (Body.stream stream).mode).alwaysReady = false := by
    obtain ⟨kind, _⟩ := stream
    cases kind with
    | fifo => exact (by decide : (Kind.ofMode 0o010600).alwaysReady = false)
    | character => exact (by decide : (Kind.ofMode 0o020600).alwaysReady = false)
    | socket => exact (by decide : (Kind.ofMode 0o140600).alwaysReady = false)
  dsimp only [answer]
  refine h.onDescriptor (R := fun r => ∃ mode k', r = (.ok mode, k') ∧ k'.Inventory x ∧
    ((Kind.ofMode mode).alwaysReady = true → src.material.isStored = true)) has .stat
    (fun _ _ excused => absurd excused (not_excused rfl)) fun k₁ node _ kept _ _ _ fits => ?_
  refine ⟨node.body.mode, k₁, rfl, kept, fun stored => ?_⟩
  generalize src.material = material at fits ⊢
  generalize node.body = body at fits stored
  cases fits with
  | file => rfl
  | directory => rfl
  | inflow => exact nomatch stored.symm.trans (streams _)
  | outflow => exact nomatch stored.symm.trans (streams _)

/-! ### Reads and writes -/

/-- **The ways of a read** of a descriptor that gives a share. -/
inductive Reads (k : Kernel) (x : Stock) (fd : Int) (src : Handle) (len : Nat) :
    Except ChannelError Bytes → Except Errno Bytes × Kernel → Prop
  | interrupted {share : Except ChannelError Bytes} {k' : Kernel} (kept : k'.Inventory x)
      (less : k'.store < k.store) : Reads k x fd src len share (.error .interrupted, k')
  | stalled {share : Except ChannelError Bytes} {k' : Kernel} (kept : k'.Inventory x)
      (le : k'.store ≤ k.store)
      (why : k'.store < k.store ∨ k'.Unready src.file.node .readable) :
      Reads k x fd src len share (.error .wouldBlock, k')
  | failed {e : Errno} {k' : Kernel} (final : e = .isDirectory ∨ e = .badDescriptor)
      (kept : k'.Inventory x) : Reads k x fd src len (.error (.ofErrno e)) (.error e, k')
  | brought {rest bytes : Bytes} {k' : Kernel} (first : bytes <+: rest)
      (within : bytes.length ≤ len) (some : bytes = [] → rest = [])
      (kept : k'.Inventory (x.put fd (src.skip bytes.length))) (le : k'.store ≤ k.store) :
      Reads k x fd src len (.ok rest) (.ok bytes, k')

/-- A read of a stream brings what waits there. -/
theorem reads_stream {file : OpenFile} {stream : Stream} {bytes : Bytes} {k₁ : Kernel} {node : Node}
    {len count : Nat} (kept : k₁.Inventory x) (has : x.Has fd ⟨file, .inflow bytes⟩)
    (le : k₁.store ≤ k.store) (found : k₁.node? file.node = some node)
    (is : node.body = .stream stream) (flows : Inflow stream (k₁.upcoming file.node) bytes)
    (pos : 0 < count) (within : count ≤ len) :
    Reads k x fd ⟨file, .inflow bytes⟩ len (.ok bytes)
      (if count > 0 && stream.unread.isEmpty then
        if stream.hungUp then (.ok [], k₁) else (.error .wouldBlock, k₁)
      else (.ok (stream.unread.take count),
        k₁.setBody file.node (.stream { stream with unread := stream.unread.drop count }))) := by
  have ends := flows.ends
  have whole := flows.bytes
  by_cases empty : stream.unread = []
  · rw [if_pos (by simp [pos, empty])]
    rw [empty, List.nil_append] at whole
    cases hungUp : stream.hungUp with
    | true =>
      rw [hungUp] at ends
      rw [ends.nothing_more] at whole
      subst whole
      rw [if_pos rfl]
      refine .brought (List.nil_prefix) (Nat.zero_le _) (fun _ => rfl) ?_ le
      rw [List.length_nil, Handle.skip_zero, Stock.put_of_has has]
      exact kept
    | false =>
      rw [if_neg Bool.false_ne_true]
      refine .stalled kept le (.inr ?_)
      rw [Unready, found, Option.all_some, is]
      simp only [Body.isReady, flows.whole, hungUp, empty, List.isEmpty_nil]
      rfl
  · rw [if_neg (by simp [empty])]
    have split : (stream.unread.take count).length = min count stream.unread.length :=
      List.length_take
    refine .brought ?_ (by omega) (fun none => ?_) ?_ ((store_setBody ..).trans_le le)
    · rw [← whole]
      exact (List.take_prefix ..).trans (List.prefix_append ..)
    · exact absurd ((List.take_eq_nil_iff.1 none).resolve_left (Nat.ne_of_gt pos)) empty
    · refine kept.setBody has (.inflow ⟨flows.whole, flows.unbroken, ?_, ends⟩)
      have same : stream.unread.drop (min count stream.unread.length) = stream.unread.drop count :=
        List.drop_eq_drop_iff.2 (by rw [Nat.min_assoc, Nat.min_self])
      rw [← whole, split, List.drop_append_of_le_length (Nat.min_le_right ..), same]

/-- **A read** brings the first of what there is, at least one byte unless there is none. -/
theorem read (h : k.Inventory x) (has : x.Has fd src) {share : Except ChannelError Bytes}
    (gives : src.Gives share) {len : Nat} (pos : 0 < len) :
    Reads k x fd src len share (k.read fd len) := by
  refine h.onDescriptor has _ (fun e k₁ excused kept less => ?_)
    fun k₁ node max? kept le some found fits => ?_
  · simp only [CallKind.excuses, List.mem_cons, Option.some.injEq, reduceCtorEq, false_or,
      List.not_mem_nil, or_false] at excused
    obtain rfl | rfl := excused
    · exact .interrupted kept less
    · exact .stalled kept (Nat.le_of_lt less) (.inl less)
  · have want := limited_pos pos some
    have within : limited len max? ≤ len := Nat.min_le_left ..
    dsimp only
    generalize limited len max? = count at *
    generalize is : node.body = body at fits
    cases gives with
    | @rest file bytes reads =>
      cases fits with
      | @file _ contents _ stored _ =>
        rw [if_neg reads]
        dsimp only
        rw [Contents.read_eq_slice, stored, Bytes.slice]
        refine .brought (List.take_prefix ..) ?_ (fun none => ?_)
          (kept.setDescriptor has.carried fd rfl) le
        · exact Nat.le_trans (List.length_take_le ..) within
        · exact (List.take_eq_nil_iff.1 none).resolve_left (Nat.ne_of_gt want)
    | flow reads =>
      cases fits with
      | inflow flows =>
        rw [if_neg reads]
        exact reads_stream kept has le found is flows want within
    | directory reads =>
      cases fits with
      | directory =>
        rw [if_neg reads]
        exact .failed (.inl rfl) kept
    | closed blind =>
      rw [if_pos blind]
      exact .failed (.inr rfl) kept

/-- **The ways of a write** to a descriptor that takes bytes. -/
inductive Writes (k : Kernel) (x : Stock) (fd : Int) (sink : Handle) (data : Bytes) :
    Except Errno Nat × Kernel → Prop
  | interrupted {k' : Kernel} (kept : k'.Inventory x) (less : k'.store < k.store) :
      Writes k x fd sink data (.error .interrupted, k')
  | stalled {k' : Kernel} (kept : k'.Inventory x) (le : k'.store ≤ k.store)
      (why : k'.store < k.store ∨ k'.Unready sink.file.node .writable) :
      Writes k x fd sink data (.error .wouldBlock, k')
  | took {n : Nat} {k' : Kernel} (some : 0 < n) (within : n ≤ data.length)
      (kept : k'.Inventory (x.put fd (sink.pour (data.take n)))) (le : k'.store ≤ k.store) :
      Writes k x fd sink data (.ok n, k')

/-- A write to a stream fills the room that is there. -/
theorem writes_stream {file : OpenFile} {stream : Stream} {out data want : Bytes} {most : Nat}
    {k₁ : Kernel} {node : Node} (kept : k₁.Inventory x) (has : x.Has fd ⟨file, .outflow out most⟩)
    (le : k₁.store ≤ k.store) (found : k₁.node? file.node = some node)
    (is : node.body = .stream stream) (flows : Outflow stream (k₁.upcoming file.node) out most)
    (more : want ≠ []) (first : want <+: data) :
    Writes k x fd ⟨file, .outflow out most⟩ data
      (if stream.broken then (.error .brokenPipe, k₁)
      else if stream.room? = some 0 && !want.isEmpty then (.error .wouldBlock, k₁)
      else
        let sent := want.take (stream.room?.getD want.length)
        (.ok sent.length, k₁.setBody file.node (.stream
          { stream with
            written := stream.written.append sent
            room? := stream.room?.map (· - sent.length) }))) := by
  have pos : 0 < want.length := List.length_pos_iff.2 more
  rw [if_neg (by rw [flows.whole]; decide)]
  by_cases full : stream.room? = some 0
  · rw [if_pos (by simp [full, more])]
    refine .stalled kept le (.inr ?_)
    rw [Unready, found, Option.all_some, is]
    simp only [Body.isReady, flows.whole, full, ne_eq, not_true_eq_false, decide_false,
      Bool.or_self]
  · rw [if_neg (by simp [full])]
    dsimp only
    generalize sends : want.take (stream.room?.getD want.length) = sent
    have length : sent.length = min (stream.room?.getD want.length) want.length := by
      rw [← sends, List.length_take]
    have moved : sent = data.take sent.length := by
      refine List.prefix_iff_eq_take.1 ((?_ : sent <+: want).trans first)
      rw [← sends]
      exact List.take_prefix ..
    have roomy : 0 < stream.room?.getD want.length := by
      cases room : stream.room? with
      | none => exact pos
      | some room' => exact Nat.pos_of_ne_zero fun zero => full (room.trans (congrArg _ zero))
    refine .took (by omega) ?_ ?_ ((store_setBody ..).trans_le le)
    · rw [moved, List.length_take]
      exact Nat.min_le_right ..
    · rw [← moved]
      refine kept.setBody has (.outflow ⟨flows.whole, flows.unbroken, ?_, ?_⟩)
      · rw [Contents.toBytes_append, flows.written]
      · rw [List.length_append]
        obtain ⟨any, none⟩ | enough := flows.room
        · exact .inl ⟨by rw [any]; rfl, none⟩
        · refine .inr ?_
          cases room : stream.room? with
          | none =>
            rw [room] at enough
            simp only [Option.map_none, Option.getD_none] at enough ⊢
            omega
          | some room' =>
            rw [room] at enough length
            simp only [Option.map_some, Option.getD_some] at enough length ⊢
            omega

/-- **A write** is taken from its start, at least one byte. -/
theorem write (h : k.Inventory x) (has : x.Has fd src) {out data : Bytes} {most : Nat}
    (takes : src.Takes out most) (other : fd ≠ standardError) (more : data ≠ [])
    (fits : out.length + data.length ≤ most) : Writes k x fd src data (k.write fd data) := by
  rw [Kernel.write, if_neg other]
  refine h.onDescriptor has _ (fun e k₁ excused kept less => ?_)
    fun k₁ node max? kept le most? found stands => ?_
  · simp only [CallKind.excuses, List.mem_cons, Option.some.injEq, reduceCtorEq, false_or,
      List.not_mem_nil, or_false] at excused
    obtain rfl | rfl := excused
    · exact .interrupted kept less
    · exact .stalled kept (Nat.le_of_lt less) (.inl less)
  · have pos : 0 < data.length := List.length_pos_iff.2 more
    have count := limited_pos pos most?
    dsimp only
    generalize wants : data.take (limited data.length max?) = want
    have first : want <+: data := by
      rw [← wants]
      exact List.take_prefix ..
    have want_ne : want ≠ [] := by
      rw [← wants]
      exact fun none => more ((List.take_eq_nil_iff.1 none).resolve_left (Nat.ne_of_gt count))
    obtain ⟨file, material⟩ := src
    obtain ⟨writes, here, kinds⟩ := takes
    dsimp only at writes here kinds stands
    rw [if_neg writes]
    generalize is : node.body = body at stands
    obtain ⟨rfl, offset, room⟩ | rfl := kinds
    · cases stands with
      | @file _ contents _ stored alone =>
        have length : want.length ≤ data.length := first.length_le
        have size : contents.size = file.offset := by
          rw [← Contents.length_toBytes, stored, offset]
        have view : (contents.write file.offset want).toBytes = out ++ want := by
          rw [Contents.toBytes_write_of_size_le (Nat.le_of_eq size), size, Nat.sub_self,
            List.replicate_zero, List.append_nil, stored]
        dsimp only
        rw [writeAt, here, if_neg Bool.false_ne_true, if_neg (mt List.isEmpty_iff.1 want_ne),
          if_neg (by rw [kept.largest]; omega)]
        refine .took (List.length_pos_iff.2 want_ne) length ?_ ((store_setBody ..).trans_le le)
        rw [← List.prefix_iff_eq_take.1 first]
        have once : (x.put fd ⟨file, .file (out ++ want)⟩).put fd
            (Handle.pour ⟨file, .file out⟩ want) = x.put fd (Handle.pour ⟨file, .file out⟩ want) :=
          Stock.put_put x fd rfl
        rw [← once]
        exact (kept.setBody has (.file view alone)).setDescriptor (Stock.has_put ..).carried fd rfl
    · cases stands with
      | outflow flows =>
        exact writes_stream kept has le found is flows want_ne first

/-! ### Waits -/

/-- **The ways of a wait** for a node. -/
inductive Polls (k : Kernel) (x : Stock) (name : String) (direction : Direction) :
    Polled × Kernel → Prop
  | interrupted {k' : Kernel} (kept : k'.Inventory x) (less : k'.store < k.store) :
      Polls k x name direction (.failed .interrupted, k')
  | ready {k' : Kernel} (kept : k'.Inventory x) (le : k'.store ≤ k.store)
      (less : k.Unready name direction → k'.store < k.store) : Polls k x name direction (.ready, k')

/-- When no more events are to come, what is ready in the end is ready. -/
theorem not_unready (h : k.Inventory x) (carried : x.prospects name = .carried m)
    {direction : Direction} (live : m.Live direction) (none : k.events = []) :
    ¬ k.Unready name direction := by
  have meets := h.names name
  rw [carried] at meets
  obtain ⟨node, found, _, fits⟩ := id meets
  rw [upcoming, none] at fits
  rw [Unready, found, Option.all_some, live node.body fits]
  decide

/-- **A node that is ready in the end** is waited for, from event to event. -/
theorem awaitNode (h : k.Inventory x) (carried : x.prospects name = .carried m)
    {direction : Direction} (live : m.Live direction) (fuel : Nat)
    (enough : k.events.length ≤ fuel) :
    Polls k x name direction (Kernel.awaitNode name direction none fuel k) := by
  induction fuel generalizing k with
  | zero =>
    have none : k.events = [] := List.length_eq_zero_iff.1 (Nat.le_zero.1 enough)
    unfold Kernel.awaitNode
    split
    · next is =>
      exact .ready h (Nat.le_refl _) fun unready => absurd is (Bool.eq_false_iff.1 unready)
    · next unready => exact absurd (Bool.eq_false_iff.2 unready) (h.not_unready carried live none)
  | succ fuel ih =>
    unfold Kernel.awaitNode
    split
    · next is =>
      exact .ready h (Nat.le_refl _) fun unready => absurd is (Bool.eq_false_iff.1 unready)
    next unready =>
    have unready : k.Unready name direction := Bool.eq_false_iff.2 unready
    split
    · next time _ _ same first =>
      obtain rfl := Nat.succ.inj same
      have fewer := length_events_advanceTo first
      have less : (k.advanceTo time).store < k.store := by
        rw [store, store, (k.store_advanceTo time).1]
        exact Nat.add_lt_add_left fewer _
      rw [if_pos (Option.all_none ..)]
      have polls := ih (h.advanceTo time) (Nat.le_of_lt_succ (Nat.lt_of_lt_of_le fewer enough))
      generalize Kernel.awaitNode name direction none fuel (k.advanceTo time) = r at polls
      cases polls with
      | interrupted kept less' => exact .interrupted kept (Nat.lt_trans less' less)
      | ready kept le _ =>
        have less := Nat.lt_of_le_of_lt le less
        exact .ready kept (Nat.le_of_lt less) fun _ => less
    · next others =>
      cases events : k.events with
      | nil => exact absurd unready (h.not_unready carried live events)
      | cons event later => exact (others _ _ _ _ rfl events).elim

/-- **A poll without a timeout** is interrupted, or finds the descriptor ready. -/
theorem poll (h : k.Inventory x) (has : x.Has fd src) {direction : Direction}
    (live : src.material.Live direction) :
    Polls k x src.file.node direction (k.poll fd direction none) := by
  have told := h.consult has.carried .poll
  have le := k.store_consult_le src.file.node .poll
  rw [Kernel.poll, (h.files fd).trans has.opened]
  dsimp only
  cases fails : (k.consult src.file.node .poll).1.errno? with
  | some e =>
    have excused := ((h.carries has).mild_consult .poll).1
    rw [fails] at excused
    simp only [CallKind.excuses, List.mem_cons, Option.some.injEq, reduceCtorEq, false_or,
      List.not_mem_nil, or_false] at excused
    obtain rfl := excused
    exact .interrupted told (store_consult_lt (Adjustment.ne_none fails))
  | none =>
    have polls := told.awaitNode has.carried live _ (Nat.le_refl _)
    dsimp only
    rw [Option.map_none]
    generalize Kernel.awaitNode _ _ _ _ _ = r at polls
    cases polls with
    | interrupted kept less => exact .interrupted kept (Nat.lt_of_lt_of_le less le)
    | ready kept le' less =>
      refine .ready kept (Nat.le_trans le' le) fun unready => ?_
      obtain less' | ⟨_, uses⟩ := k.usesUp_consult src.file.node .poll
      · exact Nat.lt_of_le_of_lt le' less'
      · obtain less' | ⟨same, unready⟩ := uses.unready unready
        · exact Nat.lt_of_le_of_lt le' less'
        · exact Nat.lt_of_lt_of_le (less unready) le

/-! ### Beginnings and endings of descriptors -/

/-- **A path that leads nowhere.** -/
theorem openPath_nowhere (h : k.Inventory x) (missing : x.prospects name = .nowhere)
    {wanted : Flags} (only : wanted.create = false) :
    k.openPath name wanted = (.error .noEntry, k) := by
  have meets := h.names name
  rw [missing] at meets
  have none : k.node? name = none := meets
  have unheard : k.consult name .openPath = ({}, k) := by rw [Kernel.consult, none]
  rw [openPath, unheard]
  dsimp only
  rw [none, only]
  rfl

/-- **A path that is refused**, once less from now on. -/
theorem openPath_refused (h : k.Inventory x) {e : Errno} {times : Nat}
    (refuses : x.prospects name = .refused e (times + 1)) (wanted : Flags) :
    ∃ k', k.openPath name wanted = (.error e, k') ∧
      k'.Inventory (x.expect name (.refused e times)) := by
  have meets := h.names name
  rw [refuses] at meets
  obtain ⟨body, found⟩ := meets
  have left : (k.setNode name ⟨body,
      List.replicate times (.openPath, { errno? := some e })⟩).Inventory
        (x.expect name (.refused e times)) :=
    { allocates := h.allocates
      largest := h.largest
      names := fun other => by
        rw [Stock.prospects_expect]
        split
        · next here =>
          rw [here]
          exact ⟨body, (node?_setNode ..).trans (if_pos rfl)⟩
        · next apart => exact (h.names other).setNode_other apart _
      files := h.files }
  rw [openPath, consult_of_node found]
  exact ⟨_, rfl, left.advanceTo _⟩

/-- **A path that is opened** for reading is known by the lowest number. -/
theorem openPath_ok (h : k.Inventory x) (carried : x.prospects name = .carried m)
    (free : x.files 3 = none) (wanted : Flags) (reads : wanted.access = .readOnly)
    (only : wanted.create = false) (any : wanted.directory = false)
    (keeps : wanted.truncate = false) :
    ∃ k', k.openPath name wanted = (.ok 3, k') ∧
      k'.Inventory (x.put 3 ⟨⟨name, wanted.status, 0⟩, m⟩) := by
  have told := h.consult carried .openPath
  have meets := h.names name
  have later := told.names name
  rw [carried] at meets later
  have sure : (k.consult name .openPath).1.errno? = none :=
    List.mem_singleton.1 (Carries.mild_consult meets .openPath).1
  obtain ⟨node, found, _⟩ := later
  have unused : (k.consult name .openPath).2.descriptors.lookup ((3 : Nat) : Int) = none :=
    (told.files 3).trans free
  have lowest : (k.consult name .openPath).2.freeDescriptor = 3 := by
    rw [freeDescriptor]
    cases (k.consult name .openPath).2.descriptors.length with
    | zero => rfl
    | succ n =>
      rw [freeFrom, unused]
      rfl
  refine ⟨_, ?_, told.setDescriptor carried 3 rfl⟩
  rw [openPath]
  dsimp only
  rw [sure]
  dsimp only
  rw [found, only, any, reads, keeps]
  obtain ⟨body, script⟩ := node
  dsimp only
  have opened : (k.consult name .openPath).2.newDescriptor name wanted =
      (.ok 3, (k.consult name .openPath).2.setDescriptor 3 ⟨name, wanted.status, 0⟩) := by
    rw [newDescriptor, lowest]
    rfl
  cases body <;> exact opened

/-- **A descriptor that is closed** is free again. -/
theorem close (h : k.Inventory x) (has : x.Has fd src) :
    ∃ k', k.close fd = (.ok (), k') ∧ k'.Inventory (x.drop fd) := by
  have told := h.consult has.carried .close
  have sure : (k.consult src.file.node .close).1.errno? = none :=
    List.mem_singleton.1 ((h.carries has).mild_consult .close).1
  rw [Kernel.close, (h.files fd).trans has.opened]
  dsimp only
  rw [sure]
  refine ⟨_, rfl, ?_⟩
  exact
    { allocates := told.allocates
      largest := told.largest
      names := told.names
      files := fun fd' => by
        rw [Stock.files_drop, ← told.files fd']
        exact lookup_filter_ne .. }

end Inventory

end BufferedChannels.Simulation.Kernel
