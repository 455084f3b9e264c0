import Mathlib
import BufferedChannels.Proofs.Passage

/-!
# Proofs/Material — what a node gives or takes, whatever befalls it

Bytes come to a stream and room is made in it while a program runs.  The `Material` of a node is
what there is to be had of it **now and later**, so that neither time nor a word of a script changes
it (`Carries.ages`, `Carries.consult`).  Scripts are `Mild`: they delay a call, have it move fewer
bytes, or have it made again.

Whatever puts a call off uses something up: the `store` of a kernel counts the words of all scripts
and the events to come.
-/

namespace BufferedChannels.Simulation

/-! ## Scripts that only put calls off -/

/-- The errors after which a call is made again, and no error. -/
def CallKind.excuses : CallKind → List (Option Errno)
  | .read | .write => [none, some .interrupted, some .wouldBlock]
  | .poll => [none, some .interrupted]
  | _ => [none]

/-- **An adjustment that only puts a call off**, or has it move fewer bytes, but not none. -/
def Adjustment.Mild (adjustment : Adjustment) (kind : CallKind) : Prop :=
  adjustment.errno? ∈ kind.excuses ∧ adjustment.max? ≠ some 0

/-- **A script that only puts calls off.** -/
def Mild (script : List (CallKind × Adjustment)) : Prop := ∀ item ∈ script, item.2.Mild item.1

instance (script : List (CallKind × Adjustment)) : Decidable (Mild script) :=
  inferInstanceAs (Decidable (∀ item ∈ script, item.2.errno? ∈ item.1.excuses ∧
    item.2.max? ≠ some 0))

/-- Nothing is mild. -/
theorem mild_nothing (kind : CallKind) : ({} : Adjustment).Mild kind :=
  ⟨by cases kind <;> decide, nofun⟩

/-! ## Streams that come to their end -/

/-- **A stream that ends**: nothing is sent to it once it has hung up, and some time it has. -/
def Ends : Bool → List Stimulus → Prop
  | hungUp, [] => hungUp = true
  | hungUp, s :: coming => (hungUp = true → s.push = []) ∧ Ends (hungUp || s.hangsUp) coming

/-- Nothing comes after the end. -/
theorem Ends.nothing_more {coming : List Stimulus} (h : Ends true coming) :
    coming.flatMap Stimulus.push = [] := by
  induction coming with
  | nil => rfl
  | cons s coming ih => rw [List.flatMap_cons, h.1 rfl, ih h.2, List.nil_append]

/-- **A stream that is read to its end**: the bytes that wait and those that are to come. -/
structure Inflow (stream : Stream) (coming : List Stimulus) (bytes : Bytes) : Prop where
  whole : stream.broken = false
  unbroken : ∀ s ∈ coming, s.breaks = false
  bytes : stream.unread ++ coming.flatMap Stimulus.push = bytes
  ends : Ends stream.hungUp coming

/-- **A stream that is written to**: it took bytes, and takes so many in all. -/
structure Outflow (stream : Stream) (coming : List Stimulus) (taken : Bytes) (most : Nat) :
    Prop where
  whole : stream.broken = false
  unbroken : ∀ s ∈ coming, s.breaks = false
  written : stream.written.toBytes = taken
  room : stream.room? = none ∧ (∀ s ∈ coming, s.room? = none) ∨
    most ≤ taken.length + stream.room?.getD 0 + (coming.map fun s => s.room?.getD 0).sum

/-! ## Materials -/

/-- **What there is to be had of a node.** -/
inductive Material where
  | file (bytes : Bytes)
  | directory
  /-- A stream that has these bytes to give. -/
  | inflow (bytes : Bytes)
  /-- A stream that took bytes, and takes so many in all. -/
  | outflow (taken : Bytes) (most : Nat)

namespace Material

/-- **A node is of a material**, with what is to befall it. -/
inductive Fits : Material → Body → List Stimulus → Prop
  | file {bytes : Bytes} {contents : Contents} {coming : List Stimulus}
      (stored : contents.toBytes = bytes) (alone : ∀ s ∈ coming, s.push = []) :
      Fits (.file bytes) (.file contents) coming
  | directory {contents : Contents} {coming : List Stimulus} :
      Fits .directory (.directory contents) coming
  | inflow {bytes : Bytes} {stream : Stream} {coming : List Stimulus}
      (flows : Inflow stream coming bytes) : Fits (.inflow bytes) (.stream stream) coming
  | outflow {taken : Bytes} {most : Nat} {stream : Stream} {coming : List Stimulus}
      (flows : Outflow stream coming taken most) :
      Fits (.outflow taken most) (.stream stream) coming

variable {m : Material} {node : Node} {s : Stimulus} {due coming : List Stimulus}

/-- **What befalls a node** was to befall it, and leaves its material. -/
theorem Fits.undergo (h : m.Fits node.body (s :: coming)) : m.Fits (s.apply node).body coming := by
  obtain ⟨body, script⟩ := node
  cases h with
  | file stored alone =>
    obtain ⟨first, later⟩ := List.forall_mem_cons.1 alone
    exact .file (by rw [Contents.toBytes_append, stored, first, List.append_nil]) later
  | directory => exact .directory
  | inflow flows =>
    obtain ⟨first, later⟩ := List.forall_mem_cons.1 flows.unbroken
    refine .inflow ⟨?_, later, ?_, flows.ends.2⟩
    · exact (congrArg₂ _ flows.whole first).trans (Bool.or_false _)
    · exact (List.append_assoc ..).trans flows.bytes
  | @outflow _ _ stream _ flows =>
    obtain ⟨first, later⟩ := List.forall_mem_cons.1 flows.unbroken
    refine .outflow ⟨?_, later, flows.written, ?_⟩
    · exact (congrArg₂ _ flows.whole first).trans (Bool.or_false _)
    obtain ⟨any, none⟩ | enough := flows.room
    · obtain ⟨first, later⟩ := List.forall_mem_cons.1 none
      refine .inl ⟨?_, later⟩
      rw [first]
      exact any
    · refine .inr ?_
      rw [List.map_cons, List.sum_cons] at enough
      cases made : s.room? with
      | none =>
        rw [made] at enough
        simpa using enough
      | some more =>
        rw [made] at enough
        simp only [Option.getD_some] at enough ⊢
        omega

/-- Files and directories, which never keep a call waiting. -/
def isStored : Material → Bool
  | .file _ | .directory => true
  | _ => false

theorem Fits.ready_of_stored {body : Body} (h : m.Fits body coming) (stored : m.isStored = true)
    (direction : Direction) : body.isReady direction = true := by
  cases h with
  | file => rfl
  | directory => rfl
  | inflow => cases stored
  | outflow => cases stored

/-- **A material that is ready in the end** for a direction. -/
def Live (m : Material) (direction : Direction) : Prop :=
  ∀ body, m.Fits body [] → body.isReady direction = true

theorem live_of_stored (stored : m.isStored = true) (direction : Direction) : m.Live direction :=
  fun _ fits => fits.ready_of_stored stored direction

theorem live_inflow (bytes : Bytes) : (inflow bytes).Live .readable := by
  intro body fits
  cases fits with
  | @inflow _ stream _ flows =>
    have ended : stream.hungUp = true := flows.ends
    simp only [Body.isReady, ended, Bool.true_or, Bool.or_true]

/-- A stream that has not taken all it takes will take more. -/
theorem live_outflow {taken : Bytes} {most : Nat} (less : taken.length < most) :
    (outflow taken most).Live .writable := by
  intro body fits
  cases fits with
  | @outflow _ _ stream _ flows =>
    have room : stream.room? ≠ some 0 := by
      intro full
      obtain ⟨any, _⟩ | enough := flows.room
      · exact nomatch full.symm.trans any
      · rw [full] at enough
        simp only [Option.getD_some, List.map_nil, List.sum_nil] at enough
        omega
    simp only [Body.isReady, decide_eq_true room, Bool.or_true]

end Material

/-! ## What befalls a node in time -/

/-- A node after all that befell it. -/
def Node.after (due : List Stimulus) (node : Node) : Node :=
  due.foldl (fun node s => s.apply node) node

theorem Node.script_after (due : List Stimulus) (node : Node) :
    (node.after due).script = node.script := by
  induction due generalizing node with
  | nil => rfl
  | cons s due ih => exact ih (s.apply node)

theorem Material.Fits.after {m : Material} {due coming : List Stimulus} {node : Node}
    (h : m.Fits node.body (due ++ coming)) : m.Fits (node.after due).body coming := by
  induction due generalizing node with
  | nil => exact h
  | cons s due ih => exact ih h.undergo

namespace Kernel

variable {k k' : Kernel} {name : String} {m : Material}

/-- What is to befall a node, among the events of a list. -/
def about (name : String) (events : List (Nat × Stimulus)) : List Stimulus :=
  (events.filter fun event => event.2.node = name).map Prod.snd

/-- **What is to befall a node.** -/
def upcoming (k : Kernel) (name : String) : List Stimulus := about name k.events

theorem about_append (name : String) (due later : List (Nat × Stimulus)) :
    about name (due ++ later) = about name due ++ about name later := by
  rw [about, List.filter_append, List.map_append]
  rfl

/-- **A node ages**: some of what was to befall it has. -/
def Ages (k k' : Kernel) (name : String) : Prop :=
  ∃ due, k.upcoming name = due ++ k'.upcoming name ∧
    k'.node? name = (k.node? name).map (Node.after due)

theorem node?_befall (k : Kernel) (s : Stimulus) (name : String) :
    (k.befall s).node? name =
      if s.node = name then (k.node? name).map s.apply else k.node? name := by
  unfold befall
  split
  · next node found =>
    rw [node?_setNode]
    by_cases here : s.node = name
    · rw [if_pos here.symm, if_pos here, ← here, found]
      rfl
    · rw [if_neg (Ne.symm here), if_neg here]
  · next none =>
    by_cases here : s.node = name
    · rw [if_pos here, ← here, none]
      rfl
    · rw [if_neg here]

theorem node?_befallAll (due : List (Nat × Stimulus)) (k : Kernel) (name : String) :
    (due.foldl (fun k event => k.befall event.2) k).node? name =
      (k.node? name).map (Node.after (about name due)) := by
  induction due generalizing k with
  | nil => exact Option.map_id'.symm
  | cons event due ih =>
    rw [List.foldl_cons, ih, node?_befall]
    unfold about
    by_cases here : event.2.node = name
    · rw [if_pos here, List.filter_cons_of_pos (by simpa using here), Option.map_map]
      rfl
    · rw [if_neg here, List.filter_cons_of_neg (by simpa using here)]

theorem events_advanceTo (k : Kernel) (instant : Nat) : (k.advanceTo instant).events =
    k.events.dropWhile fun event => event.1 ≤ max k.clock instant := by
  obtain ⟨_, _, _, events, _⟩ := befallAll_spec
    (k.events.takeWhile fun event => event.1 ≤ max k.clock instant)
    { k with
      clock := max k.clock instant
      events := k.events.dropWhile fun event => event.1 ≤ max k.clock instant }
  exact events

/-- **Time passes**, and every node ages. -/
theorem ages_advanceTo (k : Kernel) (instant : Nat) (name : String) :
    Ages k (k.advanceTo instant) name := by
  refine ⟨about name (k.events.takeWhile fun event => event.1 ≤ max k.clock instant), ?_, ?_⟩
  · rw [upcoming, upcoming, events_advanceTo, ← about_append, List.takeWhile_append_dropWhile]
  · exact node?_befallAll _ _ name

theorem Ages.refl (k : Kernel) (name : String) : Ages k k name := ⟨[], rfl, Option.map_id'.symm⟩

/-- **A script's word on another call** takes time. -/
theorem ages_consult (k : Kernel) {name other : String} (apart : name ≠ other) (kind : CallKind) :
    Ages k (k.consult other kind).2 name := by
  unfold consult
  split
  · exact .refl k name
  · next node _ =>
    obtain ⟨due, coming, later⟩ := ages_advanceTo (k.setNode other { node with
      script := (takeAdjustment kind node.script).2 })
      (k.clock + (takeAdjustment kind node.script).1.delay) name
    rw [node?_setNode, if_neg apart] at later
    exact ⟨due, coming, later⟩

/-- **The first event to come** happens when its time has come. -/
theorem length_events_advanceTo {event : Nat × Stimulus} {later : List (Nat × Stimulus)}
    (first : k.events = event :: later) :
    (k.advanceTo event.1).events.length < k.events.length := by
  rw [events_advanceTo, first,
    List.dropWhile_cons_of_pos (by exact decide_eq_true (Nat.le_max_right ..))]
  exact Nat.lt_succ_of_le (List.dropWhile_sublist _).length_le

/-! ## The store of what puts calls off -/

/-- The words of all scripts. -/
def words (k : Kernel) : Nat := (k.nodes.map fun entry => entry.2.script.length).sum

/-- **The store**: words of scripts and events to come. -/
def store (k : Kernel) : Nat := k.words + k.events.length

theorem sum_assign {α β : Type} [DecidableEq α] {key : α} {value : β} {l : List (α × β)}
    (found : l.lookup key = some value) (value' : β) (weight : β → Nat) :
    ((assign key value' l).map fun entry => weight entry.2).sum + weight value =
      (l.map fun entry => weight entry.2).sum + weight value' := by
  induction l with
  | nil => cases found
  | cons entry rest ih =>
    obtain ⟨k, v⟩ := entry
    rw [Ownership.lookup_cons_eq] at found
    rw [assign]
    by_cases here : key = k
    · rw [if_pos here] at found
      rw [if_pos here.symm, Option.some.inj found]
      simp only [List.map_cons, List.sum_cons]
      omega
    · rw [if_neg here] at found
      have rest := ih found
      rw [if_neg (Ne.symm here)]
      simp only [List.map_cons, List.sum_cons]
      omega

theorem words_setNode {node : Node} (found : k.node? name = some node) (node' : Node) :
    (k.setNode name node').words + node.script.length = k.words + node'.script.length :=
  sum_assign found node' fun node => node.script.length

/-- A body that is replaced leaves the store as it is. -/
theorem store_setBody (k : Kernel) (name : String) (body : Body) :
    (k.setBody name body).store = k.store := by
  unfold setBody
  split
  · next node found =>
    have words := words_setNode found { node with body }
    exact congrArg (· + k.events.length) (Nat.add_right_cancel words)
  · rfl

theorem words_befallAll (due : List (Nat × Stimulus)) (k : Kernel) :
    (due.foldl (fun k event => k.befall event.2) k).words = k.words := by
  induction due generalizing k with
  | nil => rfl
  | cons event due ih =>
    rw [List.foldl_cons, ih]
    unfold befall
    split
    · next node found => exact Nat.add_right_cancel (words_setNode found (event.2.apply node))
    · rfl

/-- **Time passes with events**, which are then no more to come, or without any. -/
theorem store_advanceTo (k : Kernel) (instant : Nat) :
    (k.advanceTo instant).words = k.words ∧
      ((k.advanceTo instant).events.length < k.events.length ∨
        (k.advanceTo instant).events = k.events ∧ (k.advanceTo instant).nodes = k.nodes) := by
  have whole := k.events.takeWhile_append_dropWhile
    (p := fun event => decide (event.1 ≤ max k.clock instant))
  rw [events_advanceTo]
  unfold advanceTo
  dsimp only
  rw [words_befallAll]
  generalize (k.events.takeWhile fun event => event.1 ≤ max k.clock instant) = due at *
  generalize (k.events.dropWhile fun event => event.1 ≤ max k.clock instant) = later at *
  refine ⟨rfl, ?_⟩
  cases due with
  | nil => exact .inr ⟨whole, rfl⟩
  | cons event due =>
    refine .inl ?_
    rw [← whole]
    simp only [List.cons_append, List.length_cons, List.length_append]
    omega

/-- **Something was used up**, or no node has changed. -/
def UsesUp (k k' : Kernel) : Prop :=
  k'.store < k.store ∨ k'.store = k.store ∧ k'.nodes = k.nodes

theorem UsesUp.store_le (h : UsesUp k k') : k'.store ≤ k.store := by
  obtain less | ⟨same, _⟩ := h
  · exact Nat.le_of_lt less
  · exact Nat.le_of_eq same

theorem usesUp_advanceTo (k : Kernel) (instant : Nat) : UsesUp k (k.advanceTo instant) := by
  obtain ⟨words, less | ⟨events, nodes⟩⟩ := k.store_advanceTo instant
  · exact .inl (by rw [store, store, words]; omega)
  · exact .inr ⟨by rw [store, store, words, events], nodes⟩

/-- **A script has its word**, which is used up then, or it has none. -/
theorem usesUp_consult (k : Kernel) (name : String) (kind : CallKind) :
    (k.consult name kind).2.store < k.store ∨
      (k.consult name kind).1 = {} ∧ UsesUp k (k.consult name kind).2 := by
  cases found : k.node? name with
  | none =>
    rw [consult, found]
    exact .inr ⟨rfl, .inr ⟨rfl, rfl⟩⟩
  | some node =>
    rw [consult_of_node found]
    obtain ⟨none | ⟨_, less⟩, _⟩ := takeAdjustment_spec kind node.script
    · rw [none]
      have same : k.setNode name { node with script := node.script } = k := by
        rw [setNode, assign_of_lookup found]
      refine .inr ⟨rfl, ?_⟩
      dsimp only
      rw [same]
      exact k.usesUp_advanceTo _
    · refine .inl ?_
      have passed := ((k.setNode name { node with
        script := (takeAdjustment kind node.script).2 }).usesUp_advanceTo
          (k.clock + (takeAdjustment kind node.script).1.delay)).store_le
      have words := words_setNode found
        { node with script := (takeAdjustment kind node.script).2 }
      refine Nat.lt_of_le_of_lt passed ?_
      rw [store, store]
      dsimp only [setNode] at words ⊢
      omega

theorem store_consult_le (k : Kernel) (name : String) (kind : CallKind) :
    (k.consult name kind).2.store ≤ k.store := by
  obtain less | ⟨_, uses⟩ := k.usesUp_consult name kind
  · exact Nat.le_of_lt less
  · exact uses.store_le

/-- A word of a script is used up. -/
theorem store_consult_lt {kind : CallKind} (word : (k.consult name kind).1 ≠ {}) :
    (k.consult name kind).2.store < k.store := by
  obtain less | ⟨none, _⟩ := k.usesUp_consult name kind
  · exact less
  · exact absurd none word

/-! ## Nodes of a material -/

/-- **A kernel carries a material** under a name, with a script that only puts calls off. -/
def Carries (k : Kernel) (name : String) (m : Material) : Prop :=
  ∃ node, k.node? name = some node ∧ Mild node.script ∧ m.Fits node.body (k.upcoming name)

/-- **A node that ages** is of the same material. -/
theorem Carries.ages (h : k.Carries name m) (ages : Ages k k' name) : k'.Carries name m := by
  obtain ⟨node, found, mild, fits⟩ := h
  obtain ⟨due, coming, later⟩ := ages
  rw [coming] at fits
  exact ⟨node.after due, by rw [later, found]; rfl, by rwa [Node.script_after], fits.after⟩

/-- A node that is put in place, of a material. -/
theorem carries_setNode {node : Node} (mild : Mild node.script)
    (fits : m.Fits node.body (k.upcoming name)) : (k.setNode name node).Carries name m :=
  ⟨node, (node?_setNode ..).trans (if_pos rfl), mild, fits⟩

/-- What is put elsewhere. -/
theorem Carries.setNode_other (h : k.Carries name m) {other : String} (apart : name ≠ other)
    (node : Node) : (k.setNode other node).Carries name m := by
  obtain ⟨there, found, carried⟩ := h
  exact ⟨there, (node?_setNode ..).trans ((if_neg apart).trans found), carried⟩

/-- **A script's word** leaves every material as it is. -/
theorem Carries.consult (h : k.Carries name m) (other : String) (kind : CallKind) :
    (k.consult other kind).2.Carries name m := by
  by_cases here : name = other
  · subst here
    obtain ⟨node, found, mild, fits⟩ := h
    rw [consult_of_node found]
    have carried : (k.setNode name { node with
        script := (takeAdjustment kind node.script).2 }).Carries name m := carries_setNode
      (fun item mem => mild item ((takeAdjustment_spec kind node.script).2 item mem)) fits
    exact carried.ages (ages_advanceTo _ _ name)
  · exact h.ages (k.ages_consult here kind)

/-- **The word of a mild script** is mild. -/
theorem Carries.mild_consult (h : k.Carries name m) (kind : CallKind) :
    (k.consult name kind).1.Mild kind := by
  obtain ⟨node, found, mild, _⟩ := h
  rw [consult_of_node found]
  dsimp only
  obtain ⟨none | ⟨mem, _⟩, _⟩ := takeAdjustment_spec kind node.script
  · rw [none]
    exact mild_nothing kind
  · exact mild _ mem

end Kernel

end BufferedChannels.Simulation
