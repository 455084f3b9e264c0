import BufferedChannels.Proofs.Copying
import BufferedChannels.Proofs.Lifecycle

/-!
# Proofs/Openings — channels that begin and end on a kernel with an inventory

A channel that begins is `Fresh`: nothing is buffered, and its buffers have the length of the
system's.  What a beginning takes its ending gives back: **a descriptor that was claimed and
released** has the owners that it had (`Ownership.release_claim`), one that was adopted gets its
flags back, and one that was opened is free again.
-/

namespace BufferedChannels

open Simulation Simulation.Kernel

/-! ## Owners -/

namespace Ownership

variable {o : Ownership} {fd : Int}

/-- **A descriptor that nobody owned**, claimed and released, leaves no mark. -/
theorem release_claim (alone : o.contains fd = false) : (o.claim fd).release fd = o := by
  obtain ⟨entries⟩ := o
  replace alone : entries.lookup fd = none :=
    Option.isNone_iff_eq_none.1 (Option.isSome_eq_false_iff.1 alone)
  suffices same : remove fd (add fd entries) = entries from congrArg _ same
  induction entries with
  | nil => rw [add, remove, if_pos rfl, if_neg (by decide)]
  | cons entry rest ih =>
    obtain ⟨key, count⟩ := entry
    rw [lookup_cons_eq] at alone
    by_cases here : fd = key
    · rw [if_pos here] at alone
      cases alone
    · rw [if_neg here] at alone
      rw [add, if_neg (Ne.symm here), remove, if_neg (Ne.symm here), ih alone]

theorem owners_of_alone (alone : o.contains fd = false) : o.owners fd = 0 := by
  rw [owners, Option.isNone_iff_eq_none.1 (Option.isSome_eq_false_iff.1 alone)]
  rfl

theorem contains_claim (o : Ownership) (fd : Int) : (o.claim fd).contains fd = true := by
  rw [contains, claim, lookup_add, if_pos rfl]
  rfl

end Ownership

variable {s : System Kernel} {x x' : Stock} {owners : Scope → Ownership} {fd : Int} {src : Handle}

namespace System.Stocked

/-- **A claim of a descriptor that nobody owns** is noted without a word. -/
theorem claim (h : s.Stocked x owners) (alone : (owners .shared).contains fd = false) :
    (Channel.defaultWaiter.claim fd : Act Kernel Unit).Completes s fun _ s' =>
      s'.Stocked x (Channel.defaultWaiter.claimed fd owners) := by
  have one : ((s.ownership .shared).claim fd).owners fd = 1 := by
    rw [Ownership.owners_claim, if_pos rfl, h.ownership, Ownership.owners_of_alone alone]
  refine Act.completes_of_run (a := ())
    { s with ownership := Channel.defaultWaiter.claimed fd s.ownership }
    (.of_same rfl rfl rfl) ⟨h.inventory, by rw [← h.ownership]⟩ fun budget => ?_
  unfold Waiter.claim Channel.defaultWaiter Act.claimIn
  rw [Act.runOn_bind, Act.runOn_bind, Act.runOn_get]
  dsimp only [System.allowing]
  rw [one]
  rfl

/-- **A release of a descriptor that was claimed** is noted without a word. -/
theorem release (h : s.Stocked x (Channel.defaultWaiter.claimed fd owners))
    (alone : (owners .shared).contains fd = false) :
    (Channel.defaultWaiter.release fd : Act Kernel Unit).Completes s fun _ s' =>
      s'.Stocked x owners := by
  have known : (s.ownership .shared).contains fd = true := by
    rw [h.ownership]
    exact Ownership.contains_claim _ fd
  have back : Channel.defaultWaiter.released fd s.ownership = owners := by
    rw [h.ownership]
    funext scope
    cases scope with
    | shared => exact Ownership.release_claim alone
    | isolated => rfl
  refine Act.completes_of_run (a := ())
    { s with ownership := Channel.defaultWaiter.released fd s.ownership }
    (.of_same rfl rfl rfl) ⟨h.inventory, back⟩ fun budget => ?_
  unfold Waiter.release Channel.defaultWaiter Act.releaseIn
  rw [Act.runOn_bind, Act.runOn_bind, Act.runOn_get]
  dsimp only [System.allowing]
  rw [known]
  rfl

/-! ## Parts of beginnings and endings -/

/-- **A beginning or an ending** is no more than murmured, unless beginnings and endings are
shown. -/
theorem lifecycle (h : s.Stocked x owners) {verbose : Bool} (quiet : s.Hushed → verbose = false)
    (message : String) :
    (Channel.logLifecycle verbose message : Act Kernel Unit).Completes s fun _ s' =>
      s'.Stocked x owners := by
  refine (h.log _ message fun hushed => ?_).mono fun _ _ _ ⟨_, after⟩ => after
  rw [quiet hushed]
  decide

/-- **Two buffers** of the system's length. -/
theorem allocateBuffers (h : s.Stocked x owners) (small : s.bufferLength ≤ maxBlock) :
    (Act.allocateBuffers : Act Kernel _).Completes s fun r s' => ∃ buffers, r = .ok buffers ∧
      BlankBuffers buffers ∧ buffers.1.capacity = s.bufferLength ∧
      buffers.2.capacity = s.bufferLength ∧ s'.Stocked x owners := by
  have had : Host.allocate s.host = (true, s.host) := h.inventory.allocate
  have input : ReadAhead.new s.bufferLength = .ok ⟨List.replicate s.bufferLength 0, 0, 0⟩ :=
    if_pos small
  have output : WriteBehind.new s.bufferLength = .ok ⟨List.replicate s.bufferLength 0, 0⟩ :=
    if_pos small
  let buffers : ReadAhead × WriteBehind :=
    (⟨List.replicate s.bufferLength 0, 0, 0⟩, ⟨List.replicate s.bufferLength 0, 0⟩)
  have blank : BlankBuffers buffers := ⟨ReadAhead.new_eq input, WriteBehind.new_eq output⟩
  refine Act.completes_of_run (a := .ok buffers) s (.refl s) ⟨buffers, rfl, blank,
    List.length_replicate, List.length_replicate, h⟩ fun budget => ?_
  unfold Act.allocateBuffers
  rw [Act.runOn_bind, Act.runOn_get]
  dsimp only [System.allowing]
  rw [had, input]
  dsimp only [Act.runOn_bind]
  rw [had, output]
  rfl

/-! ## Flags -/

/-- **A descriptor that is made never to block** keeps its other flags. -/
theorem makeNonblocking (h : s.Stocked x owners) (has : x.Has fd src) :
    (Descriptor.makeNonblocking fd : Act Kernel Unit).Completes s fun _ s' =>
      s'.Stocked (x.put fd src.nonblocking) owners := by
  obtain ⟨k, answers, kept⟩ := h.inventory.getFlags has
  unfold Descriptor.makeNonblocking
  refine h.ask (fun _ => rfl) answers kept fun s₁ _ after => ?_
  obtain ⟨k', answers', changed⟩ :=
    after.inventory.setFlags has { src.file.flags.status with nonblock := true }
  exact after.ask (fun _ => rfl) answers' changed fun _ _ after => Act.completes_pure after

/-- Flags that are noted. -/
theorem saveFlags (h : s.Stocked x owners) (has : x.Has fd src) :
    (Concatenate.saveFlags fd : Act Kernel _).Completes s fun saved s' =>
      saved = some src.file.flags.status ∧ s'.Stocked x owners := by
  obtain ⟨k, answers, kept⟩ := h.inventory.getFlags has
  exact h.ask (fun _ => rfl) answers kept fun _ _ after => Act.completes_pure ⟨rfl, after⟩

/-- **Flags that are put back.** -/
theorem restoreFlags (h : s.Stocked x owners) (has : x.Has fd src) (flags : Flags) :
    (Concatenate.restoreFlags fd (some flags) : Act Kernel Unit).Completes s fun _ s' =>
      s'.Stocked (x.put fd (src.withFlags flags)) owners := by
  obtain ⟨k, answers, changed⟩ := h.inventory.setFlags has flags
  exact h.ask (fun _ => rfl) answers changed fun _ _ after => Act.completes_pure after

end System.Stocked

/-! ## Beginnings -/

namespace Channel

/-- Whether beginnings and endings are shown, by the environment. -/
def shows (env : Environment) : Bool := env.flag "GVF_LOG_LIFECYCLE" false

/-- **A channel that begins** over a material: nothing was read, and nothing is buffered. -/
structure Fresh (c : Channel) (fd : Int) (m : Material) (cap : Nat) (env : Environment) : Prop
    extends c.Blank, c.Over fd m where
  inputCapacity : c.input.capacity = cap
  outputCapacity : c.output.capacity = cap
  unmarked : c.ended = false
  verbose : c.verbose = shows env

variable {c c' : Channel} {m : Material} {cap : Nat} {env : Environment}

theorem Fresh.dry (h : c.Fresh fd m cap env) : c.Dry cap := ⟨h.input, h.live, h.inputCapacity⟩

theorem Fresh.pours (h : c.Fresh fd m cap env) (other : fd ≠ standardError) : c.Pours fd cap m :=
  ⟨h.toOver, h.output, h.outputCapacity, other⟩

theorem quiet_of_hushed (hushed : s.Hushed) : shows s.environment = false := by
  obtain ⟨_, _, _, quiet⟩ := hushed
  exact quiet

/-- **A descriptor is adopted.** -/
theorem adopt_completes (h : s.Stocked x owners) (has : x.Has fd src)
    (alone : (owners .shared).contains fd = false) (small : s.bufferLength ≤ maxBlock)
    (numbered : fd ≠ Waiter.noDescriptor) :
    (adopt fd : Act Kernel _).Completes s fun r s' => ∃ c, r = .ok c ∧
      c.Fresh fd src.material s.bufferLength s.environment ∧
      s'.Stocked (x.put fd src.nonblocking) (defaultWaiter.claimed fd owners) := by
  unfold adopt environmentConfig adoptConfigured
  refine Act.completes_get (fun _ => rfl) ?_
  refine (h.allocateBuffers small).bind
    fun r s₁ tells₁ ⟨buffers, is, blank, input, output, after⟩ => ?_
  subst is
  refine (after.makeNonblocking has).bind fun _ s₂ tells₂ after => ?_
  refine (after.claim alone).bind fun _ s₃ tells₃ after => ?_
  have environment : s₃.environment = s.environment :=
    tells₃.environment.trans (tells₂.environment.trans tells₁.environment)
  refine (after.lifecycle (fun hushed => ?_) _).bind fun _ s₄ _ after => ?_
  · exact (congrArg shows environment).symm.trans (quiet_of_hushed hushed)
  exact Act.completes_pure ⟨_, rfl, ⟨⟨⟨blank.1.2, blank.2.2⟩, blank.1.1, blank.2.1⟩,
    ⟨rfl, rfl, numbered, nofun⟩, input, output, rfl, rfl⟩, after⟩

/-- **A path is opened** as the kernel answers. -/
theorem descriptorOpenPath_completes {path : String} {flags : Flags} {mode : Nat}
    {reply : Except Errno Int} {k : Kernel} (h : s.Stocked x owners)
    (named : path.toList.contains '\x00' = false)
    (answers : s.host.openPath path { flags with nonblock := true } = (reply, k))
    (after : k.Inventory x') :
    (Descriptor.openPath path flags mode : Act Kernel _).Completes s fun r s' =>
      r = Descriptor.settle reply ∧ s'.Stocked x' owners := by
  unfold Descriptor.openPath
  rw [named, if_neg Bool.false_ne_true]
  exact h.ask (r := .openPath path _ mode) (fun _ => rfl) answers after fun _ _ after =>
    Act.completes_pure ⟨rfl, after⟩

/-- **A configuration that breaks its rule** opens nothing. -/
theorem openPath_misconfigured {path : String} {e : ConfigError} (h : s.Stocked x owners)
    (invalid : (Config.ofEnvironment s.environment).validate = .error e) :
    (openPath path {} 0 : Act Kernel _).Completes s fun r s' =>
      r = .error e.toChannelError ∧ s'.Stocked x owners := by
  unfold openPath environmentConfig openConfigured
  refine Act.completes_get (fun _ => rfl) ?_
  dsimp only
  rw [invalid]
  exact Act.completes_pure ⟨rfl, h⟩

/-- **A path with a NUL** opens nothing. -/
theorem openPath_unnamed {path : String} (h : s.Stocked x owners)
    (valid : (Config.ofEnvironment s.environment).validate = .ok ())
    (unnamed : path.toList.contains '\x00' = true) :
    (openPath path {} 0 : Act Kernel _).Completes s fun r s' =>
      r = .error (.ofErrno .invalid) ∧ s'.Stocked x owners := by
  unfold openPath environmentConfig openConfigured Descriptor.openPath
  refine Act.completes_get (fun _ => rfl) ?_
  dsimp only
  rw [valid, unnamed]
  exact Act.completes_pure ⟨rfl, h⟩

/-- **A path that is refused.** -/
theorem openPath_refused {path : String} {e : Errno} (h : s.Stocked x owners)
    (valid : (Config.ofEnvironment s.environment).validate = .ok ())
    (named : path.toList.contains '\x00' = false)
    (refuses : ∀ wanted : Flags, wanted.create = false → ∃ k,
      s.host.openPath path wanted = (.error e, k) ∧ k.Inventory x') :
    (openPath path {} 0 : Act Kernel _).Completes s fun r s' =>
      r = .error (.ofErrno e.recognized) ∧ s'.Stocked x' owners := by
  obtain ⟨k, answers, after⟩ := refuses
    { cloexec := false || (Config.ofEnvironment s.environment).cloexec, nonblock := true } rfl
  unfold openPath environmentConfig openConfigured
  refine Act.completes_get (fun _ => rfl) ?_
  dsimp only
  rw [valid]
  refine (descriptorOpenPath_completes h named answers after).bind fun r s₁ _ ⟨is, after⟩ => ?_
  subst is
  exact Act.completes_pure ⟨rfl, after⟩

/-- What an opened descriptor needs is had. -/
theorem prepare_completes (h : s.Stocked x owners) (has : x.Has fd src)
    (small : s.bufferLength ≤ maxBlock) :
    (prepare fd : Act Kernel _).Completes s fun r s' => ∃ kind input output,
      r = .ok (kind, input, output) ∧ BlankBuffers (input, output) ∧
      (kind.alwaysReady = true → src.material.isStored = true) ∧
      input.capacity = s.bufferLength ∧ output.capacity = s.bufferLength ∧
      s'.Stocked x owners := by
  obtain ⟨mode, k, answers, kept, stored⟩ := h.inventory.stat has
  unfold prepare Descriptor.kindOf
  refine Act.Completes.bind (M := fun r s' => r = .ok (Kind.ofMode mode) ∧ s'.Stocked x owners) ?_
    fun r s₁ tells₁ ⟨is, after⟩ => ?_
  · exact h.ask (fun _ => rfl) answers kept fun _ _ after => Act.completes_pure ⟨rfl, after⟩
  subst is
  refine (after.allocateBuffers (tells₁.bufferLength ▸ small)).bind
    fun r s₂ _ ⟨buffers, is, blank, input, output, after⟩ => ?_
  subst is
  exact Act.completes_pure ⟨_, _, _, rfl, blank, stored, input.trans tells₁.bufferLength,
    output.trans tells₁.bufferLength, after⟩

/-- **A path that is opened**: a channel begins at the start of what it leads to. -/
theorem openPath_completes {path : String} (h : s.Stocked x owners)
    (valid : (Config.ofEnvironment s.environment).validate = .ok ())
    (named : path.toList.contains '\x00' = false) (small : s.bufferLength ≤ maxBlock)
    (carried : x.prospects path = .carried m) (free : x.files 3 = none)
    (alone : (owners .shared).contains 3 = false) :
    (openPath path {} 0 : Act Kernel _).Completes s fun r s' => ∃ c flags, r = .ok c ∧
      c.Fresh 3 m s.bufferLength s.environment ∧ flags.access = .readOnly ∧
      s'.Stocked (x.put 3 ⟨⟨path, flags, 0⟩, m⟩) (defaultWaiter.claimed 3 owners) := by
  obtain ⟨k, answers, after⟩ := h.inventory.openPath_ok carried free
    { cloexec := false || (Config.ofEnvironment s.environment).cloexec, nonblock := true }
    rfl rfl rfl rfl
  unfold openPath environmentConfig openConfigured
  refine Act.completes_get (fun _ => rfl) ?_
  dsimp only
  rw [valid]
  refine (descriptorOpenPath_completes h named answers after).bind
    fun r s₁ tells₁ ⟨is, after⟩ => ?_
  subst is
  refine (after.claim alone).bind fun _ s₂ tells₂ after => ?_
  have tells := tells₁.trans tells₂
  have length : s₂.bufferLength = s.bufferLength := tells.bufferLength
  refine (prepare_completes after (Stock.has_put ..) (length ▸ small)).bind
    fun r s₃ tells₃ ⟨kind, first, second, is, blank, stored, input, output, after⟩ => ?_
  subst is
  refine (after.lifecycle (fun hushed => ?_) _).bind fun _ s₄ _ after => ?_
  · exact (congrArg shows (tells.trans tells₃).environment).symm.trans (quiet_of_hushed hushed)
  exact Act.completes_pure ⟨_, _, rfl, ⟨⟨⟨blank.1.2, blank.2.2⟩, blank.1.1, blank.2.1⟩,
    ⟨rfl, rfl, by decide, stored⟩, input.trans length, output.trans length, rfl, rfl⟩, rfl, after⟩

/-! ## Endings -/

/-- **A channel over a descriptor that the default waiter watches**, with nothing pending. -/
structure Spent (c : Channel) (fd : Int) (env : Environment) : Prop where
  number : c.fd = fd
  settled : c.output.isEmpty = true
  verbose : c.verbose = shows env
  waiter : c.waiter = defaultWaiter

theorem Fresh.spent (fresh : c.Fresh fd m cap env) (done : c.Reread c') : c'.Spent fd env := by
  rw [done.same]
  refine ⟨fresh.number, ?_, fresh.verbose, fresh.waiter⟩
  have none : c.output.len = 0 := by
    rw [← WriteBehind.length_pending fresh.output, fresh.pending]
    rfl
  exact beq_of_eq none

theorem Fresh.spent_of_rewritten (fresh : c.Fresh fd m cap env) (done : c.Rewritten c')
    (sent : c'.output.pending = []) : c'.Spent fd env := by
  have none : c'.output.len = 0 := by
    rw [← WriteBehind.length_pending done.wellFormed, sent]
    rfl
  rw [done.same]
  exact ⟨fresh.number, beq_of_eq none, fresh.verbose, fresh.waiter⟩

/-- **A descriptor is given back.** -/
theorem detach_completes (h : s.Stocked x (defaultWaiter.claimed fd owners))
    (alone : (owners .shared).contains fd = false) (spent : c.Spent fd s.environment) :
    (detach c : Act Kernel _).Completes s fun _ s' => s'.Stocked x owners := by
  have losses : (c.logLoss "detach" : Act Kernel Unit).Completes s fun _ s' =>
      s'.Stocked x (defaultWaiter.claimed fd owners) := by
    unfold logLoss
    rw [spent.settled, if_neg (by decide)]
    cases c.input.isEmpty with
    | true => exact Act.completes_pure h
    | false => exact (h.log .debug _ fun _ => by decide).mono fun _ _ _ ⟨_, after⟩ => after
  rw [detach_eq]
  refine losses.bind fun _ s₁ tells₁ after => ?_
  rw [spent.waiter, spent.number]
  refine (after.release alone).bind fun _ s₂ tells₂ after => ?_
  refine (after.lifecycle (fun hushed => ?_) _).bind fun _ s₃ _ after => Act.completes_pure after
  rw [spent.verbose, ← (tells₁.trans tells₂).environment]
  exact quiet_of_hushed hushed

/-- **A descriptor is closed.** -/
theorem close_completes (h : s.Stocked x (defaultWaiter.claimed fd owners)) (has : x.Has fd src)
    (alone : (owners .shared).contains fd = false) (spent : c.Spent fd s.environment) :
    (close c : Act Kernel _).Completes s fun _ s' => s'.Stocked (x.drop fd) owners := by
  rw [close_eq, spent.waiter, spent.number]
  refine (h.release alone).bind fun _ s₁ tells₁ after => ?_
  obtain ⟨k, answers, closed⟩ := after.inventory.close has
  unfold Descriptor.close
  refine Act.Completes.bind (M := fun r s' => r = .ok () ∧ s'.Stocked (x.drop fd) owners) ?_
    fun r s₂ tells₂ ⟨is, after⟩ => ?_
  · exact after.ask (r := .close fd) (fun _ => rfl) answers closed fun _ _ after =>
      Act.completes_pure ⟨rfl, after⟩
  subst is
  refine after.lifecycle (fun hushed => ?_) _
  rw [spent.verbose, ← (tells₁.trans tells₂).environment]
  exact quiet_of_hushed hushed

end Channel

end BufferedChannels
