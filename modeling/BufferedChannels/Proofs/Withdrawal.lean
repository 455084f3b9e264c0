import Mathlib
import BufferedChannels.Proofs.Custody
import BufferedChannels.Proofs.Passage

/-!
# Proofs/Withdrawal — a beginning that fails leaves nothing behind

An opening has five places to fail: the rule of its configuration, the name of the path, the call
that opens it, the question for its kind and the two allocations.  Whichever comes **first** gives
the error, and what was taken until then goes back in the opposite order: the owner is struck, then
the descriptor is closed, and a close that fails changes nothing (`Opening.leaves_nothing`).  The
simulated kernel says what that means for the descriptors: the number that an opening is given was
free (`lookup_freeDescriptor`), so closing it restores the table as it was, entry by entry.
-/

namespace BufferedChannels

open Simulation

/-! ## Owners -/

/-- **A claim and a release** leave no mark, whoever owned the descriptor before. -/
theorem Ownership.release_claim_of_wellFormed {o : Ownership} (h : o.WellFormed) (fd : Int) :
    (o.claim fd).release fd = o := by
  obtain ⟨entries⟩ := o
  have pos : ∀ fd count, (fd, count) ∈ entries → 0 < count := h.pos
  suffices same : remove fd (add fd entries) = entries from congrArg _ same
  clear h
  induction entries with
  | nil => rw [add, remove, if_pos rfl, if_neg (by decide)]
  | cons entry rest ih =>
    obtain ⟨key, count⟩ := entry
    have owned : 0 < count := pos key count List.mem_cons_self
    by_cases here : key = fd
    · rw [add, if_pos here, remove, if_pos here, if_pos (Nat.succ_lt_succ owned),
        Nat.add_sub_cancel]
    · rw [add, if_neg here, remove, if_neg here,
        ih fun fd count mem => pos fd count (List.mem_cons_of_mem _ mem)]

/-- **What a waiter notes at a beginning** is struck when the beginning fails. -/
theorem Waiter.released_claimed {owned : Scope → Ownership} (wf : ∀ scope, (owned scope).WellFormed)
    (w : Waiter) (fd : Int) : w.released fd (w.claimed fd owned) = owned := by
  rcases w with own | _
  · funext scope
    by_cases here : scope = own
    · subst here
      simp only [released, claimed, if_pos]
      exact Ownership.release_claim_of_wellFormed (wf scope) fd
    · simp only [released, claimed, if_neg here]
  · rfl

/-- **The registry of a scheduler** after what it was told in an exchange. -/
def Exchange.registered (o : Ownership) : Exchange → Ownership
  | ⟨.claim fd, _⟩ => o.claim fd
  | ⟨.release fd, _⟩ => o.release fd
  | _ => o

/-- **The registry of a scheduler** after a dialogue. -/
def Dialogue.registered (o : Ownership) (es : Dialogue) : Ownership :=
  es.foldl Exchange.registered o

namespace Simulation

namespace Kernel

variable {k k' : Kernel}

/-- A question for the kind opens and closes nothing. -/
theorem sameTable_stat (k : Kernel) (fd : Int) : SameTable k (k.answer (.stat fd)).2 := by
  obtain ⟨k₁, passes, ⟨e, run⟩ | ⟨file, body, max?, _, _, run⟩⟩ :=
    k.onDescriptor_ways fd .stat fun k _ body _ => (.ok body.mode, k)
  all_goals
    show SameTable k (k.onDescriptor fd .stat _).2
    rw [run]
    exact passes.table

/-! ## The descriptor that an opening is given -/

/-- A search that ends at a descriptor has found **nothing but descriptors**. -/
theorem lookup_of_freeFrom {fuel n : Nat}
    (taken : (k.descriptors.lookup (k.freeFrom fuel n : Int)).isSome) :
    ∀ i ≤ fuel, (k.descriptors.lookup ((n + i : Nat) : Int)).isSome := by
  induction fuel generalizing n with
  | zero =>
    intro i le
    rw [Nat.le_zero.1 le]
    exact taken
  | succ fuel ih =>
    intro i le
    rw [freeFrom] at taken
    split at taken
    · next here =>
      rcases i with _ | i
      · exact here
      · rw [Nat.add_succ, ← Nat.succ_add]
        exact ih taken i (Nat.le_of_succ_le_succ le)
    · next free => exact absurd taken free

/-- **The number of a new descriptor is free**: a table of so many entries cannot hold one more
number than it has. -/
theorem lookup_freeDescriptor (k : Kernel) :
    k.descriptors.lookup (k.freeDescriptor : Int) = none := by
  by_contra held
  have all := lookup_of_freeFrom (Option.isSome_iff_ne_none.2 held)
  have subset : (List.range (k.descriptors.length + 1)).map (fun i => ((3 + i : Nat) : Int)) ⊆
      k.descriptors.map Prod.fst := by
    intro fd mem
    obtain ⟨i, below, rfl⟩ := List.mem_map.1 mem
    obtain ⟨file, found⟩ := Option.isSome_iff_exists.1
      (all i (Nat.le_of_lt_succ (List.mem_range.1 below)))
    by_contra no
    have none : k.descriptors.lookup ((3 + i : Nat) : Int) = none :=
      List.lookup_eq_none_iff.2 fun entry he => by
        simpa using fun same => no (List.mem_map.2 ⟨entry, he, same.symm⟩)
    rw [none] at found
    cases found
  have distinct : ((List.range (k.descriptors.length + 1)).map
      (fun i => ((3 + i : Nat) : Int))).Nodup :=
    List.nodup_range.map fun i j same => by simpa using same
  have few := (distinct.subperm subset).length_le
  rw [List.length_map, List.length_map, List.length_range] at few
  omega

/-- No entry has a key that nothing is found under. -/
theorem filter_of_none {fd : Int} {l : List (Int × OpenFile)} (free : l.lookup fd = none) :
    (l.filter fun entry => entry.1 ≠ fd) = l := by
  refine List.filter_eq_self.2 fun entry he => ?_
  have apart := List.lookup_eq_none_iff.1 free entry he
  exact decide_eq_true fun same => (bne_iff_ne.1 apart) same.symm

/-- A key that is new goes to the end. -/
theorem assign_of_none {fd : Int} {file : OpenFile} {l : List (Int × OpenFile)}
    (free : l.lookup fd = none) : assign fd file l = l ++ [(fd, file)] := by
  induction l with
  | nil => rfl
  | cons entry rest ih =>
    obtain ⟨key, value⟩ := entry
    rw [Ownership.lookup_cons_eq] at free
    by_cases here : fd = key
    · rw [if_pos here] at free
      cases free
    · rw [if_neg here] at free
      rw [assign, if_neg (Ne.symm here), ih free, List.cons_append]

/-- **A descriptor more**, under a number that was free. -/
def Gains (fd : Int) (k k' : Kernel) : Prop :=
  k'.failingAllocation = k.failingAllocation ∧ k.descriptors.lookup fd = none ∧
    ∃ file, k'.descriptors = k.descriptors ++ [(fd, file)]

/-- **Opening a path** adds one descriptor or none. -/
theorem openPath_gains (k : Kernel) (path : String) (flags : Flags) :
    (∃ x k', k.openPath path flags = (.error x, k') ∧ SameTable k k') ∨
      ∃ fd k', k.openPath path flags = (.ok fd, k') ∧ Gains fd k k' := by
  have kept := (k.passes_consult path .openPath).table
  have begins {k₁ : Kernel} (same : SameTable k k₁) (flags : Flags) :
      ∃ fd k', k₁.newDescriptor path flags = (.ok fd, k') ∧ Gains fd k k' := by
    have free := lookup_freeDescriptor k₁
    exact ⟨_, _, rfl, same.2, same.1 ▸ free, _, (assign_of_none free).trans (by rw [same.1])⟩
  unfold openPath
  dsimp only
  split
  · exact .inl ⟨_, _, rfl, kept⟩
  split
  · split
    · have empty : SameTable (k.consult path .openPath).2 ((k.consult path .openPath).2.setNode path
          { body := .file {} }) := ⟨rfl, rfl⟩
      exact .inr (begins (kept.trans empty) flags)
    · exact .inl ⟨_, _, rfl, kept⟩
  · split
    · exact .inl ⟨_, _, rfl, kept⟩
    split
    · exact .inl ⟨_, _, rfl, kept⟩
    split
    · exact .inl ⟨_, _, rfl, kept⟩
    refine .inr (begins (kept.trans ?_) flags)
    split
    · split
      · exact sameTable_setBody _ _ _
      · exact ⟨rfl, rfl⟩
    · exact ⟨rfl, rfl⟩

/-- **Closing a descriptor** takes it out of the table, and so does a close that fails. -/
theorem descriptors_close (k : Kernel) (fd : Int) :
    (k.close fd).2.descriptors = k.descriptors.filter fun entry => entry.1 ≠ fd := by
  unfold close
  split
  · next free =>
    exact (filter_of_none free).symm
  · next file _ =>
    have kept := (k.passes_consult file.node .close).table
    dsimp only
    split <;> rw [kept.1]

/-- **What an opening added** is gone when the descriptor is closed. -/
theorem Gains.close {fd : Int} (gained : Gains fd k k') :
    k'.descriptors.filter (fun entry => entry.1 ≠ fd) = k.descriptors := by
  obtain ⟨_, free, file, more⟩ := gained
  rw [more, List.filter_append, List.filter_cons_of_neg (by simp), List.filter_nil,
    List.append_nil, filter_of_none free]

end Kernel

end Simulation

/-! ## The parts of an opening on the simulated kernel -/

open Simulation.Kernel

/-- **One of the two buffers cannot be had**: an allocation fails, or no block is so long. -/
def System.Starved (s : System Kernel) : Prop :=
  s.host.failingAllocation = 1 ∨ s.host.failingAllocation = 2 ∨ maxBlock < s.bufferLength

/-- **Buffers that cannot be had** cost nothing but allocations. -/
theorem Act.allocateBuffers_fails (s : System Kernel) :
    (Act.allocateBuffers : Act Kernel _).Ensures s
      (fun es r s' => es = [] ∧ (∃ coming, s'.host = { s.host with failingAllocation := coming }) ∧
        s'.ownership = s.ownership ∧ ∀ e, r = .error e → e = .outOfMemory ∧ s.Starved)
      (fun _ _ _ => False) := by
  unfold Act.allocateBuffers
  refine Act.ensures_get (Act.ensures_set s.reaches_allocate ?_)
  split
  · next no =>
    have first : s.host.failingAllocation = 1 := by
      simpa [Host.allocate, Kernel.allocate] using no
    exact Act.ensures_pure ⟨rfl, ⟨_, rfl⟩, rfl, fun e he =>
      ⟨(Except.error.inj he).symm, .inl first⟩⟩
  split
  · next e failed =>
    unfold ReadAhead.new at failed
    split at failed
    · cases failed
    · next long =>
      obtain rfl := Except.error.inj failed
      exact Act.ensures_pure ⟨rfl, ⟨_, rfl⟩, rfl, fun e he =>
        ⟨(Except.error.inj he).symm, .inr (.inr (Nat.lt_of_not_le long))⟩⟩
  · next input had =>
    refine Act.ensures_set (System.reaches_allocate _) ?_
    split
    · next no =>
      have second : s.host.failingAllocation = 2 := by
        simpa [Host.allocate, Kernel.allocate] using no
      exact Act.ensures_pure ⟨rfl, ⟨_, rfl⟩, rfl, fun e he =>
        ⟨(Except.error.inj he).symm, .inr (.inl second)⟩⟩
    · refine Act.ensures_pure ⟨rfl, ⟨_, rfl⟩, rfl, fun e he => ?_⟩
      -- A block that the first buffer could have is not too long for the second.
      have short : s.bufferLength ≤ maxBlock := by
        unfold ReadAhead.new at had
        split at had
        · assumption
        · cases had
      rw [WriteBehind.new, if_pos short] at he
      cases he

/-- **Telling a waiter** that a descriptor is taken leaves the simulated kernel as it is. -/
theorem Waiter.claim_here (w : Waiter) (fd : Int) (s : System Kernel) :
    (w.claim fd).Ensures s
      (fun es _ s' => es = w.claims fd ∧ s'.host = s.host ∧
        s'.ownership = w.claimed fd s.ownership)
      (fun _ _ _ => True) := by
  rcases w with scope | _ | _
  · exact Act.ensures_bind ((Act.claimIn_ensures scope fd s).mono (fun _ _ _ _ h => h)
      fun _ _ _ _ no => no.elim) fun es _ _ _ told =>
        Act.ensures_pure ⟨by rw [List.append_nil, told.1]; rfl, told.2⟩
  · exact Act.ensures_pure ⟨rfl, rfl, rfl⟩
  · exact Act.ensures_bind (Act.ensures_exchange (.claim fd)
      (R := fun es _ s' => es = [⟨.claim fd, ()⟩] ∧ s'.host = s.host ∧ s'.ownership = s.ownership)
      (fun _ _ host owned => ⟨rfl, host, owned⟩) fun _ => trivial) fun es _ _ _ told =>
        Act.ensures_pure ⟨by rw [List.append_nil, told.1]; rfl, told.2⟩

/-- …and so does telling it that one is given up. -/
theorem Waiter.release_here (w : Waiter) (fd : Int) (s : System Kernel) :
    (w.release fd).Ensures s
      (fun es _ s' => es = w.releases fd ∧ s'.host = s.host ∧
        s'.ownership = w.released fd s.ownership)
      (fun _ _ _ => True) := by
  rcases w with scope | _ | _
  · exact Act.ensures_bind ((Act.releaseIn_ensures scope fd s).mono (fun _ _ _ _ h => h)
      fun _ _ _ _ no => no.elim) fun es _ _ _ told =>
        Act.ensures_pure ⟨by rw [List.append_nil, told.1]; rfl, told.2⟩
  · exact Act.ensures_pure ⟨rfl, rfl, rfl⟩
  · exact Act.ensures_bind (Act.ensures_exchange (.release fd)
      (R := fun es _ s' => es = [⟨.release fd, ()⟩] ∧ s'.host = s.host ∧
        s'.ownership = s.ownership)
      (fun _ _ host owned => ⟨rfl, host, owned⟩) fun _ => trivial) fun es _ _ _ told =>
        Act.ensures_pure ⟨by rw [List.append_nil, told.1]; rfl, told.2⟩

/-- Closing takes the descriptor out of the table, even where its failure is only logged. -/
theorem Descriptor.closeQuietly_here (fd : Int) (context : String) (s : System Kernel) :
    (closeQuietly fd context).Ensures s
      (fun es _ s' => (∃ reply, es = [⟨.close fd, reply⟩]) ∧
        s'.host.descriptors = s.host.descriptors.filter (fun entry => entry.1 ≠ fd) ∧
          s'.ownership = s.ownership)
      (fun _ _ _ => True) := by
  unfold closeQuietly close
  refine Act.ensures_bind (M := fun es _ s' => (∃ reply, es = [⟨.close fd, reply⟩]) ∧
    s'.host.descriptors = s.host.descriptors.filter (fun entry => entry.1 ≠ fd) ∧
      s'.ownership = s.ownership) ?_ fun es r s' _ closed => ?_
  · refine Act.ensures_bind (Act.ensures_exchange (.close fd) (R := fun es reply s' =>
      es = [⟨.close fd, reply⟩] ∧ s'.host = (Host.answer s.host (.close fd)).2 ∧
        s'.ownership = s.ownership) (fun _ _ host owned => ⟨rfl, host, owned⟩) fun _ => trivial)
      fun es reply s' _ ⟨asked, host, owned⟩ => ?_
    have gone : s'.host.descriptors = s.host.descriptors.filter (fun entry => entry.1 ≠ fd) := by
      rw [host]
      exact descriptors_close s.host fd
    rcases (reply : Except Errno Unit) with e | _
    all_goals exact Act.ensures_pure ⟨⟨_, (List.append_nil es).trans asked⟩, gone, owned⟩
  · rw [← List.append_nil es] at closed
    rcases r with e | _
    · exact Act.ensures_log _ _ fun j => Act.ensures_pure closed
    · exact Act.ensures_pure closed

/-! ## Openings that fail -/

namespace Channel

/-- **Why an opened descriptor becomes no channel**: its kind cannot be told, or a buffer cannot be
had. -/
inductive Unprepared (s : System Kernel) : Except Errno Nat → ChannelError → Prop
  | unclassified (x : Errno) : Unprepared s (.error x) (.ofErrno x.recognized)
  | starved (bits : Nat) : s.Starved → Unprepared s (.ok bits) .outOfMemory

theorem Unprepared.earlier {s t : System Kernel} {asked : Except Errno Nat} {e : ChannelError}
    (h : Unprepared t asked e) (coming : t.host.failingAllocation = s.host.failingAllocation)
    (length : t.bufferLength = s.bufferLength) : Unprepared s asked e := by
  cases h with
  | unclassified x => exact .unclassified x
  | starved bits starved =>
    refine .starved bits ?_
    rwa [System.Starved, coming, length] at starved

/-- **A preparation that fails** takes nothing and gives nothing up. -/
theorem prepare_fails (fd : Int) (s : System Kernel) :
    (prepare fd).Ensures s
      (fun es r s' => ∀ e, r = .error e → ∃ reply, es = [⟨.stat fd, reply⟩] ∧
        s'.host.descriptors = s.host.descriptors ∧ s'.ownership = s.ownership ∧
          Unprepared s reply e)
      (fun _ _ _ => True) := by
  unfold prepare Descriptor.kindOf
  refine Act.ensures_bind (M := fun es r s' => ∃ reply : Except Errno Nat,
    es = [⟨.stat fd, reply⟩] ∧ s'.host = (Host.answer s.host (.stat fd)).2 ∧
      s'.bufferLength = s.bufferLength ∧ s'.ownership = s.ownership ∧
        r = (Descriptor.settle reply).map Kind.ofMode) ?_ fun es r t _ asked => ?_
  · exact Act.ensures_bind (Act.ensures_exchange (.stat fd) (R := fun es reply s' =>
      es = [⟨.stat fd, reply⟩] ∧ s'.host = (Host.answer s.host (.stat fd)).2 ∧
        s'.bufferLength = s.bufferLength ∧ s'.ownership = s.ownership)
      (fun _ reaches host owned => ⟨rfl, host, reaches.bufferLength, owned⟩) fun _ => trivial)
      fun es reply _ _ ⟨asked, host, length, owned⟩ =>
        Act.ensures_pure ⟨reply, by rw [List.append_nil, asked], host, length, owned, rfl⟩
  obtain ⟨reply, rfl, host, length, owned, rfl⟩ := asked
  have kept : SameTable s.host t.host := host ▸ sameTable_stat s.host fd
  rcases reply with x | bits
  · exact Act.ensures_pure fun e failed => ⟨.error x, rfl, kept.1, owned,
      Except.error.inj failed ▸ .unclassified x⟩
  · refine Act.ensures_bind ((Act.allocateBuffers_fails t).mono (fun _ _ _ _ h => h)
      fun _ _ _ _ no => no.elim) fun es r s' _ ⟨silent, ⟨coming, left⟩, same, fails⟩ => ?_
    refine Act.ensures_pure fun e failed =>
      ⟨.ok bits, by rw [silent]; rfl, ?_, same.trans owned, ?_⟩
    · rw [left]
      exact kept.1
    · rcases r with e' | buffers
      · obtain rfl := Except.error.inj failed
        obtain ⟨rfl, starved⟩ := fails _ rfl
        refine .starved bits ?_
        rwa [System.Starved, kept.2, length] at starved
      · cases failed

end Channel

namespace Opening

/-- **What an opening of a path asks for**, in an environment. -/
structure Order where
  path : String
  flags : Flags
  mode : Nat
  config : Config

/-- The order that an opening gives, unless it adopts a descriptor. -/
def order? (env : Environment) : Opening → Option Order
  | .openPath path flags mode => some ⟨path, flags, permissionBits mode, .ofEnvironment env⟩
  | .create path => some ⟨path, { access := .writeOnly, create := true, truncate := true },
      permissionBits (Config.ofEnvironment env).openMode, .ofEnvironment env⟩
  | .openConfigured path flags mode config _ =>
    some ⟨path, flags, permissionBits mode, config.resolve env⟩
  | .adopt _ | .adoptConfigured .. => none

namespace Order

/-- The call that opens the path. -/
def call (order : Order) (reply : Except Errno Int) : Exchange :=
  ⟨.openPath order.path (Channel.openFlags order.flags order.config) order.mode, reply⟩

/-- The order carried out. -/
def run (order : Order) (waiter : Waiter) : Act Kernel (Except ChannelError Channel) :=
  Channel.openConfigured order.path order.flags order.mode order.config waiter

/-- **An order that can be tried**: its configuration keeps the rule, and the path has a name. -/
structure Sound (order : Order) : Prop where
  valid : order.config.validate = .ok ()
  named : order.path.toList.contains '\x00' = false

/-- **How a descriptor is given back** that was opened and became no channel, from stage to stage:
the path is opened and the waiter told, the preparation fails, the waiter is told, and the
descriptor is closed. -/
structure Withdraws (order : Order) (waiter : Waiter) (fd : Int) (asked : Except Errno Nat)
    (closed : Except Errno Unit) (e : ChannelError) (s taken failed given s' : System Kernel) :
    Prop where
  opens : s.Reaches (order.call (.ok fd) :: waiter.claims fd) taken
  gains : s.host.Gains fd taken.host
  owned : taken.ownership = waiter.claimed fd s.ownership
  asks : taken.Reaches [⟨.stat fd, asked⟩] failed
  fails : (Channel.prepare fd).runOn taken = (.ok (.error e), failed)
  holds : failed.host.descriptors = taken.host.descriptors ∧ failed.ownership = taken.ownership
  gives : failed.Reaches (waiter.releases fd) given
  released : given.host.descriptors = failed.host.descriptors ∧
    given.ownership = waiter.released fd failed.ownership
  closes : given.Reaches [⟨.close fd, closed⟩] s'
  gone : s'.host.descriptors = given.host.descriptors.filter (fun entry => entry.1 ≠ fd) ∧
    s'.ownership = given.ownership

/-- **How an opening fails**, by its first step that does: the exchanges, the error, and the system
after.  The reply to the close has no part in the error. -/
inductive Fails (order : Order) (waiter : Waiter) (s : System Kernel) :
    Dialogue → ChannelError → System Kernel → Prop
  | misconfigured {broken : ConfigError} : order.config.validate = .error broken →
      Fails order waiter s [] broken.toChannelError s
  | unnamed : order.config.validate = .ok () → order.path.toList.contains '\x00' = true →
      Fails order waiter s [] (.ofErrno .invalid) s
  | refused (x : Errno) {s' : System Kernel} : order.Sound → s.host.SameTable s'.host →
      s'.ownership = s.ownership →
        Fails order waiter s [order.call (.error x)] (.ofErrno x.recognized) s'
  | withdrawn {fd : Int} {asked : Except Errno Nat} {closed : Except Errno Unit} {e : ChannelError}
      {taken failed given s' : System Kernel} : order.Sound → Channel.Unprepared s asked e →
        order.Withdraws waiter fd asked closed e s taken failed given s' →
          Fails order waiter s (order.call (.ok fd) :: waiter.claims fd ++ [⟨.stat fd, asked⟩] ++
            waiter.releases fd ++ [⟨.close fd, closed⟩]) e s'

variable {order : Order} {waiter : Waiter} {s s' : System Kernel} {es : Dialogue} {e : ChannelError}

/-- Opening a path takes one descriptor or none. -/
theorem openPath_here (order : Order) (s : System Kernel) :
    (Descriptor.openPath order.path
        { order.flags with cloexec := order.flags.cloexec || order.config.cloexec }
        order.mode).Ensures s
      (fun es r s' => s'.ownership = s.ownership ∧
        ((order.path.toList.contains '\x00' = true ∧ es = [] ∧ r = .error (.ofErrno .invalid) ∧
            s' = s) ∨
          order.path.toList.contains '\x00' = false ∧
            ((∃ x, es = [order.call (.error x)] ∧ r = .error (.ofErrno x.recognized) ∧
                s.host.SameTable s'.host) ∨
              ∃ fd, es = [order.call (.ok fd)] ∧ r = .ok fd ∧ s.host.Gains fd s'.host)))
      (fun _ _ _ => True) := by
  unfold Descriptor.openPath
  split
  · next nul => exact Act.ensures_pure ⟨rfl, .inl ⟨nul, rfl, rfl, rfl⟩⟩
  · next named =>
    refine Act.ensures_bind (Act.ensures_exchange (.openPath order.path
      (Channel.openFlags order.flags order.config) order.mode) (R := fun es reply s' =>
        es = [order.call reply] ∧ (reply, s'.host) = s.host.openPath order.path
          (Channel.openFlags order.flags order.config) ∧ s'.ownership = s.ownership)
      (fun _ _ host owned => ⟨rfl, by rw [host]; rfl, owned⟩) fun _ => trivial)
      fun es reply s' _ ⟨asked, host, owned⟩ => Act.ensures_pure ⟨owned, .inr
        ⟨Bool.eq_false_iff.2 named, ?_⟩⟩
    rw [List.append_nil, asked]
    obtain ⟨x, k', opened, same⟩ | ⟨fd, k', opened, gains⟩ := s.host.openPath_gains order.path
      (Channel.openFlags order.flags order.config)
    · obtain ⟨rfl, rfl⟩ := Prod.mk.inj (host.trans opened)
      exact .inl ⟨x, rfl, rfl, same⟩
    · obtain ⟨rfl, rfl⟩ := Prod.mk.inj (host.trans opened)
      exact .inr ⟨fd, rfl, rfl, gains⟩

/-- **An opening that returns an error** failed at its first step that does. -/
theorem run_fails (order : Order) (waiter : Waiter) (s : System Kernel) :
    (order.run waiter).Ensures s
      (fun es r s' => ∀ e, r = .error e → order.Fails waiter s es e s') (fun _ _ _ => True) := by
  unfold run Channel.openConfigured
  split
  · next broken wrong =>
    exact Act.ensures_pure fun e failed => Except.error.inj failed ▸ .misconfigured wrong
  next valid =>
  refine Act.ensures_bind (order.openPath_here s) fun es r s₁ opens opened => ?_
  obtain ⟨owned, ⟨nul, rfl, rfl, rfl⟩ | ⟨named, ⟨x, rfl, rfl, same⟩ | ⟨fd, rfl, rfl, gains⟩⟩⟩ :=
    opened
  · exact Act.ensures_pure fun e failed => Except.error.inj failed ▸ .unnamed valid nul
  · exact Act.ensures_pure fun e failed =>
      Except.error.inj failed ▸ .refused x ⟨valid, named⟩ same owned
  refine Act.ensures_bind (waiter.claim_here fd s₁) fun es _ s₂ claims ⟨told, host, claimed⟩ => ?_
  subst told
  refine Act.ensures_bind (Channel.prepare_fails fd s₂).ran fun es r s₃ asks ⟨prepared, fails⟩ => ?_
  rcases r with e | ⟨kind, input, output⟩
  · obtain ⟨asked, rfl, table, kept, unprepared⟩ := fails e rfl
    refine Act.ensures_bind (waiter.release_here fd s₃)
      fun es _ s₄ gives ⟨told, host', released⟩ => ?_
    subst told
    refine Act.ensures_bind (Descriptor.closeQuietly_here fd _ s₄)
      fun es _ s' closes ⟨⟨closed, one⟩, gone, unowned⟩ => Act.ensures_pure fun e' failed => ?_
    subst one
    obtain rfl := Except.error.inj failed
    have all : order.Withdraws waiter fd asked closed e s s₂ s₃ s₄ s' :=
      { opens := opens.trans claims
        gains := host ▸ gains
        owned := by rw [claimed, owned]
        asks, fails := prepared
        holds := ⟨table, kept⟩
        gives
        released := ⟨by rw [host'], released⟩
        closes
        gone := ⟨gone, unowned⟩ }
    have why : Channel.Unprepared s asked e :=
      unprepared.earlier (by rw [host, gains.1]) all.opens.bufferLength
    simpa using Fails.withdrawn ⟨valid, named⟩ why all
  · exact Act.ensures_log _ _ fun j => Act.ensures_pure nofun

/-! ## What a failed opening leaves -/

/-- **The table of descriptors** is as it was. -/
theorem Fails.descriptors_eq (h : order.Fails waiter s es e s') :
    s'.host.descriptors = s.host.descriptors := by
  cases h with
  | misconfigured _ => rfl
  | unnamed _ _ => rfl
  | refused x _ same _ => exact same.1
  | withdrawn _ _ all => rw [all.gone.1, all.released.1, all.holds.1, all.gains.close]

/-- **The owners** are as they were. -/
theorem Fails.ownership_eq (h : order.Fails waiter s es e s')
    (wf : ∀ scope, (s.ownership scope).WellFormed) : s'.ownership = s.ownership := by
  cases h with
  | misconfigured _ => rfl
  | unnamed _ _ => rfl
  | refused x _ _ kept => exact kept
  | withdrawn _ _ all =>
    rw [all.gone.2, all.released.2, all.holds.2, all.owned, waiter.released_claimed wf]

/-- **The registry of a scheduler** is as it was. -/
theorem Fails.registered_eq (h : order.Fails waiter s es e s') {o : Ownership}
    (wf : o.WellFormed) : es.registered o = o := by
  cases h with
  | misconfigured _ => rfl
  | unnamed _ _ => rfl
  | refused x _ _ _ => rfl
  | @withdrawn fd _ _ _ _ _ _ _ _ _ _ =>
    rcases waiter with _ | _ | _
    · rfl
    · rfl
    · exact Ownership.release_claim_of_wellFormed wf fd

end Order

/-- **An adoption that returns an error** could not have its buffers, and asked for nothing else. -/
theorem adoptConfigured_fails (fd : Int) (config : Config) (waiter : Waiter) (s : System Kernel) :
    (Channel.adoptConfigured fd config waiter).Ensures s
      (fun es r s' => ∀ e, r = .error e → es = [] ∧ e = .outOfMemory ∧ s.Starved ∧
        (∃ coming, s'.host = { s.host with failingAllocation := coming }) ∧
          s'.ownership = s.ownership)
      (fun _ _ _ => True) := by
  unfold Channel.adoptConfigured
  refine Act.ensures_bind ((Act.allocateBuffers_fails s).mono (fun _ _ _ _ h => h)
    fun _ _ _ _ no => no.elim) fun es r s₁ _ ⟨silent, left, same, fails⟩ => ?_
  subst silent
  rcases r with e | ⟨input, output⟩
  · exact Act.ensures_pure fun e' failed => Except.error.inj failed ▸
      ⟨rfl, (fails e rfl).1, (fails e rfl).2, left, same⟩
  · refine Act.ensures_bind ((Channel.makeNonblocking_ensures fd waiter s₁).mono
      (fun _ _ _ _ h => h) fun _ _ _ _ _ => trivial) fun _ _ s₂ _ _ => ?_
    refine Act.ensures_bind (waiter.claim_here fd s₂) fun _ _ s₃ _ _ => ?_
    exact Act.ensures_log _ _ fun j => Act.ensures_pure nofun

/-- **What comes of an opening that fails**: the failure of its order, or nothing at all where a
descriptor was to be adopted. -/
def FailsBy (opening : Opening) (s : System Kernel) (es : Dialogue) (e : ChannelError)
    (s' : System Kernel) : Prop :=
  match opening.order? s.environment with
  | some order => order.Fails opening.waiter s es e s'
  | none => es = [] ∧ e = .outOfMemory ∧ s.Starved ∧
      (∃ coming, s'.host = { s.host with failingAllocation := coming }) ∧
        s'.ownership = s.ownership

theorem run_failsBy (opening : Opening) (s : System Kernel) :
    (opening.run).Ensures s (fun es r s' => ∀ e, r = .error e → opening.FailsBy s es e s')
      (fun _ _ _ => True) := by
  rcases opening with ⟨path, flags, mode⟩ | path | ⟨path, flags, mode, config, waiter⟩ | fd |
    ⟨fd, config, waiter⟩
  · exact Act.ensures_bind_quiet rfl (.refl s) (Order.run_fails ⟨path, flags, _, _⟩ _ s)
  · exact Act.ensures_bind_quiet rfl (.refl s) (Order.run_fails ⟨path, _, _, _⟩ _ s)
  · exact Act.ensures_bind_quiet rfl (.refl s) (Order.run_fails ⟨path, flags, _, _⟩ waiter s)
  · exact Act.ensures_bind_quiet rfl (.refl s) (adoptConfigured_fails fd _ _ s)
  · exact Act.ensures_bind_quiet rfl (.refl s) (adoptConfigured_fails fd _ waiter s)

/-- **A configuration that breaks its rule** ends an opening before it begins. -/
theorem run_of_misconfigured {opening : Opening} {s : System Kernel} {order : Order}
    (ordered : opening.order? s.environment = some order) {broken : ConfigError}
    (wrong : order.config.validate = .error broken) :
    opening.run.runOn s = (.ok (.error broken.toChannelError), s) := by
  have refuses (path : String) (flags : Flags) (mode : Nat) (waiter : Waiter) :
      (Channel.openConfigured path flags mode order.config waiter).runOn s =
        (.ok (.error broken.toChannelError), s) := by
    unfold Channel.openConfigured
    rw [wrong]
    rfl
  -- The configuration is asked for first, which changes nothing.
  have asking (act : Act Kernel Config) {next : Config → Act Kernel (Except ChannelError Channel)}
      (asked : act.runOn s = (.ok order.config, s)) :
      (act >>= next).runOn s = (next order.config).runOn s := by
    rw [Act.runOn_bind, asked]
  rcases opening with ⟨path, flags, mode⟩ | path | ⟨path, flags, mode, config, waiter⟩ | _ | _
  all_goals cases ordered
  · exact (asking Channel.environmentConfig rfl).trans (refuses ..)
  · exact (asking Channel.environmentConfig rfl).trans (refuses ..)
  · exact (asking config.build rfl).trans (refuses ..)

/-- **A beginning that fails leaves nothing behind.**  A configuration that breaks its rule is
refused on the spot.  Whenever an opening returns an error, the descriptors and the owners are those
from before, and so is what a scheduler has noted by its own account.  The exchanges that were made
and the error are those of the first step that failed: where a descriptor was opened, it was
claimed, released and closed, once each and in this order.  A failed adoption made no exchange. -/
theorem leaves_nothing (opening : Opening) {s : System Kernel}
    (wf : ∀ scope, (s.ownership scope).WellFormed) :
    (∀ order, opening.order? s.environment = some order →
      ∀ broken, order.config.validate = .error broken →
        opening.run.runOn s = (.ok (.error broken.toChannelError), s)) ∧
    ∀ e s', opening.run.runOn s = (.ok (.error e), s') →
      s'.host.descriptors = s.host.descriptors ∧ s'.ownership = s.ownership ∧
        ∃ es, s.Reaches es s' ∧ (∀ o : Ownership, o.WellFormed → es.registered o = o) ∧
          opening.FailsBy s es e s' := by
  refine ⟨fun order ordered broken wrong => run_of_misconfigured ordered wrong, fun e s' run => ?_⟩
  obtain ⟨es, reaches, fails⟩ := (opening.run_failsBy s).of_ok run
  replace fails := fails e rfl
  have whole := fails
  unfold FailsBy at fails
  split at fails
  · next order _ =>
    exact ⟨fails.descriptors_eq, fails.ownership_eq wf, es, reaches,
      fun o tidy => fails.registered_eq tidy, whole⟩
  · obtain ⟨rfl, rfl, _, ⟨coming, left⟩, owned⟩ := fails
    exact ⟨by rw [left], owned, [], reaches, fun _ _ => rfl, whole⟩

/-! A file whose kind cannot be told and whose descriptor cannot be closed. -/

/-- The system: the number that the opening will get has an owner already. -/
def unsteady : System Kernel where
  host := { nodes := [("f", {
    body := .file {}
    script := [(.close, { errno? := some ⟨9⟩ }), (.stat, { errno? := some ⟨5⟩ })] })]
            descriptors := [(0, { node := "f", flags := {} })] }
  budget := 10
  ownership := fun _ => ⟨[(3, 1)]⟩

/-- The opening. -/
def unsteadyOpening : Opening := .openConfigured "f" {} 0 {} (.polling (.isolated 0))

/-- The system after it. -/
def unsteadyEnd : System Kernel := (unsteadyOpening.run.runOn unsteady).2

theorem leaves_nothing_unsteady : (∀ scope, (unsteady.ownership scope).WellFormed) ∧
    unsteadyOpening.run.runOn unsteady = (.ok (.error (.ofErrno ⟨5⟩)), unsteadyEnd) ∧
      unsteadyEnd.host.descriptors = unsteady.host.descriptors ∧
        unsteadyEnd.ownership = unsteady.ownership := by
  have wf (scope : Scope) : (unsteady.ownership scope).WellFormed :=
    ⟨by simp [unsteady], by simp [unsteady]⟩
  have run : unsteadyOpening.run.runOn unsteady = (.ok (.error (.ofErrno ⟨5⟩)), unsteadyEnd) := rfl
  obtain ⟨descriptors, owners, _⟩ := (leaves_nothing unsteadyOpening wf).2 _ _ run
  exact ⟨wf, run, descriptors, owners⟩

end Opening

end BufferedChannels
