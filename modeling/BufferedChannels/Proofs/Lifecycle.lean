import BufferedChannels.Session.Run
import BufferedChannels.Proofs.Attempts

/-!
# Proofs/Lifecycle — how channels begin and end

A channel that begins is **blank**: both buffers are empty and keep their rules.  Beginning and
ending break no rule of the program, and they abort it in two cases only: when the flags of an
adopted descriptor cannot be changed, and when closing a descriptor fails.
-/

namespace BufferedChannels

/-- **A channel with nothing buffered.** -/
structure Channel.Blank (c : Channel) : Prop extends c.WellFormed where
  live : c.input.live = []
  pending : c.output.pending = []

theorem ReadAhead.new_eq {n : Nat} {b : ReadAhead} (h : ReadAhead.new n = .ok b) :
    b.live = [] ∧ b.WellFormed := by
  unfold ReadAhead.new at h
  split at h
  · obtain rfl := Except.ok.inj h
    exact ⟨rfl, Nat.zero_le _, fun _ => rfl⟩
  · cases h

theorem WriteBehind.new_eq {n : Nat} {b : WriteBehind} (h : WriteBehind.new n = .ok b) :
    b.pending = [] ∧ b.WellFormed := by
  unfold WriteBehind.new at h
  split at h
  · obtain rfl := Except.ok.inj h
    exact ⟨rfl, Nat.zero_le _⟩
  · cases h

variable {κ : Type} [Host κ]

/-! ## What a waiter is told -/

/-- **Exchanges that only tell the scheduler** that a descriptor is taken. -/
def Claims (fd : Int) (es : Dialogue) : Prop := ∀ e ∈ es, e = ⟨.claim fd, ()⟩

/-- **What neither claims nor allocations touch** still holds once a descriptor was claimed. -/
theorem Claims.leads {fd : Int} {P : κ → Prop} (stable : ∀ k, P k → P (Host.allocate k).2)
    (silent : ∀ k, P k → P (Host.answer k (.claim fd)).2) {claims es : Dialogue} {k k' : κ}
    (told : Claims fd claims) (leads : Host.Leads k (claims ++ es) k') (start : P k) :
    ∃ k₁, P k₁ ∧ Host.Leads k₁ es k' := by
  induction claims generalizing k with
  | nil => exact ⟨k, start, leads⟩
  | cons e claims ih =>
    obtain ⟨rfl, later⟩ := List.forall_mem_cons.1 told
    obtain ⟨k₁, r, holds, first, rest⟩ := leads.next stable start
    obtain ⟨rfl, _⟩ := Exchange.mk.inj first
    exact ih later rest (silent k₁ holds)

namespace Waiter

/-- What a scheduler is told of a descriptor that is taken. -/
def claims (fd : Int) : Waiter → Dialogue
  | .scheduled true => [⟨.claim fd, ()⟩]
  | _ => []

/-- …and of one that is given up. -/
def releases (fd : Int) : Waiter → Dialogue
  | .scheduled true => [⟨.release fd, ()⟩]
  | _ => []

/-- Who owns what when a descriptor is taken: a polling waiter notes it in its registry. -/
def claimed (fd : Int) (owned : Scope → Ownership) : Waiter → Scope → Ownership
  | .polling scope => fun other => if other = scope then (owned scope).claim fd else owned other
  | .scheduled _ => owned

/-- …and when it is given up. -/
def released (fd : Int) (owned : Scope → Ownership) : Waiter → Scope → Ownership
  | .polling scope => fun other => if other = scope then (owned scope).release fd else owned other
  | .scheduled _ => owned

theorem claims_claims (w : Waiter) (fd : Int) : Claims fd (w.claims fd) := by
  rcases w with _ | _ | _
  · exact List.forall_mem_nil _
  · exact List.forall_mem_nil _
  · exact fun e he => List.mem_singleton.1 he

end Waiter

/-! ## Parts of beginnings and endings -/

/-- **Two buffers that were just made** are empty. -/
def BlankBuffers (buffers : ReadAhead × WriteBehind) : Prop :=
  (buffers.1.live = [] ∧ buffers.1.WellFormed) ∧ buffers.2.pending = [] ∧ buffers.2.WellFormed

/-- A host that was asked for memory is reached without a word. -/
theorem System.reaches_allocate (s : System κ) :
    s.Reaches [] { s with host := (Host.allocate s.host).2 } :=
  ⟨rfl, .allocate (.nil _), Nat.zero_add _, rfl, rfl⟩

/-- **Buffers are asked for without a word**, and both are made with the length that the system
names. -/
theorem Act.allocateBuffers_makes (s : System κ) :
    (Act.allocateBuffers : Act κ _).Ensures s
      (fun es r s' => es = [] ∧ s'.ownership = s.ownership ∧
        ∀ buffers, r = .ok buffers → ReadAhead.new s.bufferLength = .ok buffers.1 ∧
          WriteBehind.new s.bufferLength = .ok buffers.2)
      (fun _ _ _ => False) := by
  unfold Act.allocateBuffers
  refine Act.ensures_get (Act.ensures_set s.reaches_allocate ?_)
  split
  · exact Act.ensures_pure ⟨rfl, rfl, nofun⟩
  split
  · exact Act.ensures_pure ⟨rfl, rfl, nofun⟩
  · next input hinput =>
    refine Act.ensures_set (System.reaches_allocate _) ?_
    split
    · exact Act.ensures_pure ⟨rfl, rfl, nofun⟩
    · refine Act.ensures_pure ⟨rfl, rfl, fun buffers made => ?_⟩
      cases houtput : WriteBehind.new s.bufferLength with
      | error e =>
        rw [houtput] at made
        cases made
      | ok output =>
        rw [houtput] at made
        obtain rfl := Except.ok.inj made
        exact ⟨hinput, rfl⟩

/-- …so that they are empty. -/
theorem Act.allocateBuffers_ensures (s : System κ) :
    (Act.allocateBuffers : Act κ _).Ensures s
      (fun es r s' => es = [] ∧ s'.ownership = s.ownership ∧
        ∀ buffers, r = .ok buffers → BlankBuffers buffers)
      (fun _ _ _ => False) :=
  (Act.allocateBuffers_makes s).mono (fun _ _ _ _ ⟨silent, same, made⟩ =>
    ⟨silent, same, fun buffers is =>
      ⟨ReadAhead.new_eq (made buffers is).1, WriteBehind.new_eq (made buffers is).2⟩⟩)
    fun _ _ _ _ no => no

/-- Owners are noted without a word. -/
theorem Act.claimIn_ensures (scope : Scope) (fd : Int) (s : System κ) :
    (Act.claimIn scope fd).Ensures s
      (fun es _ s' => es = [] ∧ s'.host = s.host ∧
        s'.ownership = (Waiter.polling scope).claimed fd s.ownership)
      (fun _ _ _ => False) := by
  unfold Act.claimIn
  refine Act.ensures_get (Act.ensures_set ⟨rfl, .nil _, Nat.zero_add _, rfl, rfl⟩ ?_)
  dsimp only
  split
  · exact Act.ensures_log _ _ fun j => Act.ensures_pure ⟨rfl, rfl, rfl⟩
  · exact Act.ensures_pure ⟨rfl, rfl, rfl⟩

/-- …and so they are struck. -/
theorem Act.releaseIn_ensures (scope : Scope) (fd : Int) (s : System κ) :
    (Act.releaseIn scope fd).Ensures s
      (fun es _ s' => es = [] ∧ s'.host = s.host ∧
        s'.ownership = (Waiter.polling scope).released fd s.ownership)
      (fun _ _ _ => False) := by
  unfold Act.releaseIn
  refine Act.ensures_get (Act.ensures_set ⟨rfl, .nil _, Nat.zero_add _, rfl, rfl⟩ ?_)
  dsimp only
  split
  · exact Act.ensures_log _ _ fun j => Act.ensures_pure ⟨rfl, rfl, rfl⟩
  · exact Act.ensures_pure ⟨rfl, rfl, rfl⟩

/-- **A stop before a call**: it does not come back, and nothing has happened since. -/
structure Stuck (s : System κ) (es : Dialogue) (h : Halt) (s' : System κ) : Prop where
  halt : h = .endless
  silent : es = []
  ownership : s'.ownership = s.ownership

/-- A request that is made, with nobody's ownership changed. -/
theorem ask_ensures (r : Request) (s : System κ) :
    (Act.call r : Act κ r.Reply).Ensures s
      (fun es reply s' => es = [⟨r, reply⟩] ∧ s'.ownership = s.ownership) (Stuck s) :=
  Act.ensures_ask r (fun _ _ same => ⟨rfl, same⟩) fun _ => ⟨rfl, rfl, rfl⟩

/-- **A waiter is told once** that a descriptor is taken. -/
theorem Waiter.claim_ensures (w : Waiter) (fd : Int) (s : System κ) :
    (w.claim fd).Ensures s
      (fun es _ s' => es = w.claims fd ∧ s'.ownership = w.claimed fd s.ownership)
      (fun es h s' => w = .scheduled true ∧ Stuck s es h s') := by
  rcases w with scope | _ | _
  · exact Act.ensures_bind ((Act.claimIn_ensures scope fd s).mono (fun _ _ _ _ h => h)
      fun _ _ _ _ no => no.elim) fun es _ _ _ told => Act.ensures_pure ⟨by simp [told.1, claims],
        told.2.2⟩
  · exact Act.ensures_pure ⟨rfl, rfl⟩
  · exact Act.ensures_bind ((ask_ensures (.claim fd) s).mono (fun _ _ _ _ h => h)
      fun _ _ _ _ stuck => ⟨rfl, stuck⟩) fun es _ _ _ told =>
        Act.ensures_pure ⟨by rw [List.append_nil, told.1]; rfl, told.2⟩

/-- **A waiter is told once** that a descriptor is given up. -/
theorem Waiter.release_ensures (w : Waiter) (fd : Int) (s : System κ) :
    (w.release fd).Ensures s
      (fun es _ s' => es = w.releases fd ∧ s'.ownership = w.released fd s.ownership)
      (fun es h s' => w = .scheduled true ∧ Stuck s es h s') := by
  rcases w with scope | _ | _
  · exact Act.ensures_bind ((Act.releaseIn_ensures scope fd s).mono (fun _ _ _ _ h => h)
      fun _ _ _ _ no => no.elim) fun es _ _ _ told => Act.ensures_pure ⟨by simp [told.1, releases],
        told.2.2⟩
  · exact Act.ensures_pure ⟨rfl, rfl⟩
  · exact Act.ensures_bind ((ask_ensures (.release fd) s).mono (fun _ _ _ _ h => h)
      fun _ _ _ _ stuck => ⟨rfl, stuck⟩) fun es _ _ _ told =>
        Act.ensures_pure ⟨by rw [List.append_nil, told.1]; rfl, told.2⟩

/-- Closing where a failure is only logged. -/
theorem Descriptor.closeQuietly_ensures (fd : Int) (context : String) (s : System κ) :
    (closeQuietly fd context).Ensures s
      (fun es _ s' => (∃ reply, es = [⟨.close fd, reply⟩]) ∧ s'.ownership = s.ownership)
      (Stuck s) := by
  unfold closeQuietly close
  refine Act.ensures_bind (M := fun es _ s' => (∃ reply, es = [⟨.close fd, reply⟩]) ∧
    s'.ownership = s.ownership) ?_ fun es r s' _ closed => ?_
  · refine Act.ensures_bind (ask_ensures (.close fd) s) fun es reply s' _ asked => ?_
    have closed : (∃ reply, es ++ [] = [⟨.close fd, reply⟩]) ∧ s'.ownership = s.ownership :=
      ⟨⟨reply, (List.append_nil es).trans asked.1⟩, asked.2⟩
    rcases (reply : Except Errno Unit) with e | _
    all_goals exact Act.ensures_pure closed
  · rw [← List.append_nil es] at closed
    rcases r with e | _
    · exact Act.ensures_log _ _ fun j => Act.ensures_pure closed
    · exact Act.ensures_pure closed

/-! ## Beginnings -/

/-- **What comes before a descriptor is taken**: a path is opened on it, or it is made never to
block because it is to be adopted. -/
inductive Takes (fd : Int) : Option Int → Dialogue → Prop
  | opened (path : String) (flags : Flags) (mode : Nat) :
      Takes fd none [⟨.openPath path flags mode, .ok fd⟩]
  | adopted (old : Except Errno Flags) (flags : Flags) :
      Takes fd (some fd) [⟨.getFlags fd, old⟩, ⟨.setFlags fd flags, .ok ()⟩]

/-- **How a beginning goes**, for a waiter and perhaps a descriptor to adopt: it is refused before a
descriptor is taken, it gives back what it took, or it comes to a blank channel.  Beside the
exchanges and the result stand the owners before and after. -/
inductive Begins (waiter : Waiter) (adopted? : Option Int) (owned : Scope → Ownership) :
    Dialogue → Except ChannelError Channel → (Scope → Ownership) → Prop
  | silent (e : ChannelError) : Begins waiter adopted? owned [] (.error e) owned
  | refused (path : String) (flags : Flags) (mode : Nat) (x : Errno) (e : ChannelError) :
      adopted? = none →
        Begins waiter adopted? owned [⟨.openPath path flags mode, .error x⟩] (.error e) owned
  | abandoned {fd : Int} {before : Dialogue} (asked : Except Errno Nat) (closed : Except Errno Unit)
      (e : ChannelError) : adopted? = none → Takes fd adopted? before →
        Begins waiter adopted? owned (before ++ waiter.claims fd ++ [⟨.stat fd, asked⟩] ++
          waiter.releases fd ++ [⟨.close fd, closed⟩]) (.error e)
          (waiter.released fd (waiter.claimed fd owned))
  | begun {c : Channel} {before asking : Dialogue} : c.Blank → c.waiter = waiter →
      c.owned = true → Takes c.fd adopted? before →
      (∀ e ∈ asking, ∃ reply, e = ⟨.stat c.fd, reply⟩) →
        Begins waiter adopted? owned (before ++ waiter.claims c.fd ++ asking) (.ok c)
          (waiter.claimed c.fd owned)

/-- **How a beginning stops**, when one of its calls does not come back: before the waiter is told,
while it holds the descriptor, or after it gave the descriptor up. -/
inductive Pauses (waiter : Waiter) (adopted? : Option Int) (owned : Scope → Ownership) :
    Dialogue → (Scope → Ownership) → Prop
  | taking {fd : Int} {es rest : Dialogue} : Takes fd adopted? (es ++ rest) →
      (rest = [] → waiter = .scheduled true) → Pauses waiter adopted? owned es owned
  | holding {fd : Int} {before : Dialogue} : adopted? = none → Takes fd adopted? before →
      Pauses waiter adopted? owned (before ++ waiter.claims fd) (waiter.claimed fd owned)
  | releasing {fd : Int} {before : Dialogue} (asked : Except Errno Nat) : adopted? = none →
      Takes fd adopted? before → waiter = .scheduled true →
        Pauses waiter adopted? owned (before ++ waiter.claims fd ++ [⟨.stat fd, asked⟩])
          (waiter.claimed fd owned)
  | closing {fd : Int} {before : Dialogue} (asked : Except Errno Nat) : adopted? = none →
      Takes fd adopted? before → Pauses waiter adopted? owned
        (before ++ waiter.claims fd ++ [⟨.stat fd, asked⟩] ++ waiter.releases fd)
        (waiter.released fd (waiter.claimed fd owned))

theorem Begins.blank {waiter : Waiter} {adopted? : Option Int} {owned owned' : Scope → Ownership}
    {es : Dialogue} {c : Channel} (h : Begins waiter adopted? owned es (.ok c) owned') :
    c.Blank := by
  cases h with
  | begun blank => exact blank

namespace Channel

/-- **A descriptor is prepared** by asking for its kind and for two buffers. -/
theorem prepare_ensures (fd : Int) (s : System κ) :
    (prepare fd).Ensures s
      (fun es r s' => ∃ reply, es = [⟨.stat fd, reply⟩] ∧ s'.ownership = s.ownership ∧
        ∀ kind input output, r = .ok (kind, input, output) →
          (∃ mode, reply = .ok mode ∧ kind = .ofMode mode) ∧ BlankBuffers (input, output))
      (Stuck s) := by
  unfold prepare Descriptor.kindOf
  refine Act.ensures_bind (M := fun es r s' => ∃ reply : Except Errno Nat,
    es = [⟨.stat fd, reply⟩] ∧ s'.ownership = s.ownership ∧
      r = (Descriptor.settle reply).map Kind.ofMode) ?_ fun es r _ _ asked => ?_
  · exact Act.ensures_bind (ask_ensures (.stat fd) s) fun es reply _ _ one =>
      Act.ensures_pure ⟨reply, by rw [List.append_nil, one.1], one.2, rfl⟩
  · obtain ⟨reply, rfl, same, rfl⟩ := asked
    rcases reply with e | mode
    · exact Act.ensures_pure ⟨.error e, rfl, same, nofun⟩
    · refine Act.ensures_bind ((Act.allocateBuffers_ensures _).mono (fun _ _ _ _ h => h)
        fun _ _ _ _ no => no.elim) fun es r _ _ post => ?_
      obtain ⟨rfl, owned, blank⟩ := post
      refine Act.ensures_pure ⟨.ok mode, rfl, owned.trans same, fun kind input output made => ?_⟩
      rcases r with e | buffers
      · cases made
      · obtain ⟨rfl, same⟩ := Prod.mk.inj (Except.ok.inj made)
        exact ⟨⟨mode, rfl, rfl⟩, blank _ (congrArg Except.ok same)⟩

/-- The flags with which a path is opened. -/
def openFlags (flags : Flags) (config : Config) : Flags :=
  { flags with cloexec := flags.cloexec || config.cloexec, nonblock := true }

/-- **What an opening that succeeds has done**: the path was opened, the scheduler may have been
told, and the kind was asked for; the channel is blank. -/
structure Opened (path : String) (flags : Flags) (mode : Nat) (config : Config) (waiter : Waiter)
    (es : Dialogue) (c : Channel) : Prop where
  blank : c.Blank
  waits : c.waiter = waiter
  exchanges : ∃ claims bits, Claims c.fd claims ∧ c.kind = .ofMode bits ∧
    es = ⟨.openPath path (openFlags flags config) mode, .ok c.fd⟩ ::
      (claims ++ [⟨.stat c.fd, .ok bits⟩])

/-- Opening a path is one request, unless the path cannot be named. -/
theorem openPath_ensures (path : String) (flags : Flags) (mode : Nat) (s : System κ) :
    (Descriptor.openPath path flags mode).Ensures s
      (fun es r s' => s'.ownership = s.ownership ∧
        ((∃ e, es = [] ∧ r = .error e) ∨
          (∃ x e, es = [⟨.openPath path { flags with nonblock := true } mode, .error x⟩] ∧
            r = .error e) ∨
          ∃ fd, es = [⟨.openPath path { flags with nonblock := true } mode, .ok fd⟩] ∧ r = .ok fd))
      (Stuck s) := by
  unfold Descriptor.openPath
  split
  · exact Act.ensures_pure ⟨rfl, .inl ⟨_, rfl, rfl⟩⟩
  · refine Act.ensures_bind (ask_ensures _ s) fun es reply _ _ asked => ?_
    obtain ⟨rfl, same⟩ := asked
    rcases (reply : Except Errno Int) with x | fd
    · exact Act.ensures_pure ⟨same, .inr (.inl ⟨x, _, rfl, rfl⟩)⟩
    · exact Act.ensures_pure ⟨same, .inr (.inr ⟨fd, rfl, rfl⟩)⟩

/-- **An opening begins a channel or gives back what it took.** -/
theorem openConfigured_begins (path : String) (flags : Flags) (mode : Nat) (config : Config)
    (waiter : Waiter) (s : System κ) :
    (openConfigured path flags mode config waiter).Ensures s
      (fun es r s' => (∀ c, r = .ok c → Opened path flags mode config waiter es c) ∧
        Begins waiter none s.ownership es r s'.ownership)
      (fun es h s' => h = .endless ∧ Pauses waiter none s.ownership es s'.ownership) := by
  have took (fd : Int) : Takes fd none _ := .opened path (openFlags flags config) mode
  unfold openConfigured
  split
  · exact Act.ensures_pure ⟨nofun, .silent _⟩
  refine Act.ensures_bind ((openPath_ensures ..).mono (fun _ _ _ _ h => h)
    fun es h s' _ stuck => ?_) fun es r s₁ _ asked => ?_
  · obtain ⟨rfl, rfl, same⟩ := stuck
    exact ⟨rfl, same ▸ .taking (took 0) nofun⟩
  obtain ⟨same, ⟨e, rfl, rfl⟩ | ⟨x, e, rfl, rfl⟩ | ⟨fd, rfl, rfl⟩⟩ := asked
  · exact Act.ensures_pure ⟨nofun, same ▸ .silent e⟩
  · exact Act.ensures_pure ⟨nofun, same ▸ .refused _ _ _ x e rfl⟩
  refine Act.ensures_bind ((waiter.claim_ensures fd _).mono (fun _ _ _ _ h => h)
    fun es h s' _ ⟨told, stuck⟩ => ?_) fun claims _ s₂ _ told => ?_
  · obtain ⟨rfl, rfl, kept⟩ := stuck
    exact ⟨rfl, (kept.trans same) ▸ .taking (took fd) fun _ => told⟩
  obtain ⟨rfl, claimed⟩ := told
  refine Act.ensures_bind ((prepare_ensures fd _).mono (fun _ _ _ _ h => h)
    fun es h s' _ stuck => ?_) fun es r s₃ _ prepared => ?_
  · obtain ⟨rfl, rfl, kept⟩ := stuck
    rw [kept, claimed, same, List.append_nil]
    exact ⟨rfl, .holding rfl (took fd)⟩
  obtain ⟨reply, rfl, kept, made⟩ := prepared
  have owned : s₃.ownership = waiter.claimed fd s.ownership := by rw [kept, claimed, same]
  rcases r with e | ⟨kind, input, output⟩
  · refine Act.ensures_bind ((waiter.release_ensures fd _).mono (fun _ _ _ _ h => h)
      fun es h s' _ ⟨told, stuck⟩ => ?_) fun es _ s₄ _ released => ?_
    · obtain ⟨rfl, rfl, kept⟩ := stuck
      rw [kept, owned]
      exact ⟨rfl, by simpa [openFlags] using Pauses.releasing reply rfl (took fd) told⟩
    obtain ⟨rfl, released⟩ := released
    refine Act.ensures_bind ((Descriptor.closeQuietly_ensures fd _ _).mono (fun _ _ _ _ h => h)
      fun es h s' _ stuck => ?_) fun es _ s₅ _ closed => Act.ensures_pure ⟨nofun, ?_⟩
    · obtain ⟨rfl, rfl, kept⟩ := stuck
      rw [kept, released, owned]
      exact ⟨rfl, by simpa [openFlags] using Pauses.closing reply rfl (took fd)⟩
    obtain ⟨⟨reply', rfl⟩, unchanged⟩ := closed
    rw [unchanged, released, owned]
    simpa [openFlags] using Begins.abandoned reply reply' e rfl (took fd)
  · obtain ⟨⟨bits, rfl, rfl⟩, live, pending⟩ := made kind input output rfl
    have blank :
        Blank ⟨fd, .ofMode bits, input, output, false, config.logLifecycle, waiter, true⟩ :=
      ⟨⟨live.2, pending.2⟩, live.1, pending.1⟩
    refine Act.ensures_log _ _ fun j => Act.ensures_pure ⟨fun c opened => ?_, ?_⟩
    · obtain rfl := Except.ok.inj opened
      exact ⟨blank, rfl, waiter.claims fd, bits, waiter.claims_claims fd, rfl,
        by simp [openFlags]⟩
    · rw [show ({ s₃ with journal := j } : System κ).ownership = _ from owned]
      have whole : Begins waiter none s.ownership _ _ _ :=
        .begun blank rfl rfl (took fd) fun e he => ⟨.ok bits, List.mem_singleton.1 he⟩
      simpa [openFlags] using whole

theorem openConfigured_ensures (path : String) (flags : Flags) (mode : Nat) (config : Config)
    (waiter : Waiter) (s : System κ) :
    (openConfigured path flags mode config waiter).Ensures s
      (fun es r _ => ∀ c, r = .ok c → Opened path flags mode config waiter es c)
      (fun _ h _ => h = .endless) :=
  (openConfigured_begins path flags mode config waiter s).mono (fun _ _ _ _ post => post.1)
    fun _ _ _ _ halt => halt.1

/-! ## Adopting -/

/-- **What may abort an adoption**: the flags of the descriptor cannot be changed. -/
def FlagsRefused (fd : Int) (es : Dialogue) : Prop :=
  ∃ flags e, (⟨.setFlags fd flags, .error e⟩ : Exchange) ∈ es

/-- **What a beginning comes to when it does not return**: it stops, or it is aborted. -/
def Unbegun (waiter : Waiter) (adopted? : Option Int) (s : System κ) (es : Dialogue) (h : Halt)
    (s' : System κ) : Prop :=
  (h = .endless ∧ Pauses waiter adopted? s.ownership es s'.ownership) ∨
    h = .aborted ∧ ∃ fd, adopted? = some fd ∧ FlagsRefused fd es

theorem makeNonblocking_ensures (fd : Int) (waiter : Waiter) (s : System κ) :
    (Descriptor.makeNonblocking fd).Ensures s
      (fun es _ s' => Takes fd (some fd) es ∧ s'.ownership = s.ownership)
      (Unbegun waiter (some fd) s) := by
  have took (old : Except Errno Flags) (flags : Flags) : Takes fd (some fd) _ := .adopted old flags
  unfold Descriptor.makeNonblocking
  refine Act.ensures_bind ((ask_ensures (.getFlags fd) s).mono (fun _ _ _ _ h => h)
    fun es h s' _ stuck => ?_) fun asked reply t _ ⟨first, same⟩ => ?_
  · obtain ⟨rfl, rfl, kept⟩ := stuck
    exact .inl ⟨rfl, kept ▸ .taking (took (.ok {}) {}) nofun⟩
  subst first
  have rest (old : Flags) (next : Except Errno Unit → Act κ Unit) (set : next (.ok ()) = pure ())
      (refused : ∀ e, ∃ message, next (.error e) = Act.abort message) :
      (Act.call (.setFlags fd { old with nonblock := true }) >>= next).Ensures t
        (fun es _ s' => Takes fd (some fd) (⟨.getFlags fd, reply⟩ :: es) ∧
          s'.ownership = s.ownership)
        (fun es => Unbegun waiter (some fd) s (⟨.getFlags fd, reply⟩ :: es)) := by
    refine Act.ensures_bind ((ask_ensures (.setFlags fd { old with nonblock := true }) t).mono
      (fun _ _ _ _ h => h) fun es h s' _ stuck => ?_) fun es reply' _ _ ⟨one, kept⟩ => ?_
    · obtain ⟨rfl, rfl, kept⟩ := stuck
      exact .inl ⟨rfl, (kept.trans same) ▸ .taking (took reply {}) nofun⟩
    subst one
    rcases (reply' : Except Errno Unit) with e | _
    · obtain ⟨message, aborts⟩ := refused e
      rw [aborts]
      refine Act.ensures_abort fun j => .inr ⟨rfl, fd, rfl, { old with nonblock := true }, e, ?_⟩
      exact List.mem_cons_of_mem _ (List.mem_singleton.2 rfl)
    · rw [set]
      exact Act.ensures_pure ⟨took reply _, kept.trans same⟩
  rcases (reply : Except Errno Flags) with e | flags
  · exact rest {} _ rfl fun e => ⟨_, rfl⟩
  · exact rest flags.status _ rfl fun e => ⟨_, rfl⟩

/-- **An adoption begins a channel or has taken nothing.** -/
theorem adoptConfigured_begins (fd : Int) (config : Config) (waiter : Waiter) (s : System κ) :
    (adoptConfigured fd config waiter).Ensures s
      (fun es r s' => Begins waiter (some fd) s.ownership es r s'.ownership)
      (Unbegun waiter (some fd) s) := by
  unfold adoptConfigured
  refine Act.ensures_bind ((Act.allocateBuffers_ensures s).mono (fun _ _ _ _ h => h)
    fun _ _ _ _ no => no.elim) fun es r s₁ _ post => ?_
  obtain ⟨rfl, same, blank⟩ := post
  rcases r with e | ⟨input, output⟩
  · exact Act.ensures_pure (same ▸ .silent e)
  obtain ⟨live, pending⟩ := blank _ rfl
  refine Act.ensures_bind ((makeNonblocking_ensures fd waiter _).mono (fun _ _ _ _ h => h)
    fun es h s' _ halt => ?_) fun before _ s₂ _ ⟨takes, kept⟩ => ?_
  · rw [Unbegun, same] at halt
    exact halt
  refine Act.ensures_bind ((waiter.claim_ensures fd _).mono (fun _ _ _ _ h => h)
    fun es h s' _ ⟨told, stuck⟩ => ?_) fun _ _ s₃ _ ⟨told, claimed⟩ => ?_
  · obtain ⟨rfl, rfl, unchanged⟩ := stuck
    rw [List.append_nil, List.nil_append]
    exact .inl ⟨rfl, ((unchanged.trans kept).trans same) ▸
      .taking ((List.append_nil before).symm ▸ takes) fun _ => told⟩
  refine Act.ensures_log _ _ fun j => Act.ensures_pure ?_
  have owned : s₃.ownership = waiter.claimed fd s.ownership := by rw [claimed, kept, same]
  rw [show ({ s₃ with journal := j } : System κ).ownership = _ from owned, told]
  have blank : Blank ⟨fd, .unasked, input, output, false, config.logLifecycle, waiter, true⟩ :=
    ⟨⟨live.2, pending.2⟩, live.1, pending.1⟩
  have whole : Begins waiter (some fd) s.ownership _ _ _ :=
    .begun blank rfl rfl takes (List.forall_mem_nil _)
  simpa using whole

end Channel

namespace Opening

/-- The descriptor that an opening adopts. -/
def adopted? : Opening → Option Int
  | .adopt fd | .adoptConfigured fd .. => some fd
  | _ => none

/-- The waiter of the channel that an opening begins. -/
def waiter : Opening → Waiter
  | .openConfigured _ _ _ _ waiter | .adoptConfigured _ _ waiter => waiter
  | _ => Channel.defaultWaiter

/-- **How every beginning goes.** -/
theorem run_begins (opening : Opening) (s : System κ) :
    (opening.run).Ensures s
      (fun es r s' => Begins opening.waiter opening.adopted? s.ownership es r s'.ownership)
      (Channel.Unbegun opening.waiter opening.adopted? s) := by
  rcases opening with ⟨path, flags, mode⟩ | path | ⟨path, flags, mode, config, waiter⟩ | fd |
    ⟨fd, config, waiter⟩
  iterate 3 exact Act.ensures_bind_quiet rfl (.refl s) ((Channel.openConfigured_begins ..).mono
    (fun _ _ _ _ post => post.2) fun _ _ _ _ halt => .inl halt)
  iterate 2 exact Act.ensures_bind_quiet rfl (.refl s) (Channel.adoptConfigured_begins ..)

/-- **Every beginning makes a blank channel or fails**, and only an adoption may abort. -/
theorem run_ensures (opening : Opening) (s : System κ) :
    (opening.run).Ensures s (fun _ r _ => ∀ c, r = .ok c → c.Blank)
      (fun es h _ => h = .endless ∨
        h = .aborted ∧ ∃ fd, opening.adopted? = some fd ∧ Channel.FlagsRefused fd es) :=
  (opening.run_begins s).mono (fun _ _ _ _ begins _ made => (made ▸ begins).blank)
    fun _ _ _ _ halt => halt.imp_left And.left

end Opening

/-! ## Endings -/

/-- **The last call on a descriptor**: closing and dropping close it, and detaching makes none. -/
inductive Ending.Closes (fd : Int) : Ending → Dialogue → Prop
  | close : Closes fd .close [⟨.close fd, .ok ()⟩]
  | detach : Closes fd .detach []
  | drop (reply : Except Errno Unit) : Closes fd .drop [⟨.close fd, reply⟩]

namespace Channel

/-- **A descriptor that is given up**: the waiter is told once, and then comes the last call. -/
structure GivenUp (c : Channel) (ending : Ending) (s : System κ) (es : Dialogue) (s' : System κ) :
    Prop where
  exchanges : ∃ last, ending.Closes c.fd last ∧ es = c.waiter.releases c.fd ++ last
  ownership : s'.ownership = c.waiter.released c.fd s.ownership

/-- **An ending that stops**: at telling the waiter, or at the last call. -/
def GivingUp (c : Channel) (s : System κ) (es : Dialogue) (h : Halt) (s' : System κ) : Prop :=
  (c.waiter = .scheduled true ∧ Stuck s es h s') ∨
    h = .endless ∧ es = c.waiter.releases c.fd ∧ s'.ownership = c.waiter.released c.fd s.ownership

omit [Host κ] in
/-- The last call on a descriptor that was released does not come back. -/
theorem GivingUp.last {c : Channel} {s t s' : System κ} {es es' : Dialogue} {h : Halt}
    (released : es = c.waiter.releases c.fd ∧ t.ownership = c.waiter.released c.fd s.ownership)
    (stuck : Stuck t es' h s') : c.GivingUp s (es ++ es') h s' :=
  .inr ⟨stuck.halt, by rw [stuck.silent, List.append_nil, released.1],
    stuck.ownership.trans released.2⟩

omit [Host κ] in
theorem GivingUp.endless {c : Channel} {s s' : System κ} {es : Dialogue} {h : Halt}
    (stops : c.GivingUp s es h s') : h = .endless := stops.elim (fun stuck => stuck.2.halt) And.left

/-- **A channel that is dropped with its descriptor** gives it up, and never aborts. -/
theorem drop_ensures {c : Channel} (owned : c.owned = true) (s : System κ) :
    c.drop.Ensures s (fun es _ s' => c.GivenUp .drop s es s') (c.GivingUp s) := by
  rw [drop_of_owned owned]
  refine Act.ensures_logLoss c "drop" fun j => ?_
  refine Act.ensures_bind ((c.waiter.release_ensures c.fd _).mono (fun _ _ _ _ h => h)
    fun _ _ _ _ ⟨told, stuck⟩ => .inl ⟨told, stuck.1, stuck.2, stuck.3⟩) fun es _ t _ released => ?_
  refine (Descriptor.closeQuietly_ensures c.fd "on drop" t).mono (fun es' _ s' _ closed => ?_)
    fun _ _ _ _ stuck => .last released stuck
  obtain ⟨reply, rfl⟩ := closed.1
  exact ⟨⟨_, .drop reply, by rw [released.1]⟩, closed.2.trans released.2⟩

/-- **Dropping never aborts.** -/
theorem drop_returns (c : Channel) (s : System κ) :
    c.drop.Ensures s (fun _ _ _ => True) (fun _ h _ => h = .endless) := by
  cases owned : c.owned with
  | true =>
    exact (drop_ensures owned s).mono (fun _ _ _ _ _ => trivial) fun _ _ _ _ halt => halt.endless
  | false =>
    unfold drop
    rw [owned]
    exact Act.ensures_pure trivial

theorem detach_ensures (c : Channel) (s : System κ) :
    c.detach.Ensures s (fun es _ s' => c.GivenUp .detach s es s') (c.GivingUp s) := by
  rw [detach_eq]
  refine Act.ensures_logLoss c "detach" fun j => ?_
  refine Act.ensures_bind ((c.waiter.release_ensures c.fd _).mono (fun _ _ _ _ h => h)
    fun _ _ _ _ ⟨told, stuck⟩ => .inl ⟨told, stuck.1, stuck.2, stuck.3⟩) fun es _ t _ released => ?_
  exact Act.ensures_log _ _ fun j =>
    Act.ensures_pure ⟨⟨_, .detach, by rw [released.1]⟩, released.2⟩

/-- **Closing aborts only when the descriptor cannot be closed.** -/
theorem close_ensures (c : Channel) (s : System κ) :
    c.close.Ensures s (fun es _ s' => c.GivenUp .close s es s')
      (fun es h s' => c.GivingUp s es h s' ∨
        h = .aborted ∧ ∃ e, (⟨.close c.fd, .error e⟩ : Exchange) ∈ es) := by
  rw [close_eq]
  unfold Descriptor.close
  refine Act.ensures_bind ((c.waiter.release_ensures c.fd s).mono (fun _ _ _ _ h => h)
    fun _ _ _ _ stuck => .inl (.inl stuck)) fun es _ t _ released => ?_
  refine Act.ensures_bind (M := fun es' r s' => s'.ownership = t.ownership ∧
    ((∃ e e', r = .error e ∧ es' = [⟨.close c.fd, .error e'⟩]) ∨
      r = .ok () ∧ es' = [⟨.close c.fd, .ok ()⟩])) ?_ fun es' r s' _ closed => ?_
  · refine Act.ensures_bind ((ask_ensures (.close c.fd) t).mono (fun _ _ _ _ h => h)
      fun _ _ _ _ stuck => .inl (.last released stuck)) fun es' reply s' _ asked => ?_
    obtain ⟨rfl, same⟩ := asked
    rcases (reply : Except Errno Unit) with e | _
    · exact Act.ensures_pure ⟨same, .inl ⟨_, e, rfl, rfl⟩⟩
    · exact Act.ensures_pure ⟨same, .inr ⟨rfl, rfl⟩⟩
  · obtain ⟨same, ⟨e, e', rfl, rfl⟩ | ⟨rfl, rfl⟩⟩ := closed
    · refine Act.ensures_abort fun j => .inr ⟨rfl, e', ?_⟩
      exact List.mem_append_right _ (List.mem_singleton.2 rfl)
    · exact Act.ensures_log _ _ fun j =>
        Act.ensures_pure ⟨⟨_, .close, by rw [released.1]; rfl⟩, same.trans released.2⟩

end Channel

namespace Ending

/-- **How every ending goes**: the descriptor is given up, once, unless a call does not come back or
closing fails. -/
theorem run_givesUp (ending : Ending) {c : Channel} (owned : c.owned = true) (s : System κ) :
    (ending.run c).Ensures s (fun es _ s' => c.GivenUp ending s es s')
      (fun es h s' => c.GivingUp s es h s' ∨
        h = .aborted ∧ ending = .close ∧ ∃ e, (⟨.close c.fd, .error e⟩ : Exchange) ∈ es) := by
  have answers {ending : Ending} {es : Dialogue} {s' : System κ} (done : c.GivenUp ending s es s')
      (answer : Answer) {halts : Dialogue → Halt → System κ → Prop} :
      (pure answer : Act κ Answer).Ensures s' (fun es' _ t => c.GivenUp ending s (es ++ es') t)
        halts := Act.ensures_pure (by rw [List.append_nil]; exact done)
  rcases ending with _ | _ | _
  · exact Act.ensures_bind ((c.close_ensures s).mono (fun _ _ _ _ h => h)
      fun _ _ _ _ halt => halt.imp_right fun h => ⟨h.1, rfl, h.2⟩)
      fun _ _ _ _ done => answers done _
  · exact Act.ensures_bind ((c.detach_ensures s).mono (fun _ _ _ _ h => h)
      fun _ _ _ _ halt => .inl halt) fun _ _ _ _ done => answers done _
  · exact Act.ensures_bind ((Channel.drop_ensures owned s).mono (fun _ _ _ _ h => h)
      fun _ _ _ _ halt => .inl halt) fun _ _ _ _ done => answers done _

/-- **Only a closing may abort.** -/
theorem run_ensures (ending : Ending) (c : Channel) (s : System κ) :
    (ending.run c).Ensures s (fun _ _ _ => True)
      (fun es h _ => h = .endless ∨
        h = .aborted ∧ ending = .close ∧ ∃ e, (⟨.close c.fd, .error e⟩ : Exchange) ∈ es) := by
  rcases ending with _ | _ | _
  · exact Act.ensures_bind ((c.close_ensures s).mono (fun _ _ _ _ h => h)
      fun _ _ _ _ halt => halt.imp Channel.GivingUp.endless fun h => ⟨h.1, rfl, h.2⟩)
      fun _ _ _ _ _ => Act.ensures_pure trivial
  · exact Act.ensures_bind ((c.detach_ensures s).mono (fun _ _ _ _ h => h)
      fun _ _ _ _ halt => .inl halt.endless) fun _ _ _ _ _ => Act.ensures_pure trivial
  · exact Act.ensures_bind ((c.drop_returns s).mono (fun _ _ _ _ h => h)
      fun _ _ _ _ halt => .inl halt) fun _ _ _ _ _ => Act.ensures_pure trivial

end Ending

end BufferedChannels
