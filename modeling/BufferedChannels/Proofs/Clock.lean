import BufferedChannels.Proofs.CalmPath
import BufferedChannels.Proofs.Dialogue

/-!
# Proofs/Clock — a clock that never goes back

A host is **punctual** when its clock never goes back and a poll that times out took at least its
timeout: this is all that a wait relies on.  The clock of the simulated kernel is moved by waiting
and by scripts only, and only forward.
-/

namespace BufferedChannels

/-- **A punctual host**: its clock never goes back, and a poll that times out had a timeout and took
at least as long. -/
class Host.Punctual (κ : Type) [Host κ] : Prop where
  now_le_answer : ∀ (k : κ) (r : Request), Host.now k ≤ Host.now (Host.answer k r).2
  now_le_allocate : ∀ k : κ, Host.now k ≤ Host.now (Host.allocate k).2
  timedOut : ∀ (k : κ) (fd : Int) (direction : Direction) (timeout : Option Nat),
    (Host.answer k (.poll fd direction timeout)).1 = Polled.timedOut →
      ∃ ms, timeout = some ms ∧ Host.now k + ms * Deadline.millisecond ≤
        Host.now (Host.answer k (.poll fd direction timeout)).2

section

variable {κ : Type} [Host κ] [Host.Punctual κ]

theorem Host.Leads.now_le {k k' : κ} {es : Dialogue} (h : Host.Leads k es k') :
    Host.now k ≤ Host.now k' := by
  induction h with
  | nil k => exact Nat.le_refl _
  | cons r _ ih => exact Nat.le_trans (Host.Punctual.now_le_answer _ r) ih
  | allocate _ ih => exact Nat.le_trans (Host.Punctual.now_le_allocate _) ih

/-- **Whatever passes between a system and its host**, the clock never goes back. -/
theorem System.Reaches.now_le {s s' : System κ} {es : Dialogue} (h : s.Reaches es s') :
    Host.now s.host ≤ Host.now s'.host := h.host.now_le

/-- **A poll without a timeout** never times out. -/
theorem Host.Leads.untimed_not_mem {k k' : κ} {es : Dialogue} (h : Host.Leads k es k') (fd : Int)
    (direction : Direction) : ⟨.poll fd direction none, Polled.timedOut⟩ ∉ es := by
  induction h with
  | nil => exact List.not_mem_nil
  | cons r _ ih =>
    intro mem
    rcases List.mem_cons.1 mem with same | later
    · obtain ⟨rfl, reply⟩ := Exchange.mk.inj same
      obtain ⟨_, limited, _⟩ := Host.Punctual.timedOut _ _ _ _ (eq_of_heq reply).symm
      cases limited
    · exact ih later
  | allocate _ ih => exact ih

end

/-! ## The clock of the simulated kernel -/

namespace Simulation.Kernel

variable (k : Kernel)

@[simp] theorem clock_setDescriptor (fd : Int) (file : OpenFile) :
    (k.setDescriptor fd file).clock = k.clock := rfl

@[simp] theorem clock_setBody (name : String) (body : Body) :
    (k.setBody name body).clock = k.clock := by
  unfold setBody
  split <;> rfl

@[simp] theorem clock_befall (s : Stimulus) : (k.befall s).clock = k.clock := by
  unfold befall
  split <;> rfl

theorem clock_foldl_befall (due : List (Nat × Stimulus)) :
    (due.foldl (fun k event => k.befall event.2) k).clock = k.clock := by
  induction due generalizing k with
  | nil => rfl
  | cons event rest ih => rw [List.foldl_cons, ih, clock_befall]

/-- **The clock moves forward** to an instant, or stays behind none. -/
@[simp] theorem clock_advanceTo (instant : Nat) :
    (k.advanceTo instant).clock = max k.clock instant := clock_foldl_befall _ _

theorem clock_le_sleep (duration : Nat) : k.clock ≤ (k.sleep duration).clock := by
  rw [sleep, clock_advanceTo]
  exact Nat.le_max_left _ _

theorem clock_le_consult (name : String) (kind : CallKind) :
    k.clock ≤ (k.consult name kind).2.clock := by
  unfold consult
  split
  · exact Nat.le_refl _
  · exact clock_le_sleep (k.setNode name _) _

variable {k}

/-- **A call on a descriptor** keeps the clock from going back if what it does leaves it alone. -/
theorem clock_le_onDescriptor {α : Type} {fd : Int} {kind : CallKind}
    {act : Kernel → OpenFile → Body → Option Nat → Except Errno α × Kernel}
    (still : ∀ k file body max?, (act k file body max?).2.clock = k.clock) :
    k.clock ≤ (k.onDescriptor fd kind act).2.clock := by
  unfold onDescriptor
  split
  · exact Nat.le_refl _
  · next file _ =>
    have told := k.clock_le_consult file.node kind
    dsimp only
    split
    · exact told
    split
    · exact told
    · rw [still]
      exact told

theorem clock_le_openPath (path : String) (flags : Flags) :
    k.clock ≤ (k.openPath path flags).2.clock := by
  have told := k.clock_le_consult path .openPath
  unfold openPath newDescriptor
  dsimp only
  split
  · exact told
  split
  · split
    · exact told
    · exact told
  · next node _ =>
    split
    · exact told
    split
    · exact told
    split
    · exact told
    · rw [clock_setDescriptor]
      rcases node with ⟨contents | _ | _, script⟩
      · dsimp only
        split
        · rw [clock_setBody]
          exact told
        · exact told
      all_goals exact told

theorem clock_le_read (fd : Int) (len : Nat) : k.clock ≤ (k.read fd len).2.clock := by
  refine clock_le_onDescriptor fun k file body max? => ?_
  dsimp only
  split
  · rfl
  rcases body with contents | _ | stream
  · rfl
  · rfl
  · dsimp only
    split
    · split
      · rfl
      · rfl
    · exact clock_setBody k _ _

theorem clock_writeAt (fd : Int) (file : OpenFile) (contents : Contents) (rebuild : Contents → Body)
    (data : Bytes) : (k.writeAt fd file contents rebuild data).2.clock = k.clock := by
  unfold writeAt
  generalize (if file.flags.append then contents.size else file.offset) = offset
  dsimp only
  split
  · rfl
  split
  · rfl
  · rw [clock_setDescriptor, clock_setBody]

theorem clock_le_write (fd : Int) (data : Bytes) : k.clock ≤ (k.write fd data).2.clock := by
  unfold write
  split
  · exact Nat.le_refl _
  refine clock_le_onDescriptor fun k file body max? => ?_
  dsimp only
  split
  · rfl
  rcases body with contents | contents | stream
  · exact clock_writeAt ..
  · exact clock_writeAt ..
  · dsimp only
    split
    · rfl
    split
    · rfl
    · exact clock_setBody k _ _

theorem clock_le_seek (fd : Int) (offset : Int) (whence : Whence) :
    k.clock ≤ (k.seek fd offset whence).2.clock := by
  refine clock_le_onDescriptor fun k file body max? => ?_
  dsimp only
  split
  · rfl
  · generalize (_ + offset : Int) = target
    split
    · rfl
    · rfl

theorem clock_le_close (fd : Int) : k.clock ≤ (k.close fd).2.clock := by
  unfold close
  split
  · exact Nat.le_refl _
  · next file _ =>
    have told := k.clock_le_consult file.node .close
    dsimp only
    split
    · exact told
    · exact told

/-! ## Polls -/

theorem clock_le_expire (limit? : Option Nat) : k.clock ≤ (k.expire limit?).2.clock := by
  unfold expire
  split
  · rw [clock_advanceTo]
    exact Nat.le_max_left _ _
  · exact Nat.le_refl _

/-- A wait that expires does so at its limit. -/
theorem limit_le_expire {limit? : Option Nat} (out : (k.expire limit?).1 = .timedOut) :
    ∃ limit, limit? = some limit ∧ limit ≤ (k.expire limit?).2.clock := by
  rcases limit? with _ | limit
  · cases out
  · refine ⟨limit, rfl, ?_⟩
    rw [expire, clock_advanceTo]
    exact Nat.le_max_right _ _

/-- **The ways of a wait for a node**: the node is ready, or the wait expires, or the time of an
event comes first. -/
theorem awaitNode_of_ways {name : String} {direction : Direction} {limit? : Option Nat}
    {P : Kernel → Prop} {R : Kernel → Polled × Kernel → Prop}
    (ready : ∀ k, P k → (k.node? name).all (fun node => node.body.isReady direction) = true →
      R k (.ready, k))
    (expires : ∀ k, P k → ¬ (k.node? name).all (fun node => node.body.isReady direction) = true →
      R k (k.expire limit?))
    (passes : ∀ k instant, P k → P (k.advanceTo instant) ∧
      ∀ r, R (k.advanceTo instant) r → R k r) (fuel : Nat) {k : Kernel} (start : P k) :
    R k (awaitNode name direction limit? fuel k) := by
  induction fuel generalizing k with
  | zero =>
    unfold awaitNode
    split
    · next is => exact ready k start is
    · next unready => exact expires k start unready
  | succ fuel ih =>
    unfold awaitNode
    split
    · next is => exact ready k start is
    next unready =>
    split
    · next time _ _ same _ =>
      obtain rfl := Nat.succ.inj same
      split
      · obtain ⟨kept, later⟩ := passes k time start
        exact later _ (ih kept)
      · exact expires k start unready
    · exact expires k start unready

/-- **Waiting for a node** never turns the clock back, and times out at its limit only. -/
theorem clock_awaitNode (name : String) (direction : Direction) (limit? : Option Nat) (fuel : Nat)
    (k : Kernel) :
    k.clock ≤ (awaitNode name direction limit? fuel k).2.clock ∧
      ((awaitNode name direction limit? fuel k).1 = .timedOut →
        ∃ limit, limit? = some limit ∧
          limit ≤ (awaitNode name direction limit? fuel k).2.clock) := by
  refine awaitNode_of_ways (P := fun _ => True) (R := fun k r => k.clock ≤ r.2.clock ∧
    (r.1 = .timedOut → ∃ limit, limit? = some limit ∧ limit ≤ r.2.clock))
    (fun k _ _ => ⟨Nat.le_refl _, nofun⟩)
    (fun k _ _ => ⟨k.clock_le_expire limit?, limit_le_expire⟩)
    (fun k instant _ => ⟨trivial, fun r later => ?_⟩) fuel trivial
  rw [clock_advanceTo] at later
  exact ⟨Nat.le_trans (Nat.le_max_left _ _) later.1, later.2⟩

theorem clock_le_poll (fd : Int) (direction : Direction) (timeout : Option Nat) :
    k.clock ≤ (k.poll fd direction timeout).2.clock := by
  unfold poll
  split
  · exact Nat.le_refl _
  · next file _ =>
    have told := k.clock_le_consult file.node .poll
    dsimp only
    split
    · exact told
    · exact Nat.le_trans told (clock_awaitNode ..).1

/-- **A poll that times out** took at least its timeout. -/
theorem timeout_le_poll {fd : Int} {direction : Direction} {timeout : Option Nat}
    (out : (k.poll fd direction timeout).1 = .timedOut) :
    ∃ ms, timeout = some ms ∧
      k.clock + ms * Deadline.millisecond ≤ (k.poll fd direction timeout).2.clock := by
  unfold poll at out ⊢
  split at out
  · cases out
  · next file _ =>
    have told := k.clock_le_consult file.node .poll
    dsimp only at out ⊢
    split at out
    · cases out
    · obtain ⟨limit, is, le⟩ := (clock_awaitNode ..).2 out
      obtain ⟨ms, rfl, rfl⟩ := Option.map_eq_some_iff.1 is
      exact ⟨ms, rfl, Nat.le_trans (Nat.add_le_add_right told _) le⟩

theorem clock_le_wait (direction : Direction) : k.clock ≤ (k.wait direction).2.clock := by
  unfold wait
  split
  · exact Nat.le_refl _
  · next rest _ => exact clock_le_sleep { k with wakes := rest } _

/-- **Whatever is asked**, the clock never goes back. -/
theorem clock_le_answer (k : Kernel) (r : Request) : k.clock ≤ (k.answer r).2.clock := by
  cases r with
  | openPath path flags _ => exact clock_le_openPath path flags
  | read fd len => exact clock_le_read fd len
  | write fd data => exact clock_le_write fd data
  | seek fd offset whence => exact clock_le_seek fd offset whence
  | stat fd => exact clock_le_onDescriptor fun _ _ _ _ => rfl
  | close fd => exact clock_le_close fd
  | getFlags fd => exact clock_le_onDescriptor fun _ _ _ _ => rfl
  | setFlags fd flags => exact clock_le_onDescriptor fun _ _ _ _ => rfl
  | poll fd direction timeout => exact clock_le_poll fd direction timeout
  | claim fd => exact Nat.le_refl _
  | release fd => exact Nat.le_refl _
  | wait fd direction left => exact clock_le_wait direction

instance : Host.Punctual Kernel where
  now_le_answer := clock_le_answer
  now_le_allocate _ := Nat.le_refl _
  timedOut _ _ _ _ out := timeout_le_poll out

end Simulation.Kernel

end BufferedChannels
