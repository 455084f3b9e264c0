import BufferedChannels.Channel.Stream
import BufferedChannels.Proofs.Writing

/-!
# Proofs/Positioning — where a channel stands, and how it moves

The position is asked for and moved by single exchanges, so each operation is told by the replies
it got: `Told` and `Sized` for the questions, `Sought` for a move and `Repositioned` for a move
after a flush.  Only `tell` can break a rule, when the descriptor stands **before** the bytes read
ahead.
-/

namespace BufferedChannels

variable {κ : Type} [Host κ]

namespace Descriptor

/-- A move of the position with its reply. -/
def seeking (fd : Int) (offset : Int) (whence : Whence) (reply : Except Errno Nat) : Exchange :=
  ⟨.seek fd offset whence, reply⟩

/-- **One move of the position** and what its reply stands for. -/
theorem seek_ensures (fd : Int) (offset : Int) (whence : Whence) (s : System κ) :
    (do return settle (← Act.call (.seek fd offset whence)) : Act κ _).Ensures s
      (fun es r _ => ∃ reply, es = [seeking fd offset whence reply] ∧ r = settle reply)
      (fun es h s' => es = [] ∧ Spent h s') :=
  Act.ensures_bind (call_ensures (.seek fd offset whence) s) fun _ reply _ _ one =>
    Act.ensures_pure ⟨reply, by rw [List.append_nil, one]; rfl, rfl⟩

/-- **Moving to a position** is refused without a word if the kernel cannot name it. -/
theorem seekTo_ensures (fd : Int) (position : Nat) (s : System κ) :
    (seekTo fd position).Ensures s
      (fun es r _ => (position ≤ maxOffset ∧
          ∃ reply, es = [seeking fd position .start reply] ∧ r = settle reply) ∨
        (maxOffset < position ∧ es = [] ∧
          r = .error (.invalidArgument "seek offset exceeds off_t")))
      (fun es h s' => es = [] ∧ Spent h s') := by
  unfold seekTo offset?
  split
  · next refused =>
    split at refused
    · cases refused
    · next beyond =>
      exact Act.ensures_pure (.inr ⟨Nat.lt_of_not_le beyond, rfl, refused.symm⟩)
  · next accepted =>
    split at accepted
    · next le =>
      obtain rfl := Except.ok.inj accepted
      exact (seek_ensures fd position .start s).mono (fun _ _ _ _ h => .inl ⟨le, h⟩)
        fun _ _ _ _ h => h
    · cases accepted

end Descriptor

/-- **A question for the position or the end, or a move** to a position that the kernel can name. -/
inductive Exchange.Seeks (fd : Int) : Exchange → Prop
  | here (reply : Except Errno Nat) : Seeks fd (Descriptor.seeking fd 0 .current reply)
  | finish (reply : Except Errno Nat) : Seeks fd (Descriptor.seeking fd 0 .finish reply)
  | start {position : Nat} (reply : Except Errno Nat) : position ≤ Descriptor.maxOffset →
      Seeks fd (Descriptor.seeking fd position .start reply)

/-- **Every exchange asks for a position** of a descriptor or moves it. -/
def Dialogue.Seeks (fd : Int) (es : Dialogue) : Prop := ∀ e ∈ es, e.Seeks fd

namespace Dialogue.Seeks

variable {fd : Int} {es es' : Dialogue}

theorem nil : Seeks fd [] := List.forall_mem_nil _

theorem cons {e : Exchange} (first : e.Seeks fd) (h : es.Seeks fd) : Seeks fd (e :: es) :=
  List.forall_mem_cons.2 ⟨first, h⟩

theorem append (h : es.Seeks fd) (h' : es'.Seeks fd) : (es ++ es').Seeks fd :=
  fun e he => (List.mem_append.1 he).elim (h e) (h' e)

theorem still (h : es.Seeks fd) : ∀ e ∈ es, e.isStill = true := by
  intro e he
  obtain _ | _ | _ := h e he <;> rfl

end Dialogue.Seeks

namespace Channel

variable {c c' : Channel}

/-! ## Asking -/

/-- **What `tell` tells**: the descriptor's position, less the bytes read ahead. -/
inductive Told (c : Channel) : Dialogue → Except ChannelError Nat → Prop
  | failed (e : Errno) :
      Told c [Descriptor.seeking c.fd 0 .current (.error e)] (.error (.ofErrno e.recognized))
  | told (physical : Nat) : c.liveCount ≤ physical →
      Told c [Descriptor.seeking c.fd 0 .current (.ok physical)] (.ok (physical - c.liveCount))

/-- **A position before the bytes read ahead**, at which `tell` breaks a rule. -/
def Behind (c : Channel) (es : Dialogue) (h : Halt) : Prop :=
  ∃ physical, es = [Descriptor.seeking c.fd 0 .current (.ok physical)] ∧ physical < c.liveCount ∧
    h = .faulted "attempt to subtract with overflow" (some c)

/-- **What is left of a question or a move that halts** for want of a budget: few exchanges. -/
def HaltsAsking (c : Channel) (es : Dialogue) (h : Halt) (s : System κ) : Prop :=
  es.Seeks c.fd ∧ es.length ≤ 3 ∧ Spent h s

theorem Told.seeks {es : Dialogue} {r : Except ChannelError Nat} (h : c.Told es r) :
    es.Seeks c.fd := by
  rcases h with _ | _ <;> exact .cons (.here _) .nil

theorem Told.length_le {es : Dialogue} {r : Except ChannelError Nat} (h : c.Told es r) :
    es.length ≤ 3 := by
  rcases h with _ | _ <;> simp

theorem tell_ensures (c : Channel) (s : System κ) :
    c.tell.Ensures s (fun es r _ => c.Told es r)
      (fun es h s' => c.HaltsAsking es h s' ∨ c.Behind es h) := by
  unfold tell Descriptor.position
  refine Act.ensures_bind ((Descriptor.seek_ensures c.fd 0 .current s).mono (fun _ _ _ _ h => h)
    fun es _ _ _ ⟨silent, spent⟩ => ?_) fun es r s' _ asked => ?_
  · subst silent
    exact .inl ⟨.nil, Nat.zero_le _, spent⟩
  · obtain ⟨reply, rfl, rfl⟩ := asked
    rcases reply with e | physical
    · exact Act.ensures_pure (.failed e)
    · dsimp only [Descriptor.settle]
      split
      · next before =>
        refine Act.ensures_bind (M := fun _ _ _ => False)
          (Act.ensures_leaving c (Act.ensures_throw ?_)) fun _ _ _ _ no => no.elim
        exact .inr ⟨physical, rfl, before, rfl⟩
      · next after => exact Act.ensures_pure (.told physical (Nat.not_lt.1 after))

/-- **What `size` comes to**: the end of the file and the pending bytes behind it, with the position
back where it was, or the first failure on the way there. -/
inductive Sized (c : Channel) : Dialogue → Except ChannelError Nat → Prop
  | unsupported : c.kind.isRegular = false → Sized c [] (.error .unsupported)
  | nowhere (e : Errno) :
      Sized c [Descriptor.seeking c.fd 0 .current (.error e)] (.error (.ofErrno e.recognized))
  | noEnd (here : Nat) (e : Errno) :
      Sized c [Descriptor.seeking c.fd 0 .current (.ok here),
        Descriptor.seeking c.fd 0 .finish (.error e)] (.error (.ofErrno e.recognized))
  | noReturn (here stop : Nat) (e : Errno) : here ≤ Descriptor.maxOffset →
      Sized c [Descriptor.seeking c.fd 0 .current (.ok here),
        Descriptor.seeking c.fd 0 .finish (.ok stop),
        Descriptor.seeking c.fd here .start (.error e)] (.error (.ofErrno e.recognized))
  | tooFar (here stop : Nat) : Descriptor.maxOffset < here →
      Sized c [Descriptor.seeking c.fd 0 .current (.ok here),
        Descriptor.seeking c.fd 0 .finish (.ok stop)]
        (.error (.invalidArgument "seek offset exceeds off_t"))
  | sized (here stop back : Nat) : here ≤ Descriptor.maxOffset →
      Sized c [Descriptor.seeking c.fd 0 .current (.ok here),
        Descriptor.seeking c.fd 0 .finish (.ok stop),
        Descriptor.seeking c.fd here .start (.ok back)] (.ok (stop + c.pendingCount))

theorem Sized.seeks {es : Dialogue} {r : Except ChannelError Nat} (h : c.Sized es r) :
    es.Seeks c.fd := by
  rcases h with _ | _ | _ | ⟨_, _, _, le⟩ | _ | ⟨_, _, _, le⟩
  · exact .nil
  · exact .cons (.here _) .nil
  · exact .cons (.here _) (.cons (.finish _) .nil)
  · exact .cons (.here _) (.cons (.finish _) (.cons (.start _ le) .nil))
  · exact .cons (.here _) (.cons (.finish _) .nil)
  · exact .cons (.here _) (.cons (.finish _) (.cons (.start _ le) .nil))

theorem Sized.length_le {es : Dialogue} {r : Except ChannelError Nat} (h : c.Sized es r) :
    es.length ≤ 3 := by
  rcases h with _ | _ | _ | _ | _ | _ <;> simp

theorem size_ensures (c : Channel) (s : System κ) :
    c.size.Ensures s (fun es r _ => c.Sized es r) (fun es h s' => c.HaltsAsking es h s') := by
  unfold size
  split
  · next other =>
    have notRegular : c.kind.isRegular = false := by simpa using other
    exact Act.ensures_log _ _ fun j => Act.ensures_pure (.unsupported notRegular)
  · unfold Descriptor.position Descriptor.seekEnd
    refine Act.ensures_bind ((Descriptor.seek_ensures c.fd 0 .current s).mono (fun _ _ _ _ h => h)
      fun es _ _ _ ⟨silent, spent⟩ => ?_) fun es r s' _ asked => ?_
    · subst silent
      exact ⟨.nil, Nat.zero_le _, spent⟩
    obtain ⟨reply, rfl, rfl⟩ := asked
    rcases reply with e | here
    · exact Act.ensures_pure (.nowhere e)
    refine Act.ensures_bind ((Descriptor.seek_ensures c.fd 0 .finish s').mono (fun _ _ _ _ h => h)
      fun es _ _ _ ⟨silent, spent⟩ => ?_) fun es r t _ asked => ?_
    · subst silent
      exact ⟨.cons (.here _) .nil, by simp, spent⟩
    obtain ⟨reply, rfl, rfl⟩ := asked
    rcases reply with e | stop
    · exact Act.ensures_pure (.noEnd here e)
    refine Act.ensures_bind ((Descriptor.seekTo_ensures c.fd here t).mono (fun _ _ _ _ h => h)
      fun es _ _ _ ⟨silent, spent⟩ => ?_) fun es r u _ asked => ?_
    · subst silent
      exact ⟨.cons (.here _) (.cons (.finish _) .nil), by simp, spent⟩
    rcases asked with ⟨le, reply, rfl, rfl⟩ | ⟨beyond, rfl, rfl⟩
    · rcases reply with e | back
      · exact Act.ensures_pure (.noReturn here stop e le)
      · exact Act.ensures_pure (.sized here stop back le)
    · exact Act.ensures_pure (.tooFar here stop beyond)

/-! ## Moving -/

/-- **A channel that forgot both buffers.** -/
def emptied (c : Channel) : Channel :=
  { c with input := c.input.clear, output := c.output.clear, ended := false }

theorem wellFormed_emptied (c : Channel) : c.emptied.WellFormed :=
  ⟨ReadAhead.wellFormed_clear _, WriteBehind.wellFormed_clear _⟩

/-- **What a move comes to**: a position that the kernel cannot name is refused, and otherwise both
buffers are forgotten whatever the reply. -/
inductive Sought (c : Channel) (position : Nat) :
    Dialogue → Except ChannelError Nat → Channel → Prop
  | refused : Descriptor.maxOffset < position →
      Sought c position [] (.error (.invalidArgument "seek offset exceeds off_t")) c
  | moved (reply : Except Errno Nat) : position ≤ Descriptor.maxOffset →
      Sought c position [Descriptor.seeking c.fd position .start reply] (Descriptor.settle reply)
        c.emptied

theorem Sought.seeks {position : Nat} {es : Dialogue} {r : Except ChannelError Nat}
    (h : c.Sought position es r c') : es.Seeks c.fd := by
  rcases h with _ | ⟨_, le⟩
  · exact .nil
  · exact .cons (.start _ le) .nil

theorem seek_ensures (c : Channel) (position : Nat) (s : System κ) :
    (c.seek position).Ensures s (fun es r _ => c.Sought position es r.1 r.2)
      (fun es h s' => c.HaltsAsking es h s') := by
  unfold seek
  split
  · next e refused =>
    unfold Descriptor.offset? at refused
    split at refused
    · cases refused
    · next beyond =>
      obtain rfl := Except.error.inj refused
      exact Act.ensures_pure (.refused (Nat.lt_of_not_le beyond))
  · next accepted =>
    refine Act.ensures_logLoss c "seek" fun j => ?_
    refine Act.ensures_bind ((Descriptor.seekTo_ensures c.fd position _).mono (fun _ _ _ _ h => h)
      fun es _ _ _ ⟨silent, spent⟩ => ?_) fun es r s' _ asked => ?_
    · subst silent
      exact ⟨.nil, Nat.zero_le _, spent⟩
    rcases asked with ⟨le, reply, rfl, rfl⟩ | ⟨beyond, _, _⟩
    · exact Act.ensures_pure (.moved reply le)
    · unfold Descriptor.offset? at accepted
      rw [if_neg (Nat.not_le.2 beyond)] at accepted
      cases accepted

/-! ## Moving after a flush -/

/-- **What becomes of a target**: the position that it names, if it names one. -/
inductive Targeted (c : Channel) : SeekTarget → Dialogue → Except ChannelError (Option Nat) → Prop
  | start (position : Nat) : Targeted c (.start position) [] (.ok (some position))
  | current {es : Dialogue} {r : Except ChannelError Nat} (delta : Int) : c.Told es r →
      Targeted c (.current delta) es (r.map fun here => shifted? here delta)
  | finish {es : Dialogue} {r : Except ChannelError Nat} (delta : Int) : c.Sized es r →
      Targeted c (.finish delta) es (r.map fun stop => shifted? stop delta)

theorem targetPosition_ensures (c : Channel) (target : SeekTarget) (s : System κ) :
    (c.targetPosition target).Ensures s (fun es r _ => c.Targeted target es r)
      (fun es h s' => c.HaltsAsking es h s' ∨
        ∃ delta, target = .current delta ∧ c.Behind es h) := by
  rcases target with position | delta | delta
  · exact Act.ensures_pure (.start position)
  · refine Act.ensures_bind ((c.tell_ensures s).mono (fun _ _ _ _ h => h) fun _ _ _ _ halts =>
      halts.imp_right fun behind => ⟨delta, rfl, behind⟩) fun es r _ _ told => ?_
    refine Act.ensures_pure ?_
    rw [List.append_nil]
    exact .current delta told
  · refine Act.ensures_bind ((c.size_ensures s).mono (fun _ _ _ _ h => h) fun _ _ _ _ halts =>
      .inl halts) fun es r _ _ sized => ?_
    refine Act.ensures_pure ?_
    rw [List.append_nil]
    exact .finish delta sized

/-- **What a move after a flush comes to**: the flush fails, or there is no position to move to, or
the move is made. -/
inductive Repositioned (c : Channel) (target : SeekTarget) :
    Dialogue → Except StandardError Nat → Channel → Prop
  | unflushed {es : Dialogue} {e : ChannelError} {c' : Channel} : c.Flushed es (.error e) c' →
      Repositioned c target es (.error e.toStandard) c'
  | failed {es es' : Dialogue} {e : ChannelError} {c' : Channel} : c.Flushed es (.ok ()) c' →
      c'.Targeted target es' (.error e) → Repositioned c target (es ++ es') (.error e.toStandard) c'
  | nowhere {es es' : Dialogue} {c' : Channel} : c.Flushed es (.ok ()) c' →
      c'.Targeted target es' (.ok none) → Repositioned c target (es ++ es')
        (.error (.classified .invalidInput "seek to a negative or overflowing position")) c'
  | moved {es es' es'' : Dialogue} {position : Nat} {r : Except ChannelError Nat}
      {c' c'' : Channel} : c.Flushed es (.ok ()) c' → c'.Targeted target es' (.ok (some position)) →
      c'.Sought position es'' r c'' → Repositioned c target (es ++ (es' ++ es''))
        (r.mapError ChannelError.toStandard) c''

/-- **What is left of a move after a flush that halts**: the flush was sending, or it was over and
few exchanges were made since, or the descriptor stood before the bytes read ahead. -/
inductive HaltsMoving (c : Channel) (target : SeekTarget) : Dialogue → Halt → System κ → Prop
  | sending {es : Dialogue} {h : Halt} {s : System κ} :
      c.HaltsWriting c.output.pending.length es h s → HaltsMoving c target es h s
  | asking {es es' : Dialogue} {h : Halt} {s : System κ} {c' : Channel} :
      c.Flushed es (.ok ()) c' → es'.Seeks c.fd → es'.length ≤ 6 → Spent h s →
        HaltsMoving c target (es ++ es') h s
  | behind {es es' : Dialogue} {h : Halt} {s : System κ} {c' : Channel} {delta : Int} :
      c.Flushed es (.ok ()) c' → target = .current delta → c'.Behind es' h →
        HaltsMoving c target (es ++ es') h s

theorem Targeted.seeks {target : SeekTarget} {es : Dialogue} {r : Except ChannelError (Option Nat)}
    (h : c.Targeted target es r) : es.Seeks c.fd ∧ es.length ≤ 3 := by
  rcases h with _ | ⟨_, told⟩ | ⟨_, sized⟩
  · exact ⟨.nil, Nat.zero_le _⟩
  · exact ⟨told.seeks, told.length_le⟩
  · exact ⟨sized.seeks, sized.length_le⟩

theorem reposition_ensures (wf : c.WellFormed) (target : SeekTarget) (s : System κ) :
    (c.reposition target).Ensures s (fun es r _ => c.Repositioned target es r.1 r.2)
      (fun es h s' => c.HaltsMoving target es h s') := by
  unfold reposition
  refine Act.ensures_bind ((flush_ensures wf .never s).mono (fun _ _ _ _ h => h)
    fun _ _ _ _ halts => .sending halts) fun es r s' _ flushed => ?_
  obtain ⟨result, c'⟩ := r
  rcases result with e | _
  · refine Act.ensures_pure ?_
    rw [List.append_nil]
    exact .unflushed flushed
  have fd : c'.fd = c.fd := flushed.rewritten.fd
  refine Act.ensures_bind ((c'.targetPosition_ensures target s').mono (fun _ _ _ _ h => h)
    fun es' _ _ _ halts => ?_) fun es' r t _ targeted => ?_
  · obtain ⟨seeks, few, spent⟩ | ⟨delta, rfl, behind⟩ := halts
    · exact .asking flushed (fd ▸ seeks) (by omega) spent
    · exact .behind flushed rfl behind
  rcases r with e | _ | position
  · refine Act.ensures_pure ?_
    rw [List.append_nil]
    exact .failed flushed targeted
  · refine Act.ensures_pure ?_
    rw [List.append_nil]
    exact .nowhere flushed targeted
  · refine Act.ensures_bind ((c'.seek_ensures position t).mono (fun _ _ _ _ h => h)
      fun es'' _ _ _ ⟨seeks, few, spent⟩ => ?_) fun es'' r _ _ sought => ?_
    · refine .asking flushed (fd ▸ targeted.seeks.1.append seeks) ?_ spent
      have := targeted.seeks.2
      rw [List.length_append]
      omega
    · refine Act.ensures_pure ?_
      rw [List.append_nil]
      exact .moved flushed targeted sought

end Channel

end BufferedChannels
