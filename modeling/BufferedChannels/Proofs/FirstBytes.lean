import Mathlib
import BufferedChannels.Proofs.Demand
import BufferedChannels.Proofs.Timeliness
import BufferedChannels.Proofs.Waited

/-!
# Proofs/FirstBytes — a plain read stops at its first bytes

The low mark of a plain read is a single byte, so **a failure comes before the first byte**: nothing
was buffered, nothing was delivered, and the count that the plain interface drops was zero.  For the
same reason no call follows one that brought bytes, and no bytes at all mean that the last call met
the end of the stream.
-/

namespace BufferedChannels

/-! ## Exchanges in pairs -/

/-- What holds of every exchange and each of those before it holds **of every two exchanges**. -/
theorem Dialogue.Throughout.pairwise {P : Dialogue → Exchange → Prop}
    {R : Exchange → Exchange → Prop} {es : Dialogue} (h : es.Throughout P)
    (relates : ∀ before e, P before e → ∀ e' ∈ before, R e' e) : es.Pairwise R := by
  induction es using List.reverseRecOn with
  | nil => exact .nil
  | append_singleton es e ih =>
    refine List.pairwise_append.2 ⟨ih fun before e' after whole => ?_, List.pairwise_singleton _ _,
      fun e' he' e'' he'' => ?_⟩
    · exact h before e' (after ++ [e]) (by rw [whole, List.append_assoc, List.cons_append])
    · rw [List.mem_singleton.1 he'']
      exact relates es e (h es e [] rfl) e' he'

/-- An exchange that delivers is a read. -/
theorem Exchange.eq_reading {fd : Int} {e : Exchange} (some : e.deliveredOn fd ≠ []) :
    ∃ len reply, e = Descriptor.reading fd len reply := by
  unfold deliveredOn at some
  split at some
  · split at some
    · next same => exact ⟨_, _, by rw [← same]; rfl⟩
    · exact absurd rfl some
  · exact absurd rfl some

namespace Channel

variable {c c' : Channel} {len high : Nat} {es : Dialogue}

/-- **A read that stops at its first byte** asks only as long as nothing was delivered. -/
theorem Asks.deliveredOn {before : Dialogue} {e e' : Exchange} (h : c.Asks 1 high before e)
    (mem : e' ∈ before) : e'.deliveredOn c.fd = [] ∨ e.deliveredOn c.fd = [] := by
  refine or_iff_not_imp_right.2 fun some => ?_
  obtain ⟨len, reply, is⟩ := e.eq_reading some
  have none : before.delivered c.fd = [] := List.length_eq_zero_iff.1 (by
    have := (h len reply is).1
    omega)
  exact List.flatMap_eq_nil_iff.1 none e' mem

/-! ## Plain reads -/

/-- **What a plain read that returned has done.** -/
structure ReadPlainly (c : Channel) (len : Nat) (es : Dialogue) (r : Except StandardError Bytes)
    (c' : Channel) : Prop where
  /-- A failure takes nothing from the stream, and is no end. -/
  failed : ∀ e, r = .error e →
    c.input.live = [] ∧ c'.input.live = [] ∧ es.delivered c.fd = [] ∧ c'.ended = c.ended
  /-- No bytes come when the last call met the end, and the channel says so. -/
  ended : 0 < len → r = .ok [] → es.EndsEmpty c.fd ∧ c'.ended = true
  /-- The bytes that come are the next of the stream, and no more than fit unless the host moved
  more than it was asked for. -/
  next : ∀ bytes, r = .ok bytes → c.input.live ++ es.delivered c.fd = bytes ++ c'.input.live ∧
    (es.Moderate → bytes.length ≤ len)
  /-- No two calls bring bytes. -/
  once : es.Pairwise fun e e' => e.deliveredOn c.fd = [] ∨ e'.deliveredOn c.fd = []
  /-- A thread that polls is not timed out, as long as no poll without a timeout is: a failure is
  that of the last call. -/
  patient : ∀ scope, c.waiter = .polling scope →
    (∀ direction, ⟨.poll c.fd direction none, Polled.timedOut⟩ ∉ es) → ∀ e, r = .error e →
      ∃ before size x, es = before ++ [Descriptor.reading c.fd size (.error x)] ∧
        e = .errno x.recognized

/-- A failing read was cut short **by its last call** if no poll without a timeout timed out. -/
theorem CutShort.refused_of_patient {κ : Type} [Host κ] {s s' : System κ} {e : ChannelError}
    (h : c.CutShort .readable .never s es e s') {scope : Scope} (polls : c.waiter = .polling scope)
    (patient : ∀ direction, ⟨.poll c.fd direction none, Polled.timedOut⟩ ∉ es) :
    ∃ before size x, es = before ++ [Descriptor.reading c.fd size (.error x)] ∧
      e.toStandard = .errno x.recognized := by
  cases timeout : e.isTimeout with
  | true =>
    obtain ⟨before, last, waits, x, rfl, _, _, _, waited⟩ := h.waited timeout
    rw [polls] at waited
    exact absurd (List.mem_append_right _ waited.mem_of_never) (patient .readable)
  | false =>
    rcases h with @⟨before, _, x, n, _, ⟨size⟩, -, -⟩ | _
    · exact ⟨before, size, x, rfl, rfl⟩
    · cases timeout

/-- **A read that stops at its first byte** is a plain read. -/
theorem Received.readPlainly {κ : Type} [Host κ] {s s' : System κ} {r : Reading}
    (h : c.Received 1 len es r c') (m : c.Measured 1 len es r.bytes c')
    (ends : c.EndsReading 1 .never s es r s') :
    c.ReadPlainly len es (plainResult r) c' := by
  obtain ⟨bytes, error?⟩ := r
  have once := m.asked.pairwise fun _ _ asks _ => asks.deliveredOn
  rcases error? with _ | e
  · refine ⟨nofun, fun _ is => ?_, fun bytes' is => ?_, once, nofun⟩
    · cases is
      have seen := (h.short rfl Nat.one_pos).2
      exact ⟨seen, by rw [h.ended, seen.sawEnd, Bool.or_true]⟩
    · cases is
      exact ⟨h.conserved, h.le⟩
  · obtain ⟨under, empty, unseen⟩ := h.failed e rfl
    have nothing := h.conserved
    rw [List.length_eq_zero_iff.1 (Nat.lt_one_iff.1 under), empty] at nothing
    obtain ⟨buffered, delivered⟩ := List.append_eq_nil_iff.1 nothing
    refine ⟨fun _ _ => ⟨buffered, empty, delivered, ?_⟩, nofun, nofun, once,
      fun scope polls patient e' is => ?_⟩
    · rw [h.ended, unseen, Bool.or_false]
    · cases is
      exact (ends.cut e rfl).refused_of_patient polls patient

/-- A plain read of no bytes does nothing. -/
theorem readPlainly_nothing (c : Channel) : c.ReadPlainly 0 [] (.ok []) c where
  failed := nofun
  ended := fun pos => absurd pos (Nat.lt_irrefl 0)
  next := fun bytes is => by
    cases is
    exact ⟨List.append_nil _, fun _ => Nat.le_refl 0⟩
  once := .nil
  patient := nofun

variable {κ : Type} [Host κ]

theorem readSome_readPlainly (wf : c.WellFormed) (len : Nat) (s : System κ) :
    (c.readSome len).Ensures s (fun es r _ => c.ReadPlainly len es r.1 r.2)
      (fun _ _ _ => True) := by
  by_cases none : len = 0
  · subst none
    exact Act.ensures_pure c.readPlainly_nothing
  · have low : 1 ≤ len := Nat.pos_of_ne_zero none
    have fits : len ≤ len := Nat.le_refl len
    refine readSome_ensures_of_receive none (((receive_ensures wf low fits .never s).and
      ((receive_measured wf low fits .never s).and
        (receive_endsReading wf low fits .never s))).mono ?_ fun _ _ _ _ _ => trivial)
    exact fun _ _ _ _ ⟨received, measured, ends⟩ => received.readPlainly measured ends

/-- **A plain read that returns.**  If it fails, nothing was taken from the stream: the buffer was
empty and is, no call brought a byte and the end was not seen.  If it brings no bytes where some
were asked for, its last call met the end of the stream.  The bytes that it brings are the next of
the stream, and one call at most delivers them.  A thread that polls sees no timeout, but the number
of the call that failed. -/
theorem readSome_returned (wf : c.WellFormed) {r : Except StandardError Bytes} {s s' : System κ}
    (run : (c.readSome len).runOn s = (.ok (r, c'), s'))
    (noted : s'.trace = es.reverse ++ s.trace) : c.ReadPlainly len es r c' :=
  (readSome_readPlainly wf len s).of_noted run noted

/-- **On a punctual host** a plain read of a channel that polls fails with a number, and never by a
timeout. -/
theorem readSome_errno [Host.Punctual κ] (wf : c.WellFormed) {scope : Scope}
    (polls : c.waiter = .polling scope) {e : StandardError} {s s' : System κ}
    (run : (c.readSome len).runOn s = (.ok (.error e, c'), s')) : ∃ x, e = .errno x := by
  obtain ⟨es, reaches, plain⟩ := (readSome_readPlainly wf len s).of_ok run
  obtain ⟨_, _, x, _, is⟩ := plain.patient scope polls (reaches.host.untimed_not_mem c.fd) e rfl
  exact ⟨_, is⟩

/-! A pipe that has the first read of its byte wait, and fails the second. -/

/-- The kernel of the pipe, and its descriptor. -/
def balkingPipe : System Simulation.Kernel where
  host :=
    { nodes := [("p", {
        body := .stream { unread := [7] }
        script := [(.read, { errno? := some .wouldBlock }), (.read, { errno? := some ⟨5⟩ })] })]
      descriptors := [(3, { node := "p", flags := { access := .readWrite } })] }
  budget := 40

/-- What passes in a plain read of it. -/
def balks : Dialogue :=
  [Descriptor.reading 3 4 (.error .wouldBlock), ⟨.poll 3 .readable none, Polled.ready⟩,
    Descriptor.reading 3 4 (.error ⟨5⟩)]

/-- The pipe after that read. -/
def balked : System Simulation.Kernel := ((idleChannel.readSome 2).runOn balkingPipe).2

/-- The channel after the read that brings the byte. -/
def fedChannel : Channel := { idleChannel with input := ⟨[7, 0, 0, 0], 0, 0⟩ }

theorem readSome_returned_balkingPipe :
    (idleChannel.ReadPlainly 2 balks (.error (.errno ⟨5⟩)) idleChannel ∧
        ∃ before size x, balks = before ++ [Descriptor.reading 3 size (.error x)] ∧
          StandardError.errno ⟨5⟩ = .errno x.recognized) ∧
      idleChannel.ReadPlainly 2 [Descriptor.reading 3 4 (.ok [7])] (.ok [7]) fedChannel := by
  have failed : (idleChannel.readSome 2).runOn balkingPipe =
      (.ok (.error (.errno ⟨5⟩), idleChannel), balked) := by cbv
  have brought : (idleChannel.readSome 2).runOn balked =
      (.ok (.ok [7], fedChannel), ((idleChannel.readSome 2).runOn balked).2) := by cbv
  have plain : idleChannel.ReadPlainly 2 balks (.error (.errno ⟨5⟩)) idleChannel :=
    readSome_returned idleChannel_wellFormed failed (by cbv)
  have untimed (direction : Direction) : ⟨.poll 3 direction none, Polled.timedOut⟩ ∉ balks := by
    intro taken
    simp only [balks, List.mem_cons, List.not_mem_nil, or_false] at taken
    rcases taken with read | polled | read
    · cases read
    · cases polled
    · cases read
  exact ⟨⟨plain, plain.patient .shared rfl untimed _ rfl⟩,
    readSome_returned idleChannel_wellFormed brought (by cbv)⟩

end Channel

end BufferedChannels
