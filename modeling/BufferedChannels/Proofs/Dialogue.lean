import BufferedChannels.System

/-!
# Proofs/Dialogue — what passes between a computation and its host

A `Dialogue` is a list of exchanges, oldest first.  Two readings of it matter for the flow of bytes:
`accepted`, what a descriptor took from writes, and `delivered`, what it gave to reads.  Both turn
concatenation into concatenation, so **a claim about a long dialogue is the sum of claims about its
parts**.  `System.Reaches` says that a system gets from one state to another by a dialogue.
-/

namespace BufferedChannels

namespace Exchange

/-- The bytes that a descriptor took. -/
def acceptedOn (fd : Int) : Exchange → Bytes
  | ⟨.write target data, .ok n⟩ => if target = fd then data.take n else []
  | _ => []

/-- The bytes that a descriptor gave. -/
def deliveredOn (fd : Int) : Exchange → Bytes
  | ⟨.read source _, .ok bytes⟩ => if source = fd then bytes else []
  | _ => []

/-- **Whether an exchange only waits**, by a poll or through the scheduler. -/
def isSuspension (e : Exchange) : Bool :=
  match e.request with
  | .poll .. | .wait .. => true
  | _ => false

/-- **A moderate exchange** moves at most as many bytes as were asked for. -/
def Moderate : Exchange → Prop
  | ⟨.read _ len, .ok bytes⟩ => bytes.length ≤ len
  | ⟨.write _ data, .ok n⟩ => n ≤ data.length
  | _ => True

/-- An exchange that moves no bytes whatever its reply. -/
def isStill (e : Exchange) : Bool :=
  match e.request with
  | .read .. | .write .. => false
  | _ => true

/-- The error of a read or a write. -/
def failure? : Exchange → Option Errno
  | ⟨.read .., .error x⟩ => some x
  | ⟨.write .., .error x⟩ => some x
  | _ => none

theorem acceptedOn_of_isStill {fd : Int} {e : Exchange} (h : e.isStill = true) :
    e.acceptedOn fd = [] := by
  obtain ⟨request, reply⟩ := e
  cases request <;> first | rfl | cases h

theorem deliveredOn_of_isStill {fd : Int} {e : Exchange} (h : e.isStill = true) :
    e.deliveredOn fd = [] := by
  obtain ⟨request, reply⟩ := e
  cases request <;> first | rfl | cases h

theorem failure?_of_isStill {e : Exchange} (h : e.isStill = true) : e.failure? = none := by
  obtain ⟨request, reply⟩ := e
  cases request <;> first | rfl | cases h

theorem isStill_of_isSuspension {e : Exchange} (h : e.isSuspension = true) : e.isStill = true := by
  obtain ⟨request, reply⟩ := e
  cases request <;> first | rfl | cases h

@[simp] theorem acceptedOn_write_ok (fd : Int) (data : Bytes) (n : Nat) :
    acceptedOn fd ⟨.write fd data, .ok n⟩ = data.take n := if_pos rfl

@[simp] theorem deliveredOn_read_ok (fd : Int) (len : Nat) (bytes : Bytes) :
    deliveredOn fd ⟨.read fd len, .ok bytes⟩ = bytes := if_pos rfl

end Exchange

/-- **A dialogue**: exchanges with the host, oldest first. -/
abbrev Dialogue := List Exchange

namespace Dialogue

/-- **The bytes that a descriptor took**, in the order in which it took them. -/
def accepted (fd : Int) (es : Dialogue) : Bytes := es.flatMap (Exchange.acceptedOn fd)

/-- **The bytes that a descriptor gave**, in the order in which it gave them. -/
def delivered (fd : Int) (es : Dialogue) : Bytes := es.flatMap (Exchange.deliveredOn fd)

variable {fd : Int} {es : Dialogue}

@[simp] theorem accepted_nil : accepted fd [] = [] := rfl

@[simp] theorem delivered_nil : delivered fd [] = [] := rfl

@[simp] theorem accepted_cons (e : Exchange) :
    accepted fd (e :: es) = e.acceptedOn fd ++ accepted fd es := List.flatMap_cons

@[simp] theorem delivered_cons (e : Exchange) :
    delivered fd (e :: es) = e.deliveredOn fd ++ delivered fd es := List.flatMap_cons

@[simp] theorem accepted_append (es es' : Dialogue) :
    accepted fd (es ++ es') = accepted fd es ++ accepted fd es' := List.flatMap_append

@[simp] theorem delivered_append (es es' : Dialogue) :
    delivered fd (es ++ es') = delivered fd es ++ delivered fd es' := List.flatMap_append

theorem accepted_eq_nil (h : ∀ e ∈ es, e.acceptedOn fd = []) : accepted fd es = [] :=
  List.flatMap_eq_nil_iff.2 h

theorem delivered_eq_nil (h : ∀ e ∈ es, e.deliveredOn fd = []) : delivered fd es = [] :=
  List.flatMap_eq_nil_iff.2 h

/-- Exchanges that move no bytes have none accepted. -/
theorem accepted_of_still (h : ∀ e ∈ es, e.isStill = true) : accepted fd es = [] :=
  accepted_eq_nil fun e he => Exchange.acceptedOn_of_isStill (h e he)

/-- …and none delivered. -/
theorem delivered_of_still (h : ∀ e ∈ es, e.isStill = true) : delivered fd es = [] :=
  delivered_eq_nil fun e he => Exchange.deliveredOn_of_isStill (h e he)

/-- **Every exchange is moderate.** -/
def Moderate (es : Dialogue) : Prop := ∀ e ∈ es, e.Moderate

theorem moderate_nil : Moderate [] := List.forall_mem_nil _

theorem Moderate.left {es es' : Dialogue} (h : Moderate (es ++ es')) : es.Moderate :=
  fun e he => h e (List.mem_append_left _ he)

theorem Moderate.right {es es' : Dialogue} (h : Moderate (es ++ es')) : es'.Moderate :=
  fun e he => h e (List.mem_append_right _ he)

end Dialogue

/-! ## Hosts that a dialogue leads through -/

variable {κ : Type} [Host κ]

/-- **A dialogue leads a host** to another when the host gives each reply in turn; memory may be
asked for at any time, and that is no exchange. -/
inductive Host.Leads : κ → Dialogue → κ → Prop
  | nil (k : κ) : Leads k [] k
  | cons {k k' : κ} {es : Dialogue} (r : Request) :
      Leads (Host.answer k r).2 es k' → Leads k (⟨r, (Host.answer k r).1⟩ :: es) k'
  | allocate {k k' : κ} {es : Dialogue} : Leads (Host.allocate k).2 es k' → Leads k es k'

namespace Host.Leads

variable {k k' k'' : κ} {es es' : Dialogue}

theorem single (k : κ) (r : Request) :
    Leads k [⟨r, (Host.answer k r).1⟩] (Host.answer k r).2 := .cons r (.nil _)

theorem append (h : Leads k es k') (h' : Leads k' es' k'') : Leads k (es ++ es') k'' := by
  induction h with
  | nil => exact h'
  | cons r _ ih => exact .cons r (ih h')
  | allocate _ ih => exact .allocate (ih h')

/-- A dialogue of two parts leads by the first to where the second begins. -/
theorem split (h : Leads k (es ++ es') k'') : ∃ k', Leads k es k' ∧ Leads k' es' k'' := by
  generalize whole : es ++ es' = all at h
  induction h generalizing es with
  | nil k =>
    obtain ⟨rfl, rfl⟩ := List.append_eq_nil_iff.1 whole
    exact ⟨k, .nil k, .nil k⟩
  | @cons k k'' all r rest ih =>
    rcases es with _ | ⟨e, es⟩
    · obtain rfl : es' = _ := whole
      exact ⟨k, .nil k, .cons r rest⟩
    · obtain ⟨rfl, tail⟩ := List.cons.inj whole
      obtain ⟨k', before, after⟩ := ih tail
      exact ⟨k', .cons r before, after⟩
  | allocate _ ih =>
    obtain ⟨k', before, after⟩ := ih whole
    exact ⟨k', .allocate before, after⟩

/-- **The first exchange of a dialogue** is with a host that only allocations lie before; what they
leave alone still holds of it. -/
theorem next {P : κ → Prop} (stable : ∀ k, P k → P (Host.allocate k).2) {e : Exchange}
    (h : Leads k (e :: es) k') (start : P k) :
    ∃ k₁ r, P k₁ ∧ e = ⟨r, (Host.answer k₁ r).1⟩ ∧ Leads (Host.answer k₁ r).2 es k' := by
  generalize whole : e :: es = all at h
  induction h with
  | nil => cases whole
  | cons r rest _ =>
    cases whole
    exact ⟨_, r, start, rfl, rest⟩
  | @allocate k _ _ _ ih => exact ih (stable k start) whole

/-- Where no exchange is made, what allocations leave alone still holds. -/
theorem stays {P : κ → Prop} (stable : ∀ k, P k → P (Host.allocate k).2) (h : Leads k [] k')
    (start : P k) : P k' := by
  generalize whole : [] = all at h
  induction h with
  | nil => exact start
  | cons => cases whole
  | @allocate k _ _ _ ih => exact ih (stable k start) whole

/-- **The exchanges of a bounded host are moderate.** -/
theorem moderate [Host.Bounded κ] (h : Leads k es k') : es.Moderate := by
  induction h with
  | nil => exact Dialogue.moderate_nil
  | allocate _ ih => exact ih
  | @cons k k' es r _ ih =>
    refine List.forall_mem_cons.2 ⟨?_, ih⟩
    cases r with
    | read fd len =>
      rcases hr : Host.answer k (.read fd len) with ⟨_ | bytes, k₁⟩
      · trivial
      · exact Host.Bounded.length_read k fd len bytes k₁ hr
    | write fd data =>
      rcases hr : Host.answer k (.write fd data) with ⟨_ | n, k₁⟩
      · trivial
      · exact Host.Bounded.write_le k fd data n k₁ hr
    | _ => trivial

end Host.Leads

/-! ## Systems that a dialogue leads through -/

/-- **A system reaches another by a dialogue**: the dialogue is noted, its host is led along and its
budget pays for it.  The journal and the owners of descriptors are free to change. -/
structure System.Reaches (s : System κ) (es : Dialogue) (s' : System κ) : Prop where
  trace : s'.trace = es.reverse ++ s.trace
  host : Host.Leads s.host es s'.host
  budget : es.length + s'.budget = s.budget
  environment : s'.environment = s.environment
  bufferLength : s'.bufferLength = s.bufferLength

namespace System.Reaches

variable {s s' s'' : System κ} {es es' : Dialogue}

theorem refl (s : System κ) : s.Reaches [] s := ⟨rfl, .nil _, Nat.zero_add _, rfl, rfl⟩

theorem trans (h : s.Reaches es s') (h' : s'.Reaches es' s'') : s.Reaches (es ++ es') s'' where
  trace := by rw [h'.trace, h.trace, List.reverse_append, List.append_assoc]
  host := h.host.append h'.host
  budget := by
    have := h.budget
    have := h'.budget
    rw [List.length_append]
    omega
  environment := h'.environment.trans h.environment
  bufferLength := h'.bufferLength.trans h.bufferLength

/-- **The dialogue between two systems is determined** by what both have noted. -/
theorem eq_of_trace (h : s.Reaches es s') (h' : s'.trace = es'.reverse ++ s.trace) : es = es' :=
  List.reverse_inj.1 (List.append_cancel_right (h.trace.symm.trans h'))

end System.Reaches

end BufferedChannels
