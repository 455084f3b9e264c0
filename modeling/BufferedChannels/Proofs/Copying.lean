import BufferedChannels.Concatenate
import BufferedChannels.Proofs.Completion
import BufferedChannels.Proofs.Inventory
import BufferedChannels.Proofs.Reading
import BufferedChannels.Proofs.Writing

/-!
# Proofs/Copying — what a copy does, whatever puts its calls off

A transfer that is interrupted, cut short or told to wait goes on until it has what it is for, since
each of these uses something up (`readBetween_completes`, `send_completes`).  So a copy comes to its
end, and what its destination has and will have is **what it had and then what the source gives**
(`copyAll_gives`).
-/

namespace BufferedChannels

open Simulation Simulation.Kernel

/-- **A system with a stock**, and with owners of descriptors. -/
structure System.Stocked (s : System Kernel) (x : Stock) (owners : Scope → Ownership) : Prop where
  inventory : s.host.Inventory x
  ownership : s.ownership = owners

variable {s : System Kernel} {x x' : Stock} {owners : Scope → Ownership} {fd : Int} {src : Handle}
  {share : Except ChannelError Bytes} {messages : List (Log.Level × String)} {α : Type}

namespace System.Stocked

/-! ## Requests -/

/-- **A request and what follows its reply.** -/
theorem request (h : s.Stocked x owners) {r : Request}
    (elsewhere : ∀ reply, Exchange.standardErrorBytes ⟨r, reply⟩ = [])
    {next : r.Reply → Act Kernel α} {returns : α → System Kernel → Prop}
    (rest : ∀ reply s', s.Tells [] s' → s.host.answer r = (reply, s'.host) →
      s'.ownership = owners → (next reply).Reports s' messages returns) :
    (Act.call r >>= next).Reports s messages returns := by
  refine (Act.completes_call r elsewhere).bind fun reply s' tells ⟨is, host, same⟩ => ?_
  refine rest reply s' tells ?_ (same.trans h.ownership)
  rw [is, host]
  rfl

/-- **A request with one reply**, and what follows it. -/
theorem ask (h : s.Stocked x owners) {r : Request}
    (elsewhere : ∀ reply, Exchange.standardErrorBytes ⟨r, reply⟩ = []) {reply : r.Reply}
    {k : Kernel} (answers : s.host.answer r = (reply, k)) (after : k.Inventory x')
    {next : r.Reply → Act Kernel α} {returns : α → System Kernel → Prop}
    (rest : ∀ s', s.Tells [] s' → s'.Stocked x' owners →
      (next reply).Reports s' messages returns) :
    (Act.call r >>= next).Reports s messages returns := by
  refine h.request elsewhere fun reply' s' tells is same => ?_
  obtain ⟨rfl, host⟩ := Prod.mk.inj (is.symm.trans answers)
  exact rest s' tells ⟨host ▸ after, same⟩

theorem log (h : s.Stocked x owners) (level : Log.Level) (message : String)
    (low : s.Hushed → Log.Level.info.rank < level.rank) :
    (Act.log level message : Act Kernel Unit).Completes s fun _ s' =>
      s'.host = s.host ∧ s'.Stocked x owners :=
  (Act.completes_log level message low).mono fun _ _ _ ⟨host, same⟩ =>
    ⟨host, host ▸ h.inventory, same.trans h.ownership⟩

/-- Lines for those who look for faults. -/
theorem trace (h : s.Stocked x owners) (message : String) :
    (Act.log .trace message : Act Kernel Unit).Completes s fun _ s' =>
      s'.host = s.host ∧ s'.Stocked x owners :=
  h.log .trace message fun _ => by decide

/-! ## Single transfers -/

/-- **How one read ends** that is made again while it is interrupted, with so much in store at its
start. -/
inductive Fetches (n : Nat) (x : Stock) (owners : Scope → Ownership) (fd : Int) (src : Handle)
    (len : Nat) : Except ChannelError Bytes → Attempt Bytes → System Kernel → Prop
  | stalled {share : Except ChannelError Bytes} {s' : System Kernel} (after : s'.Stocked x owners)
      (le : s'.host.store ≤ n)
      (why : s'.host.store < n ∨ s'.host.Unready src.file.node .readable) :
      Fetches n x owners fd src len share .mustWait s'
  | failed {e : Errno} {s' : System Kernel} (after : s'.Stocked x owners) :
      Fetches n x owners fd src len (.error (.ofErrno e)) (.failed e) s'
  | brought {rest bytes : Bytes} {s' : System Kernel} (first : bytes <+: rest)
      (within : bytes.length ≤ len) (some : bytes = [] → rest = [])
      (after : s'.Stocked (x.put fd (src.skip bytes.length)) owners) (le : s'.host.store ≤ n) :
      Fetches n x owners fd src len (.ok rest) (.moved bytes) s'

theorem read (h : s.Stocked x owners) (has : x.Has fd src) (gives : src.Gives share) {len : Nat}
    (pos : 0 < len) :
    (Descriptor.read fd len).Completes s (Fetches s.host.store x owners fd src len share) := by
  refine Act.completes_loop
    (fun _ t => t.Stocked x owners ∧ t.host.store ≤ s.host.store) (fun _ t => t.host.store)
    ⟨h, Nat.le_refl _⟩ fun _ t ⟨stocked, le⟩ => ?_
  refine stocked.request (r := .read fd len) (fun _ => rfl) fun reply t' _ is same => ?_
  have reads := stocked.inventory.read has gives pos
  rw [show t.host.read fd len = (reply, t'.host) from is] at reads
  cases reads with
  | interrupted kept less =>
    exact Act.completes_pure ⟨⟨⟨kept, same⟩, by omega⟩, less⟩
  | stalled kept le' why =>
    refine Act.completes_pure (Fetches.stalled ⟨kept, same⟩ (by omega) ?_)
    exact why.imp_left fun less => Nat.lt_of_lt_of_le less le
  | failed final kept =>
    obtain rfl | rfl := final
    · exact Act.completes_pure (Fetches.failed ⟨kept, same⟩)
    · exact Act.completes_pure (Fetches.failed ⟨kept, same⟩)
  | brought first within some kept le' =>
    exact Act.completes_pure (Fetches.brought first within some ⟨kept, same⟩ (by omega))

/-- **How one write ends** that is made again while it is interrupted. -/
inductive Sends (n : Nat) (x : Stock) (owners : Scope → Ownership) (fd : Int) (snk : Handle)
    (data : Bytes) : Attempt Nat → System Kernel → Prop
  | stalled {s' : System Kernel} (after : s'.Stocked x owners) (le : s'.host.store ≤ n)
      (why : s'.host.store < n ∨ s'.host.Unready snk.file.node .writable) :
      Sends n x owners fd snk data .mustWait s'
  | took {count : Nat} {s' : System Kernel} (some : 0 < count) (within : count ≤ data.length)
      (after : s'.Stocked (x.put fd (snk.pour (data.take count))) owners)
      (le : s'.host.store ≤ n) : Sends n x owners fd snk data (.moved count) s'

theorem write (h : s.Stocked x owners) {snk : Handle} (has : x.Has fd snk) {out data : Bytes}
    {most : Nat} (takes : snk.Takes out most) (other : fd ≠ standardError) (more : data ≠ [])
    (fits : out.length + data.length ≤ most) :
    (Descriptor.write fd data).Completes s (Sends s.host.store x owners fd snk data) := by
  refine Act.completes_loop
    (fun _ t => t.Stocked x owners ∧ t.host.store ≤ s.host.store) (fun _ t => t.host.store)
    ⟨h, Nat.le_refl _⟩ fun _ t ⟨stocked, le⟩ => ?_
  refine stocked.request (r := .write fd data) (fun reply => ?_) fun reply t' _ is same => ?_
  · cases reply with
    | error _ => rfl
    | ok n =>
      rw [Exchange.standardErrorBytes]
      exact if_neg other
  have writes := stocked.inventory.write has takes other more fits
  rw [show t.host.write fd data = (reply, t'.host) from is] at writes
  cases writes with
  | interrupted kept less =>
    exact Act.completes_pure ⟨⟨⟨kept, same⟩, by omega⟩, less⟩
  | stalled kept le' why =>
    refine Act.completes_pure (Sends.stalled ⟨kept, same⟩ (by omega) ?_)
    exact why.imp_left fun less => Nat.lt_of_lt_of_le less le
  | took some within kept le' =>
    exact Act.completes_pure (Sends.took some within ⟨kept, same⟩ (by omega))

/-! ## Waits -/

/-- **A wait without a deadline** ends with the descriptor ready, and uses something up if it was
not. -/
theorem wait (h : s.Stocked x owners) (has : x.Has fd src) {direction : Direction}
    (live : src.material.Live direction) (numbered : fd ≠ Waiter.noDescriptor) (scope : Scope) :
    ((Waiter.polling scope).wait fd direction .never).Completes s fun a s' =>
      a = .ready direction ∧ s'.Stocked x owners ∧ s'.host.store ≤ s.host.store ∧
        (s.host.Unready src.file.node direction → s'.host.store < s.host.store) := by
  unfold Waiter.wait
  dsimp only
  rw [if_neg numbered]
  refine Act.completes_loop
    (fun _ t => t.Stocked x owners ∧ (t.host = s.host ∨ t.host.store < s.host.store))
    (fun _ t => t.host.store) ⟨h, .inl rfl⟩ fun _ t ⟨stocked, since⟩ => ?_
  unfold Waiter.pollTurn Act.now
  refine Act.completes_get (fun _ => rfl) ?_
  refine (stocked.trace _).bind fun _ t₁ _ ⟨host, stocked₁⟩ => ?_
  refine stocked₁.request (r := .poll fd direction none) (fun _ => rfl) fun reply t₂ _ is same => ?_
  have polls := stocked₁.inventory.poll has live
  rw [show t₁.host.poll fd direction none = (reply, t₂.host) from is, host] at polls
  cases polls with
  | interrupted kept less =>
    refine Act.completes_get (fun _ => rfl) ?_
    refine Act.completes_pure ⟨⟨⟨kept, same⟩, .inr ?_⟩, less⟩
    obtain host | less' := since
    · exact host ▸ less
    · exact Nat.lt_trans less less'
  | ready kept le less =>
    refine Act.completes_pure ⟨rfl, ⟨kept, same⟩, ?_⟩
    obtain host | less' := since
    · exact ⟨host ▸ le, fun unready => host ▸ less (host ▸ unready)⟩
    · exact ⟨Nat.le_of_lt (Nat.lt_of_le_of_lt le less'), fun _ => Nat.lt_of_le_of_lt le less'⟩

end System.Stocked

/-- Whether an attempt to read saw the end. -/
def Attempt.seesEnd : Attempt Bytes → Bool
  | .moved bytes => bytes.isEmpty
  | _ => false

namespace Channel

variable {c c' : Channel} {cap : Nat}

/-- **A channel over a descriptor of the stock**, with the waiter that is given by default.  If it
does not wait, then it need not. -/
structure Over (c : Channel) (fd : Int) (m : Material) : Prop where
  number : c.fd = fd
  waiter : c.waiter = defaultWaiter
  numbered : fd ≠ Waiter.noDescriptor
  patient : c.kind.alwaysReady = true → m.isStored = true

theorem Over.reread {m : Material} (h : c.Over fd m) (done : c.Reread c') : c'.Over fd m :=
  ⟨done.fd.trans h.number, done.waiter.trans h.waiter, h.numbered,
    fun ready => h.patient (done.kind ▸ ready)⟩

theorem Over.rewritten {m : Material} (h : c.Over fd m) (done : c.Rewritten c') : c'.Over fd m :=
  ⟨done.fd.trans h.number, done.waiter.trans h.waiter, h.numbered,
    fun ready => h.patient (done.kind ▸ ready)⟩

/-- The descriptor may have moved on. -/
theorem Over.congr {m m' : Material} (h : c.Over fd m) (same : m'.isStored = m.isStored) :
    c.Over fd m' :=
  ⟨h.number, h.waiter, h.numbered, fun ready => same.trans (h.patient ready)⟩

/-- **A call that was stalled** is made again, when something was used up. -/
theorem mayRetry_completes (stocked : s.Stocked x owners) (has : x.Has fd src)
    (onto : c.Over fd src.material) {direction : Direction} (live : src.material.Live direction)
    {n : Nat} (le : s.host.store ≤ n)
    (why : s.host.store < n ∨ s.host.Unready src.file.node direction) :
    (c.mayRetry direction .never).Completes s fun again s' =>
      again = true ∧ s'.Stocked x owners ∧ s'.host.store < n := by
  unfold mayRetry
  by_cases ready : c.kind.alwaysReady = true
  · rw [if_pos ready]
    refine Act.completes_pure ⟨rfl, stocked, why.resolve_right fun unready => ?_⟩
    obtain ⟨node, found, _, fits⟩ := stocked.inventory.carries has
    rw [Unready, found, Option.all_some, fits.ready_of_stored (onto.patient ready)] at unready
    exact absurd unready (by decide)
  · rw [if_neg ready, onto.waiter, onto.number]
    refine ((stocked.wait has live onto.numbered .shared).leaving c).bind
      fun a s' _ waited => ?_
    obtain ⟨rfl, after, le', less⟩ := waited
    unfold Act.require
    dsimp only
    rw [if_pos (decide_eq_true rfl)]
    refine Act.completes_pure ⟨rfl, after, ?_⟩
    obtain less' | unready := why
    · exact Nat.lt_of_le_of_lt le' less'
    · exact Nat.lt_of_lt_of_le (less unready) le

/-! ## Reads of a channel -/

/-- **A channel without anything read ahead**, with a buffer of so many bytes. -/
structure Dry (c : Channel) (cap : Nat) : Prop where
  wellFormed : c.input.WellFormed
  live : c.input.live = []
  capacity : c.input.capacity = cap

/-- **One read into the whole buffer** leaves nothing there. -/
theorem readToward_completes (stocked : s.Stocked x owners) (has : x.Has fd src)
    (gives : src.Gives share) (number : c.fd = fd) (dry : c.Dry cap) (pos : 0 < cap) :
    (c.readToward cap : Act Kernel _).Completes s fun r s' =>
      System.Stocked.Fetches s.host.store x owners fd src cap share r.1 s' ∧ c.Reread r.2 ∧
        r.2.Dry cap ∧ r.2.ended = (c.ended || r.1.seesEnd) := by
  obtain ⟨slot, begins, live, capacity, wf⟩ := ReadAhead.beginRefill_eq dry.wellFormed dry.live
  have whole : slot.capacity = cap := capacity.trans dry.capacity
  subst number
  unfold readToward
  rw [if_neg (Nat.not_lt.2 (Nat.le_of_eq dry.capacity.symm))]
  refine Act.completes_check begins ?_
  rw [whole]
  refine (stocked.read has gives pos).bind fun a s' _ fetches => ?_
  have kept : ({ c with input := slot } : Channel).Dry cap := ⟨wf, live, whole⟩
  rcases a with bytes | _ | e
  · have small : bytes.length ≤ cap := by
      cases fetches with
      | brought _ within => exact within
    obtain ⟨full, loads, brought, capacity', wf'⟩ :=
      ReadAhead.load_eq (b := slot) (Nat.le_trans small (Nat.le_of_eq whole.symm))
    obtain ⟨left, takes, rest, capacity'', wf''⟩ := ReadAhead.take_eq wf' cap
    refine Act.completes_check loads (Act.completes_check takes (Act.completes_pure ?_))
    rw [brought, List.take_of_length_le small]
    have same : left.capacity = c.input.capacity := capacity''.trans (capacity'.trans capacity)
    refine ⟨fetches, ⟨rfl, wf'', same⟩, ⟨wf'', ?_, same.trans dry.capacity⟩, rfl⟩
    exact rest.trans (by rw [brought, List.drop_eq_nil_of_le small])
  · exact Act.completes_pure ⟨fetches, ⟨rfl, wf, capacity⟩, kept, (Bool.or_false _).symm⟩
  · exact Act.completes_pure ⟨fetches, ⟨rfl, wf, capacity⟩, kept, (Bool.or_false _).symm⟩

/-- **How a read of at least one byte ends**: with the first of what there is, or nothing at the
end, or the failure of its descriptor. -/
inductive Hands (x : Stock) (owners : Scope → Ownership) (fd : Int) (src : Handle) (cap : Nat)
    (ended : Bool) : Except ChannelError Bytes → Reading × Channel → System Kernel → Prop
  | bytes {rest bytes : Bytes} {c' : Channel} {s' : System Kernel} (first : bytes <+: rest)
      (within : bytes.length ≤ cap) (some : bytes = [] → rest = [])
      (marked : c'.ended = (ended || bytes.isEmpty))
      (after : s'.Stocked (x.put fd (src.skip bytes.length)) owners) :
      Hands x owners fd src cap ended (.ok rest) (⟨bytes, none⟩, c') s'
  | failure {e : Errno} {c' : Channel} {s' : System Kernel} (after : s'.Stocked x owners) :
      Hands x owners fd src cap ended (.error (.ofErrno e)) (⟨[], some (.ofErrno e)⟩, c') s'

/-- **A read of at least one byte** ends, whatever puts it off. -/
theorem readBetween_completes (stocked : s.Stocked x owners) (has : x.Has fd src)
    (gives : src.Gives share) (onto : c.Over fd src.material) (dry : c.Dry cap) (pos : 0 < cap) :
    (c.readBetween cap 1 cap .never : Act Kernel _).Completes s fun r s' =>
      c.Reread r.2 ∧ r.2.Dry cap ∧ Hands x owners fd src cap c.ended share r s' := by
  obtain ⟨left, takes, rest, capacity, wf⟩ := ReadAhead.take_eq dry.wellFormed cap
  have nothing : c.input.live.take cap = [] := by rw [dry.live, List.take_nil]
  have empty : c.input.len = 0 := (ReadAhead.live_eq_nil_iff dry.wellFormed).1 dry.live
  have dry' : { c with input := left }.Dry cap :=
    ⟨wf, by rw [rest, dry.live, List.drop_nil], capacity.trans dry.capacity⟩
  unfold readBetween
  rw [if_neg (Nat.not_lt.2 pos), if_neg (Nat.lt_irrefl cap)]
  unfold receive
  refine Act.completes_check (window_eq (Nat.zero_le _) (Nat.le_refl _))
    (Act.completes_check takes ?_)
  dsimp only
  rw [liveCount, empty, if_neg (by decide), nothing]
  -- The loop looks for bytes until there are some, and ends at the next turn.
  refine Act.completes_loop
    (fun y t => c.Reread y.2 ∧ y.2.Dry cap ∧
      (y.1 = [] ∧ y.2.ended = c.ended ∧ t.Stocked x owners ∨
        y.1 ≠ [] ∧ Hands x owners fd src cap c.ended share (⟨y.1, none⟩, y.2) t))
    (fun y t => t.host.store + if y.1 = [] then 1 else 0)
    ⟨⟨rfl, wf, capacity⟩, dry', .inl ⟨rfl, rfl, stocked⟩⟩ fun y t ⟨reread, drained, so⟩ => ?_
  obtain ⟨received, c₁⟩ := y
  dsimp only at reread drained so
  unfold readTurn
  dsimp only
  obtain ⟨rfl, unmarked, stocked₁⟩ | ⟨some, hands⟩ := so
  · rw [if_neg (by decide)]
    refine Act.completes_check (window_eq (Nat.zero_le _) (Nat.le_refl _)) ?_
    refine (readToward_completes stocked₁ has gives (reread.fd.trans onto.number) drained pos).bind
      fun r t₁ _ ⟨fetches, reread', drained', marked⟩ => ?_
    obtain ⟨outcome, c₂⟩ := r
    dsimp only at fetches reread' drained' marked
    have reread := reread.trans reread'
    rw [unmarked] at marked
    cases fetches with
    | stalled after le why =>
      have onto₂ : c₂.Over fd src.material := onto.reread reread
      refine (mayRetry_completes after has onto₂ gives.live le why).bind
        fun again t₂ _ ⟨is, after, less⟩ => ?_
      subst is
      refine Act.completes_pure
        ⟨⟨reread, drained', .inl ⟨rfl, marked.trans (Bool.or_false _), after⟩⟩, ?_⟩
      exact Nat.add_lt_add_right less 1
    | failed after => exact Act.completes_pure ⟨reread, drained', .failure after⟩
    | @brought rest bytes _ first within some after le =>
      cases bytes with
      | nil => exact Act.completes_pure ⟨reread, drained', .bytes first within some marked after⟩
      | cons byte bytes =>
        refine Act.completes_pure
          ⟨⟨reread, drained', .inr ⟨nofun, .bytes first within some marked after⟩⟩, ?_⟩
        exact Nat.lt_succ_of_le le
  · rw [if_pos (Nat.one_le_iff_ne_zero.2 (mt List.length_eq_zero_iff.1 some))]
    exact Act.completes_pure ⟨reread, drained, hands⟩

/-! ## Writes of a channel -/

/-- **A channel that writes to a descriptor of the stock**, with a buffer of so many bytes. -/
structure Pours (c : Channel) (fd : Int) (cap : Nat) (m : Material) : Prop extends
    c.Over fd m where
  wellFormed : c.output.WellFormed
  capacity : c.output.capacity = cap
  other : fd ≠ standardError

variable {snk : Handle} {out : Bytes} {most : Nat}

theorem Pours.rewritten {m : Material} (h : c.Pours fd cap m) (done : c.Rewritten c') :
    c'.Pours fd cap m :=
  ⟨h.toOver.rewritten done, done.wellFormed, done.capacity.trans h.capacity, h.other⟩

theorem Pours.congr {m m' : Material} (h : c.Pours fd cap m) (same : m'.isStored = m.isStored) :
    c.Pours fd cap m' :=
  ⟨h.toOver.congr same, h.wellFormed, h.capacity, h.other⟩

/-- **Bytes that are sent** are put behind what was taken, whatever puts that off. -/
theorem send_completes (stocked : s.Stocked x owners) (has : x.Has fd snk)
    (takes : snk.Takes out most) (onto : c.Over fd snk.material) (other : fd ≠ standardError)
    (data : Bytes) (fits : out.length + data.length ≤ most) :
    (c.send data .never).Completes s fun r s' =>
      r = (data.length, none) ∧ s'.Stocked (x.put fd (snk.pour data)) owners := by
  refine Act.completes_loop
    (fun sent t => sent ≤ data.length ∧
      t.Stocked (x.put fd (snk.pour (data.take sent))) owners)
    (fun sent t => data.length - sent + t.host.store) ⟨Nat.zero_le _, ?_⟩
    fun sent t ⟨within, stocked⟩ => ?_
  · rwa [List.take_zero, Handle.pour_nil, Stock.put_of_has has]
  unfold sendTurn
  by_cases all : data.length ≤ sent
  · rw [if_pos all]
    obtain rfl := Nat.le_antisymm within all
    rw [List.take_length] at stocked
    exact Act.completes_pure ⟨rfl, stocked⟩
  have more : data.drop sent ≠ [] := fun none => all (List.drop_eq_nil_iff.1 none)
  have has' := x.has_put fd (snk.pour (data.take sent))
  have takes' := takes.pour (data.take sent)
  have fits' : (out ++ data.take sent).length + (data.drop sent).length ≤ most := by
    rw [List.length_append, List.length_take, List.length_drop]
    omega
  rw [if_neg all, onto.number]
  refine Act.completes_check (if_pos within) ?_
  refine (stocked.write has' takes' other more fits').bind fun attempt t₁ _ sends => ?_
  cases sends with
  | stalled after le why =>
    have live := takes'.live (by
      have := List.length_pos_iff.2 more
      omega)
    refine (mayRetry_completes after has' (onto.congr (snk.isStored_pour _)) live le why).bind
      fun again t₂ _ ⟨is, after, less⟩ => ?_
    subst is
    exact Act.completes_pure ⟨⟨within, after⟩, Nat.add_lt_add_left less _⟩
  | @took count _ some within' after le =>
    rw [List.length_drop] at within'
    refine Act.completes_pure ⟨⟨by omega, ?_⟩, by omega⟩
    rwa [Stock.put_put x fd (Handle.node_pour ..), Handle.pour_pour, ← List.take_add] at after

theorem flush_completes (stocked : s.Stocked x owners) (has : x.Has fd snk)
    (takes : snk.Takes out most) (pours : c.Pours fd cap snk.material)
    (fits : out.length + c.output.pending.length ≤ most) :
    (c.flush .never).Completes s fun r s' => r.1 = .ok () ∧ c.Rewritten r.2 ∧
      r.2.output.pending = [] ∧ s'.Stocked (x.put fd (snk.pour c.output.pending)) owners := by
  unfold flush
  by_cases empty : c.output.isEmpty = true
  · have none : c.output.pending = [] := by
      have len : c.output.len = 0 := eq_of_beq empty
      rw [WriteBehind.pending, len, List.take_zero]
    rw [if_pos empty]
    refine Act.completes_pure ⟨rfl, .refl pours.wellFormed, none, ?_⟩
    rwa [none, Handle.pour_nil, Stock.put_of_has has]
  · rw [if_neg empty]
    refine (send_completes stocked has takes pours.toOver pours.other _ fits).bind
      fun r s' _ sent => ?_
    obtain ⟨rfl, after⟩ := sent
    refine (after.trace _).bind fun _ s'' _ traced => ?_
    obtain ⟨_, after⟩ := traced
    exact Act.completes_pure
      ⟨rfl, ⟨rfl, WriteBehind.wellFormed_clear _, rfl⟩, WriteBehind.pending_clear _, after⟩

theorem collect_completes (stocked : s.Stocked x owners) (wf : c.output.WellFormed)
    {data : Bytes} (room : c.output.hasRoom data.length = true) :
    (c.collect data).Completes s fun r s' => r.1 = .ok data.length ∧ c.Rewritten r.2 ∧
      r.2.output.pending = c.output.pending ++ data ∧ s'.Stocked x owners := by
  obtain ⟨more, appends, pending, capacity, wf⟩ := WriteBehind.append_eq wf room
  exact Act.completes_check appends
    (Act.completes_pure ⟨rfl, ⟨rfl, wf, capacity⟩, pending, stocked⟩)

/-- **Data that the buffer can hold** is accepted, and stands behind all that was. -/
theorem write_completes (stocked : s.Stocked x owners) (has : x.Has fd snk)
    (takes : snk.Takes out most) (pours : c.Pours fd cap snk.material) {data : Bytes}
    (small : data.length ≤ cap) (fits : out.length + c.output.pending.length ≤ most) :
    (c.write data .never).Completes s fun r s' => r.1 = .ok data.length ∧ c.Rewritten r.2 ∧
      ∃ sent, sent ++ r.2.output.pending = c.output.pending ++ data ∧
        s'.Stocked (x.put fd (snk.pour sent)) owners := by
  unfold write
  by_cases room : c.output.hasRoom data.length = true
  · rw [if_pos room]
    refine (collect_completes stocked pours.wellFormed room).mono
      fun r s' _ ⟨is, done, pending, after⟩ => ⟨is, done, [], pending, ?_⟩
    rwa [Handle.pour_nil, Stock.put_of_has has]
  · rw [if_neg room]
    refine (flush_completes stocked has takes pours fits).bind
      fun r s' _ ⟨is, done, pending, after⟩ => ?_
    obtain ⟨result, c'⟩ := r
    subst is
    have pours' := pours.rewritten done
    have room : c'.output.hasRoom data.length = true := by
      have none : c'.output.len = 0 := by
        rw [← WriteBehind.length_pending pours'.wellFormed, pending]
        rfl
      rw [WriteBehind.hasRoom_iff pours'.wellFormed, none, Nat.zero_add, pours'.capacity]
      exact small
    dsimp only
    rw [if_pos room]
    refine (collect_completes after pours'.wellFormed room).mono
      fun r s'' _ ⟨is, done', pending', after'⟩ => ⟨is, done.trans done', _, ?_, after'⟩
    rw [pending', show c'.output.pending = [] from pending, List.nil_append]

end Channel

namespace Concatenate

/-! ## Copies -/

/-- The bytes that there are. -/
def copied (share : Except ChannelError Bytes) : Bytes := share.toOption.getD []

/-- **Where a copy begins**: two descriptors of the stock on different nodes, one that gives bytes
and one that takes them, each with its channel. -/
structure Ready (x : Stock) (fd fd' : Int) (src snk : Handle) (source sink : Channel) (cap : Nat)
    (out : Bytes) (most : Nat) : Prop where
  has : x.Has fd src
  has' : x.Has fd' snk
  other : fd ≠ fd'
  apart : src.file.node ≠ snk.file.node
  onto : source.Over fd src.material
  dry : source.Dry cap
  unmarked : source.ended = false
  takes : snk.Takes out most
  pours : sink.Pours fd' cap snk.material
  pos : 0 < cap

variable {fd' : Int} {snk : Handle} {source sink : Channel} {cap : Nat} {out : Bytes} {most : Nat}

/-- **The stock after a part of a copy**: bytes were read from the one descriptor and sent to the
other. -/
def carried (x : Stock) (fd fd' : Int) (src snk : Handle) (done sent : Bytes) : Stock :=
  (x.put fd (src.skip done.length)).put fd' (snk.pour sent)

theorem carried_read (x : Stock) (other : fd ≠ fd') (apart : src.file.node ≠ snk.file.node)
    (done sent bytes : Bytes) :
    (carried x fd fd' src snk done sent).put fd ((src.skip done.length).skip bytes.length) =
      carried x fd fd' src snk (done ++ bytes) sent := by
  unfold carried
  rw [Handle.skip_skip, ← Stock.put_comm _ other (by simpa using apart),
    Stock.put_put _ _ (by simp), List.length_append]

theorem carried_sent (x : Stock) (fd fd' : Int) (src snk : Handle) (done sent more : Bytes) :
    (carried x fd fd' src snk done sent).put fd' ((snk.pour sent).pour more) =
      carried x fd fd' src snk done (sent ++ more) := by
  unfold carried
  rw [Handle.pour_pour, Stock.put_put _ _ (by simp)]

/-- **A copy that is under way**: some bytes were read, and they stand behind what the destination
had and was to have. -/
structure Underway (x : Stock) (owners : Scope → Ownership) (fd fd' : Int) (src snk : Handle)
    (source sink : Channel) (cap : Nat) (done left : Bytes) (copy : Copy) (t : System Kernel) :
    Prop where
  fetches : source.Reread copy.source
  dry : copy.source.Dry cap
  passes : sink.Rewritten copy.sink
  total : copy.total = done.length
  sent : ∃ sent, sent ++ copy.sink.output.pending = sink.output.pending ++ done ∧
    t.Stocked (carried x fd fd' src snk done sent) owners
  ended : copy.source.ended = true → left = []

/-- **One turn of a copy** brings the next bytes, or the end. -/
theorem copyTurn_completes (ready : Ready x fd fd' src snk source sink cap out most)
    {done left : Bytes} {copy : Copy} (gives : src.Gives (.ok (done ++ left)))
    (fits : out.length + sink.output.pending.length + (done ++ left).length ≤ most)
    (under : Underway x owners fd fd' src snk source sink cap done left copy s)
    (goesOn : copy.source.ended = false) :
    (copyTurn cap copy).Completes s fun r s' => ∃ bytes rest copy', r = .inl copy' ∧
      left = bytes ++ rest ∧ (copy'.source.ended = true ∨ bytes ≠ []) ∧
      Underway x owners fd fd' src snk source sink cap (done ++ bytes) rest copy' s' := by
  obtain ⟨sent, order, stocked⟩ := under.sent
  have nodes : (src.skip done.length).file.node ≠ (snk.pour sent).file.node := by
    rw [Handle.node_skip, Handle.node_pour]
    exact ready.apart
  have has : (carried x fd fd' src snk done sent).Has fd (src.skip done.length) :=
    (Stock.has_put ..).put_other ready.other nodes
  have gives' : (src.skip done.length).Gives (.ok ((done ++ left).drop done.length)) :=
    gives.skip done.length
  rw [List.drop_left] at gives'
  unfold copyTurn
  rw [if_neg (Bool.eq_false_iff.1 goesOn)]
  refine (Channel.readBetween_completes stocked has gives'
    ((ready.onto.reread under.fetches).congr (src.isStored_skip _)) under.dry ready.pos).bind
    fun r s₁ _ ⟨reread, dry, hands⟩ => ?_
  obtain ⟨reading, c⟩ := r
  cases hands with
  | @bytes _ bytes _ _ first within some marked after =>
    obtain ⟨rest, rfl⟩ := first
    rw [carried_read x ready.other ready.apart] at after
    have room : (out ++ sent).length + copy.sink.output.pending.length ≤ most := by
      have lengths := congrArg List.length order
      simp only [List.length_append] at lengths fits ⊢
      omega
    refine (Channel.write_completes after (Stock.has_put ..) (ready.takes.pour sent)
      ((ready.pours.rewritten under.passes).congr (snk.isStored_pour _)) within room).bind
      fun r s₂ _ ⟨is, rewritten, more, order', after'⟩ => ?_
    obtain ⟨result, c'⟩ := r
    subst is
    rw [goesOn, Bool.false_or] at marked
    rw [carried_sent] at after'
    refine Act.completes_pure ⟨bytes, rest, _, rfl, rfl, ?_, under.fetches.trans reread, dry,
      under.passes.trans rewritten, ?_, ⟨sent ++ more, ?_, after'⟩, fun seen => ?_⟩
    · by_cases none : bytes = []
      · exact .inl (marked.trans (List.isEmpty_iff.2 none))
      · exact .inr none
    · rw [under.total, List.length_append]
    · rw [List.append_assoc, order', ← List.append_assoc, order, List.append_assoc]
    · -- The source ends where nothing was left.
      have none : bytes = [] := List.isEmpty_iff.1 (marked.symm.trans seen)
      exact (List.append_eq_nil_iff.1 (some none)).2

/-- **A copy of what there is** comes to its end: the destination has and will have what it had and
was to have, and then the bytes of the source. -/
theorem copyAll_completes (ready : Ready x fd fd' src snk source sink cap out most) {bytes : Bytes}
    (gives : src.Gives (.ok bytes)) (stocked : s.Stocked x owners) (length : s.bufferLength = cap)
    (fits : out.length + sink.output.pending.length + bytes.length ≤ most) :
    (copyAll source sink).Completes s fun r s' => r.1 = .ok bytes.length ∧
      source.Reread r.2.1 ∧ sink.Rewritten r.2.2 ∧ ∃ sent,
        sent ++ r.2.2.output.pending = sink.output.pending ++ bytes ∧
        s'.Stocked (carried x fd fd' src snk bytes sent) owners := by
  unfold copyAll
  refine Act.completes_get (fun _ => rfl) ?_
  rw [length]
  refine Act.completes_loop
    (fun copy t => ∃ done left, bytes = done ++ left ∧
      Underway x owners fd fd' src snk source sink cap done left copy t)
    (fun copy t => bytes.length - copy.total + if copy.source.ended then 0 else 1)
    ⟨[], bytes, rfl, .refl ready.dry.wellFormed, ready.dry, .refl ready.pours.wellFormed, rfl,
      ⟨[], (List.append_nil _).symm, ?_⟩, fun no => nomatch ready.unmarked.symm.trans no⟩
    fun copy t ⟨done, left, whole, under⟩ => ?_
  · unfold carried
    rw [List.length_nil, Handle.skip_zero, Handle.pour_nil, Stock.put_of_has ready.has,
      Stock.put_of_has ready.has']
    exact stocked
  subst whole
  cases ended : copy.source.ended with
  | false =>
    refine (copyTurn_completes ready gives fits under ended).mono
      fun r t' _ ⟨bytes, rest, copy', is, split, more, under'⟩ => ?_
    subst is split
    refine ⟨⟨done ++ bytes, rest, (List.append_assoc ..).symm, under'⟩, ?_⟩
    rw [under.total, under'.total]
    simp only [List.length_append]
    obtain seen | some := more
    · rw [seen]
      simp only [if_true, Bool.false_eq_true, if_false]
      omega
    · have pos := List.length_pos_iff.2 some
      simp only [Bool.false_eq_true, if_false]
      split <;> omega
  | true =>
    obtain ⟨sent, order, after⟩ := under.sent
    have none := under.ended ended
    subst none
    unfold copyTurn
    rw [if_pos ended, List.append_nil]
    exact Act.completes_pure
      ⟨congrArg _ under.total, under.fetches, under.passes, sent, order, after⟩

/-- **A copy of what cannot be read** fails and changes nothing. -/
theorem copyAll_fails (ready : Ready x fd fd' src snk source sink cap out most)
    {e : ChannelError} (gives : src.Gives (.error e)) (stocked : s.Stocked x owners)
    (length : s.bufferLength = cap) :
    (copyAll source sink).Completes s fun r s' => r.1 = .error e ∧
      source.Reread r.2.1 ∧ r.2.2 = sink ∧ s'.Stocked x owners := by
  unfold copyAll
  refine Act.completes_get (fun _ => rfl) ?_
  rw [length]
  refine Act.completes_loop (fun copy t => copy = { source, sink } ∧ t.Stocked x owners)
    (fun _ _ => 0) ⟨rfl, stocked⟩ fun copy t ⟨first, stocked⟩ => ?_
  subst first
  unfold copyTurn
  rw [if_neg (Bool.eq_false_iff.1 ready.unmarked)]
  refine (Channel.readBetween_completes stocked ready.has gives ready.onto ready.dry
    ready.pos).bind fun r s₁ _ ⟨reread, _, hands⟩ => ?_
  obtain ⟨reading, c⟩ := r
  cases hands with
  | failure after => exact Act.completes_pure ⟨rfl, reread, rfl, after⟩

/-- **A copy takes what its source gives**, and leaves the source behind it. -/
theorem copyAll_gives (ready : Ready x fd fd' src snk source sink cap out most)
    (gives : src.Gives share) (stocked : s.Stocked x owners) (length : s.bufferLength = cap)
    (fits : out.length + sink.output.pending.length + (copied share).length ≤ most) :
    (copyAll source sink).Completes s fun r s' => r.1 = share.map List.length ∧
      source.Reread r.2.1 ∧ sink.Rewritten r.2.2 ∧ ∃ sent,
        sent ++ r.2.2.output.pending = sink.output.pending ++ copied share ∧
        s'.Stocked (carried x fd fd' src snk (copied share) sent) owners := by
  cases share with
  | ok bytes => exact copyAll_completes ready gives stocked length fits
  | error e =>
    refine (copyAll_fails ready gives stocked length).mono
      fun r s' _ ⟨is, reread, same, after⟩ => ⟨is, reread, ?_, [], ?_, ?_⟩
    · rw [same]
      exact .refl ready.pours.wellFormed
    · rw [same]
      exact (List.append_nil _).symm
    · unfold carried copied
      rw [Handle.pour_nil]
      show s'.Stocked ((x.put fd (src.skip 0)).put fd' snk) owners
      rwa [Handle.skip_zero, Stock.put_of_has ready.has, Stock.put_of_has ready.has']

end Concatenate

end BufferedChannels
