import Mathlib
import BufferedChannels.Proofs.LogHistory

/-!
# Proofs/Tally — a registry counts owners over whole histories

A registry of owners is a **multiset of descriptors**: a claim puts one in, and a release takes one
out if there is one.  What it holds after any calls is told by `tally`, and all its observers agree
with that: no entry is ever left without an owner, so entries and owned descriptors are the same.  A
call that finds the descriptor owned already, or not owned at all, is an **anomaly**: its answer is
`false`, and exactly then there is a warning.
-/

namespace BufferedChannels

namespace Ownership

variable {o : Ownership} {fd : Int}

theorem contains_iff_mem : o.contains fd = true ↔ fd ∈ o.entries.map Prod.fst := by
  obtain ⟨entries⟩ := o
  show (entries.lookup fd).isSome = true ↔ _
  induction entries with
  | nil => simp
  | cons entry rest ih =>
    obtain ⟨key, count⟩ := entry
    rw [lookup_cons_eq, List.map_cons, List.mem_cons, ← ih]
    by_cases here : fd = key
    · rw [if_pos here]
      exact iff_of_true rfl (.inl here)
    · rw [if_neg here]
      exact (or_iff_right here).symm

/-- **The owned descriptors** are those that have an entry. -/
theorem setOf_owned (h : o.WellFormed) :
    {fd | 0 < o.owners fd} = ((o.entries.map Prod.fst).toFinset : Set Int) := by
  ext fd
  rw [Set.mem_ofPred_eq, ← contains_iff h, contains_iff_mem, List.coe_toFinset, Set.mem_ofPred_eq]

theorem finite_owned (h : o.WellFormed) : {fd | 0 < o.owners fd}.Finite := by
  rw [setOf_owned h]
  exact Finset.finite_toSet _

/-- **The size counts owned descriptors.** -/
theorem size_eq_ncard (h : o.WellFormed) : o.size = {fd | 0 < o.owners fd}.ncard := by
  rw [setOf_owned h, Set.ncard_coe_finset, List.toFinset_card_of_nodup h.nodup, List.length_map,
    size]

theorem isEmpty_iff (h : o.WellFormed) : o.isEmpty = true ↔ ∀ fd, o.owners fd = 0 := by
  rw [isEmpty, beq_iff_eq, size_eq_ncard h, Set.ncard_eq_zero (finite_owned h),
    Set.eq_empty_iff_forall_notMem]
  simp

/-- **A release that finds no owner** changes nothing. -/
theorem release_of_unowned (alone : o.contains fd = false) : o.release fd = o := by
  obtain ⟨entries⟩ := o
  suffices same : remove fd entries = entries from congrArg _ same
  induction entries with
  | nil => rfl
  | cons entry rest ih =>
    obtain ⟨key, count⟩ := entry
    rw [contains, lookup_cons_eq] at alone
    by_cases here : fd = key
    · rw [if_pos here] at alone
      cases alone
    · rw [if_neg here] at alone
      rw [remove, if_neg (Ne.symm here), ih alone]

end Ownership

namespace Registry

/-! ## Calls and counts -/

/-- **A call of a registry.** -/
inductive Call where
  | claim (fd : Int)
  | release (fd : Int)
  deriving DecidableEq

namespace Call

/-- The descriptor of a call. -/
def fd : Call → Int
  | .claim fd | .release fd => fd

/-- Runs a call on one of the registries. -/
def run {κ : Type} [Host κ] (scope : Scope) : Call → Act κ Bool
  | .claim fd => Act.claimIn scope fd
  | .release fd => Act.releaseIn scope fd

/-- The owners after a call. -/
def apply (o : Ownership) : Call → Ownership
  | .claim fd => o.claim fd
  | .release fd => o.release fd

/-- **What becomes of the count of a descriptor**: a claim of it adds one, and a release of it
strikes one, down to none. -/
def counted (fd : Int) (count : Nat) : Call → Nat
  | .claim own => if fd = own then count + 1 else count
  | .release own => if fd = own then count - 1 else count

/-- **The answer to a call** on a descriptor with so many owners: whether it is as it should be. -/
def answer (count : Nat) : Call → Bool
  | .claim _ => count = 0
  | .release _ => 0 < count

/-- What the log says of a call that is not as it should be. -/
def complaint (count : Nat) : Call → String
  | .claim fd => s!"fd {fd} registered twice ({count + 1} owners)"
  | .release fd => s!"fd {fd} unregistered but not known"

/-- **What a call writes** under settings at an instant: a warning exactly if its answer is `false`
and warnings are shown. -/
def written (t : Log.Settings) (now count : Nat) (call : Call) : List Log.Piece :=
  if call.answer count = false ∧ Log.Level.warn.rank ≤ t.level.rank then
    [.line (Log.Journal.line t now .warn (call.complaint count))]
  else []

end Call

/-- **The count of a descriptor after calls**, from none on. -/
def tally (calls : List Call) (fd : Int) : Nat := calls.foldl (Call.counted fd) 0

theorem tally_concat (calls : List Call) (call : Call) (fd : Int) :
    tally (calls ++ [call]) fd = call.counted fd (tally calls fd) :=
  List.foldl_concat ..

/-- **Calls on other descriptors** do not count. -/
theorem Call.counted_of_ne {call : Call} {fd : Int} (other : fd ≠ call.fd) (count : Nat) :
    call.counted fd count = count := by
  cases call with
  | claim => exact if_neg other
  | release => exact if_neg other

/-- **A registry holds what calls leave.** -/
structure Holds (o : Ownership) (calls : List Call) : Prop where
  wellFormed : o.WellFormed
  owners : ∀ fd, o.owners fd = tally calls fd

theorem holds_nil : Holds {} [] := ⟨⟨nofun, List.nodup_nil⟩, fun _ => rfl⟩

/-- **One more call** is held as well. -/
theorem Holds.concat {o : Ownership} {calls : List Call} (h : Holds o calls) (call : Call) :
    Holds (call.apply o) (calls ++ [call]) := by
  cases call with
  | claim fd =>
    refine ⟨Ownership.wellFormed_claim h.wellFormed fd, fun other => ?_⟩
    rw [tally_concat, Call.apply, Ownership.owners_claim, Call.counted, ← h.owners]
    split
    · next same => rw [same]
    · rfl
  | release fd =>
    refine ⟨Ownership.wellFormed_release h.wellFormed fd, fun other => ?_⟩
    rw [tally_concat, Call.apply, Ownership.owners_release h.wellFormed, Call.counted, ← h.owners]
    split <;> rfl

/-- **What the observers of a registry show** after calls. -/
structure Shows (o : Ownership) (calls : List Call) : Prop where
  owners : ∀ fd, o.owners fd = tally calls fd
  /-- No entry counts nothing. -/
  positive : ∀ fd count, (fd, count) ∈ o.entries → 0 < count
  contains : ∀ fd, o.contains fd = true ↔ 0 < tally calls fd
  finite : {fd | 0 < tally calls fd}.Finite
  size : o.size = {fd | 0 < tally calls fd}.ncard
  isEmpty : o.isEmpty = true ↔ ∀ fd, tally calls fd = 0

theorem Holds.shows {o : Ownership} {calls : List Call} (h : Holds o calls) : Shows o calls := by
  obtain same : o.owners = tally calls := funext h.owners
  refine ⟨h.owners, h.wellFormed.pos, ?_, ?_, ?_, ?_⟩
  all_goals rw [← same]
  · exact Ownership.contains_iff h.wellFormed
  · exact Ownership.finite_owned h.wellFormed
  · exact Ownership.size_eq_ncard h.wellFormed
  · exact Ownership.isEmpty_iff h.wellFormed

/-- **The answers to calls** on a registry, after others. -/
def answers (past : List Call) : List Call → List Bool
  | [] => []
  | call :: rest => call.answer (tally past call.fd) :: answers (past ++ [call]) rest

end Registry

/-- The system with another registry in the place of one. -/
def System.withRegistry {κ : Type} (s : System κ) (scope : Scope) (o : Ownership) : System κ :=
  { s with ownership := fun other => if other = scope then o else s.ownership other }

namespace Registry

variable {κ : Type} {scope : Scope} {calls : List Call}

@[simp] theorem ownership_withRegistry (s : System κ) (o : Ownership) :
    (s.withRegistry scope o).ownership scope = o :=
  if_pos rfl

variable [Host κ]

/-! ## Runs of calls -/

/-- **The system after a call** on a descriptor with so many owners: the call is noted in its own
registry, and there is a warning if its answer is `false`. -/
def Call.after (scope : Scope) (call : Call) (count : Nat) (s : System κ) : System κ :=
  { s.withRegistry scope (call.apply (s.ownership scope)) with
    journal :=
      if call.answer count then s.journal
      else s.journal.log s.environment (Host.now s.host) .warn (call.complaint count) }

@[simp] theorem Call.ownership_after (call : Call) (count : Nat) (s : System κ) :
    (call.after scope count s).ownership scope = call.apply (s.ownership scope) :=
  if_pos rfl

theorem Call.pieces_after (call : Call) (count : Nat) (s : System κ) :
    (call.after scope count s).journal.pieces =
      call.written (s.journal.settings s.environment (Host.now s.host)) (Host.now s.host) count ++
        s.journal.pieces := by
  show Log.Journal.pieces (if call.answer count then _ else _) = _
  cases answered : call.answer count with
  | true =>
    rw [if_pos rfl, written, if_neg (by simp [answered])]
    rfl
  | false =>
    rw [if_neg Bool.false_ne_true, Log.Journal.log_eq, written, Log.Call.written]
    simp [answered]

/-- **A call is answered as the tally says.** -/
theorem Call.runOn_run (call : Call) {s : System κ} (h : Holds (s.ownership scope) calls) :
    (call.run scope).runOn s = (.ok (call.answer (tally calls call.fd)),
      call.after scope (tally calls call.fd) s) := by
  cases call with
  | claim fd =>
    have count : ((s.ownership scope).claim fd).owners fd = tally calls fd + 1 := by
      rw [Ownership.owners_claim, if_pos rfl, h.owners]
    show (Act.claimIn scope fd).runOn s = (.ok (decide (tally calls fd = 0)),
      Call.after scope (.claim fd) (tally calls fd) s)
    rw [Act.claimIn, Act.runOn_bind, Act.runOn_get]
    dsimp only
    rw [count]
    cases tally calls fd with
    | zero => rfl
    | succ n =>
      rw [if_pos (by omega)]
      rfl
  | release fd =>
    have known : (s.ownership scope).contains fd = decide (0 < tally calls fd) := by
      rw [Bool.eq_iff_iff, decide_eq_true_iff, Ownership.contains_iff h.wellFormed, h.owners]
    show (Act.releaseIn scope fd).runOn s = (.ok (decide (0 < tally calls fd)),
      Call.after scope (.release fd) (tally calls fd) s)
    rw [Act.releaseIn, Act.runOn_bind, Act.runOn_get]
    dsimp only
    rw [known]
    cases tally calls fd with
    | zero => rfl
    | succ n =>
      rw [decide_eq_true (Nat.succ_pos n)]
      rfl

/-! ## Histories -/

/-- **A moment of a history**: a call, and all that is around the registry by then. -/
structure Moment (κ : Type) where
  surroundings : System κ
  call : Call

/-- The system that a moment meets, with the registry as it was left. -/
def Moment.meets (scope : Scope) (m : Moment κ) (o : Ownership) : System κ :=
  m.surroundings.withRegistry scope o

/-- Runs the call of a moment. -/
def Moment.run (scope : Scope) (m : Moment κ) : Act κ Bool := do
  modify fun s => m.meets scope (s.ownership scope)
  m.call.run scope

/-- **Runs a history.** -/
def runAll (scope : Scope) : List (Moment κ) → Act κ (List Bool)
  | [] => return []
  | m :: rest => do
    let first ← m.run scope
    return first :: (← runAll scope rest)

/-- **A moment is answered as the tally says**, and its registry holds one more call. -/
theorem Moment.runOn_run (m : Moment κ) {s : System κ} (h : Holds (s.ownership scope) calls) :
    let s' := m.call.after scope (tally calls m.call.fd) (m.meets scope (s.ownership scope))
    (m.run scope).runOn s = (.ok (m.call.answer (tally calls m.call.fd)), s') ∧
      s'.ownership scope = m.call.apply (s.ownership scope) := by
  have met : Holds ((m.meets scope (s.ownership scope)).ownership scope) calls := by
    rwa [meets, ownership_withRegistry]
  refine ⟨m.call.runOn_run met, ?_⟩
  rw [Call.ownership_after, meets, ownership_withRegistry]

/-- **A history is answered as the tally says**, and its registry holds its calls. -/
theorem runOn_runAll (rest : List (Moment κ)) {s : System κ}
    (h : Holds (s.ownership scope) calls) :
    ∃ s', (runAll scope rest).runOn s = (.ok (answers calls (rest.map Moment.call)), s') ∧
      Holds (s'.ownership scope) (calls ++ rest.map Moment.call) := by
  induction rest generalizing calls s with
  | nil => exact ⟨s, rfl, by rwa [List.map_nil, List.append_nil]⟩
  | cons m rest ih =>
    obtain ⟨run, noted⟩ := m.runOn_run h
    obtain ⟨s', run', held⟩ := ih (noted ▸ h.concat m.call)
    refine ⟨s', ?_, by simpa using held⟩
    rw [runAll, Act.runOn_bind, run]
    dsimp only
    rw [Act.runOn_bind, run']
    rfl

/-- **A registry counts owners over whole histories.**  Take a registry that begins empty and any
history of claims and releases, with all else as it may be at each moment.  It runs to its end with
the answers that the tally gives, and **all observers show the tally** of its calls.  So it is after
any call that follows.  The call finds its descriptor with so many owners: a claim is answered with
whether it has none, a release with whether it has some, and a release that finds none changes
nothing.  No other descriptor and no other registry is touched, and the log has a warning more
exactly if the answer is `false` and warnings are shown. -/
theorem history_tallied (scope : Scope) (past : List (Moment κ)) (m : Moment κ) (s : System κ) :
    let calls := past.map Moment.call
    let count := tally calls m.call.fd
    ∃ s' s'', (runAll scope past).runOn (s.withRegistry scope {}) = (.ok (answers [] calls), s') ∧
      Shows (s'.ownership scope) calls ∧
      (m.run scope).runOn s' = (.ok (m.call.answer count), s'') ∧
      Shows (s''.ownership scope) (calls ++ [m.call]) ∧
      (∀ fd ≠ m.call.fd, (s''.ownership scope).owners fd = (s'.ownership scope).owners fd) ∧
      (∀ other ≠ scope, s''.ownership other = m.surroundings.ownership other) ∧
      (∀ fd, m.call = .release fd → count = 0 → s''.ownership scope = s'.ownership scope) ∧
      s''.journal.pieces =
        m.call.written (m.surroundings.journal.settings m.surroundings.environment
          (Host.now m.surroundings.host)) (Host.now m.surroundings.host) count ++
          m.surroundings.journal.pieces := by
  have begins : Holds ((s.withRegistry scope {}).ownership scope) [] := by
    rw [ownership_withRegistry]
    exact holds_nil
  obtain ⟨s', run, held⟩ := runOn_runAll past begins
  rw [List.nil_append] at held
  obtain ⟨run', noted⟩ := m.runOn_run held
  have held' := held.concat m.call
  refine ⟨s', _, run, held.shows, run', noted ▸ held'.shows, fun fd other => ?_,
    fun other apart => ?_, fun fd released none => ?_, ?_⟩
  · rw [noted, held'.owners, held.owners, tally_concat, Call.counted_of_ne other]
  · exact (if_neg apart).trans (if_neg apart)
  · have unowned : (s'.ownership scope).contains fd = false := by
      rw [Bool.eq_false_iff, Ne, Ownership.contains_iff held.wellFormed, held.owners]
      rw [released] at none
      exact none.not_gt
    rw [noted, released]
    exact Ownership.release_of_unowned unowned
  · exact m.call.pieces_after ..

/-- A claim, another of the same descriptor and a release too many. -/
example : answers [] [.claim 3, .claim 3, .release 3, .release 3, .release 3] =
    [true, false, true, true, false] := by decide

end Registry

end BufferedChannels
