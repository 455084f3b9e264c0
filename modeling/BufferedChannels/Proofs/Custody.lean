import Mathlib
import BufferedChannels.Proofs.Confinement
import BufferedChannels.Proofs.Lifecycle
import BufferedChannels.Simulation.Kernel

/-!
# Proofs/Custody — who holds a descriptor, and for how long

A `Chronicle` is a system with the **lives** of all channels that were ever begun on it, in any
order and on any descriptors.  Every life is `Orderly`: its waiter is told once that a descriptor
is taken and once that it is given up, every use of the descriptor lies between the two, and at
most one closing follows.  A registry therefore counts **as many owners of a descriptor as channels
that hold it**, also in the middle of a call.
-/

namespace BufferedChannels

/-! ## Lives -/

/-- **Where a life stands.** -/
inductive Stage where
  /-- A call of the beginning has not come back. -/
  | entering
  /-- The beginning failed. -/
  | failed
  | live (c : Channel)
  /-- A call of the ending has not come back. -/
  | leaving (fd : Int)
  | over (fd : Int) (ending : Ending)

/-- **The life of a channel**: how it was begun, and all the calls that it has made. -/
structure Life where
  opening : Opening
  calls : Dialogue
  stage : Stage

/-- The descriptor on which a path was opened. -/
def Exchange.opened? : Exchange → Option Int
  | ⟨.openPath .., .ok fd⟩ => some fd
  | _ => none

namespace Life

/-- **Whether a life holds a descriptor in a registry**: its channel is live, or a path was opened
on the descriptor and nothing has come back since. -/
def holds (scope : Scope) (fd : Int) (life : Life) : Bool :=
  match life.stage with
  | .live c => c.waiter = .polling scope ∧ c.fd = fd
  | .entering =>
    life.opening.waiter = .polling scope ∧ life.calls.getLast?.bind Exchange.opened? = some fd
  | _ => false

/-- **An orderly life.**  The calls are: those that take a descriptor, telling the waiter, uses of
the descriptor, telling the waiter again, and the last call.  A beginning that fails closes the
descriptor if it opened it, and then it has asked for its kind only.  A live channel has its
descriptor still, and so its end has something to give up. -/
inductive Orderly : Life → Prop
  | entering {opening : Opening} {calls before : Dialogue} {fd : Int} (asked : Except Errno Nat) :
      Takes fd opening.adopted? before →
      calls <+: before ++ opening.waiter.claims fd ++ [⟨.stat fd, asked⟩] ++
        opening.waiter.releases fd →
      Orderly ⟨opening, calls, .entering⟩
  | silent {opening : Opening} : Orderly ⟨opening, [], .failed⟩
  | refused {opening : Opening} (path : String) (flags : Flags) (mode : Nat) (e : Errno) :
      opening.adopted? = none → Orderly ⟨opening, [⟨.openPath path flags mode, .error e⟩], .failed⟩
  | abandoned {opening : Opening} {before : Dialogue} {fd : Int} (asked : Except Errno Nat)
      (closed : Except Errno Unit) : opening.adopted? = none → Takes fd none before →
      Orderly ⟨opening, before ++ opening.waiter.claims fd ++ [⟨.stat fd, asked⟩] ++
        opening.waiter.releases fd ++ [⟨.close fd, closed⟩], .failed⟩
  | live {opening : Opening} {before during : Dialogue} {c : Channel} : c.waiter = opening.waiter →
      c.owned = true → Takes c.fd opening.adopted? before → (∀ e ∈ during, e.Uses c.fd) →
      Orderly ⟨opening, before ++ opening.waiter.claims c.fd ++ during, .live c⟩
  | leaving {opening : Opening} {before during after : Dialogue} {fd : Int} :
      Takes fd opening.adopted? before → (∀ e ∈ during, e.Uses fd) →
      after <+: opening.waiter.releases fd →
      Orderly ⟨opening, before ++ opening.waiter.claims fd ++ during ++ after, .leaving fd⟩
  | over {opening : Opening} {before during last : Dialogue} {fd : Int} {ending : Ending} :
      Takes fd opening.adopted? before → (∀ e ∈ during, e.Uses fd) → ending.Closes fd last →
      Orderly ⟨opening, before ++ opening.waiter.claims fd ++ during ++
        opening.waiter.releases fd ++ last, .over fd ending⟩

end Life

/-! ## Chronicles -/

/-- **A system with the lives of all channels begun on it.** -/
structure Chronicle (κ : Type) where
  system : System κ
  lives : List Life

variable {κ : Type}

/-- The stage after a beginning has come to an outcome. -/
def Stage.begun : Except Halt (Except ChannelError Channel) → Stage
  | .ok (.ok c) => .live c
  | .ok (.error _) => .failed
  | .error _ => .entering

/-- The channel after an operation has come to an outcome, with what a broken rule left. -/
def Channel.operated (c : Channel) : Except Halt (Answer × Channel) → Channel
  | .ok (_, c') => c'
  | .error (.faulted _ (some left)) => left
  | .error _ => c

/-- The stage after an ending has come to an outcome. -/
def Stage.ended (fd : Int) (ending : Ending) : Except Halt Answer → Stage
  | .ok _ => .over fd ending
  | .error _ => .leaving fd

/-- **The chronicles that a program can come to**, if it leaves the registries to its channels and
is never aborted.  It begins channels, operates on them and ends them, in any order; a call that
does not come back leaves the others to go on, and anything else may happen elsewhere. -/
inductive Chronicle.Reachable [Host κ] : Chronicle κ → Prop
  | start {s : System κ} : (∀ scope, s.ownership scope = {}) → Reachable ⟨s, []⟩
  | elsewhere {s s' : System κ} {lives : List Life} : Reachable ⟨s, lives⟩ →
      s'.ownership = s.ownership → Reachable ⟨s', lives⟩
  | begun {s s' : System κ} {lives : List Life} {opening : Opening} {es : Dialogue}
      {outcome : Except Halt (Except ChannelError Channel)} : Reachable ⟨s, lives⟩ →
      opening.run.runOn s = (outcome, s') → outcome ≠ .error .aborted →
      s'.trace = es.reverse ++ s.trace → Reachable ⟨s', ⟨opening, es, .begun outcome⟩ :: lives⟩
  | operated {s s' : System κ} {before after : List Life} {opening : Opening}
      {calls es : Dialogue} {c : Channel} {operation : Operation}
      {outcome : Except Halt (Answer × Channel)} :
      Reachable ⟨s, before ++ ⟨opening, calls, .live c⟩ :: after⟩ →
      (operation.run c).runOn s = (outcome, s') → outcome ≠ .error .aborted →
      s'.trace = es.reverse ++ s.trace →
      Reachable ⟨s', before ++ ⟨opening, calls ++ es, .live (c.operated outcome)⟩ :: after⟩
  | ended {s s' : System κ} {before after : List Life} {opening : Opening} {calls es : Dialogue}
      {c : Channel} {ending : Ending} {outcome : Except Halt Answer} :
      Reachable ⟨s, before ++ ⟨opening, calls, .live c⟩ :: after⟩ →
      (ending.run c).runOn s = (outcome, s') → outcome ≠ .error .aborted →
      s'.trace = es.reverse ++ s.trace →
      Reachable ⟨s', before ++ ⟨opening, calls ++ es, .ended c.fd ending outcome⟩ :: after⟩

/-! ## What a registry counts -/

namespace Waiter

variable {owned : Scope → Ownership}

/-- Whether a waiter notes a descriptor in a registry. -/
def notes (w : Waiter) (target : Int) (scope : Scope) (fd : Int) : Bool :=
  w = .polling scope ∧ target = fd

theorem claimed_polling (own scope : Scope) (fd : Int) : (polling own).claimed fd owned scope =
    if scope = own then (owned own).claim fd else owned scope := rfl

theorem released_polling (own scope : Scope) (fd : Int) : (polling own).released fd owned scope =
    if scope = own then (owned own).release fd else owned scope := rfl

theorem owners_claimed (w : Waiter) (target : Int) (scope : Scope) (fd : Int) :
    (w.claimed target owned scope).owners fd =
      (owned scope).owners fd + (w.notes target scope fd).toNat := by
  rcases w with own | notified
  · rw [claimed_polling]
    by_cases scopes : scope = own
    · rw [if_pos scopes, scopes, Ownership.owners_claim]
      by_cases same : fd = target
      · simp [notes, same]
      · simp [notes, same, Ne.symm same]
    · simp [notes, scopes, Ne.symm scopes]
  · simp [claimed, notes]

theorem owners_released (wf : ∀ scope, (owned scope).WellFormed) (w : Waiter) (target : Int)
    (scope : Scope) (fd : Int) :
    (w.released target owned scope).owners fd =
      (owned scope).owners fd - (w.notes target scope fd).toNat := by
  rcases w with own | notified
  · rw [released_polling]
    by_cases scopes : scope = own
    · rw [if_pos scopes, scopes, Ownership.owners_release (wf own)]
      by_cases same : fd = target
      · simp [notes, same]
      · simp [notes, same, Ne.symm same]
    · simp [notes, scopes, Ne.symm scopes]
  · simp [released, notes]

theorem wellFormed_claimed (wf : ∀ scope, (owned scope).WellFormed) (w : Waiter) (fd : Int)
    (scope : Scope) : (w.claimed fd owned scope).WellFormed := by
  rcases w with own | notified
  · rw [claimed_polling]
    split
    · exact Ownership.wellFormed_claim (wf own) fd
    · exact wf scope
  · exact wf scope

theorem wellFormed_released (wf : ∀ scope, (owned scope).WellFormed) (w : Waiter) (fd : Int)
    (scope : Scope) : (w.released fd owned scope).WellFormed := by
  rcases w with own | notified
  · rw [released_polling]
    split
    · exact Ownership.wellFormed_release (wf own) fd
    · exact wf scope
  · exact wf scope

end Waiter

/-- **A step from owners to owners** after which a registry counts so many more of a descriptor. -/
structure Adds (more : Scope → Int → Bool) (owned owned' : Scope → Ownership) : Prop where
  owners : ∀ scope fd,
    (owned' scope).owners fd = (owned scope).owners fd + (more scope fd).toNat
  wellFormed : ∀ scope, (owned' scope).WellFormed

section

variable {owned owned' : Scope → Ownership} {more : Scope → Int → Bool}

theorem adds_claimed (wf : ∀ scope, (owned scope).WellFormed) (w : Waiter) (fd : Int) :
    Adds (w.notes fd) owned (w.claimed fd owned) :=
  ⟨w.owners_claimed fd, w.wellFormed_claimed wf fd⟩

theorem adds_nothing (wf : ∀ scope, (owned scope).WellFormed)
    (none : ∀ scope fd, more scope fd = false) : Adds more owned owned :=
  ⟨fun scope fd => by rw [none scope fd]; rfl, wf⟩

/-- Claiming and then releasing changes no count. -/
theorem adds_nothing_released (wf : ∀ scope, (owned scope).WellFormed) (w : Waiter) (fd : Int)
    (none : ∀ scope fd, more scope fd = false) :
    Adds more owned (w.released fd (w.claimed fd owned)) := by
  refine ⟨fun scope other => ?_, w.wellFormed_released (w.wellFormed_claimed wf fd) fd⟩
  rw [w.owners_released (w.wellFormed_claimed wf fd), w.owners_claimed, none scope other,
    Nat.add_sub_cancel]
  rfl

end

/-! ## Beginnings -/

section

variable {opening : Opening} {owned owned' : Scope → Ownership} {es : Dialogue}

theorem Begins.orderly {r : Except ChannelError Channel}
    (begins : Begins opening.waiter opening.adopted? owned es r owned') :
    Life.Orderly ⟨opening, es, .begun (.ok r)⟩ := by
  cases begins with
  | silent => exact .silent
  | refused path flags mode x e opens => exact .refused path flags mode x opens
  | abandoned asked closed e opens takes => exact .abandoned asked closed opens (opens ▸ takes)
  | begun _ waits owned takes asks =>
    refine .live waits owned takes fun e he => ?_
    obtain ⟨reply, rfl⟩ := asks e he
    rfl

/-- **A channel that begins is counted**, and a beginning that fails leaves every count. -/
theorem Begins.adds {r : Except ChannelError Channel} (wf : ∀ scope, (owned scope).WellFormed)
    (begins : Begins opening.waiter opening.adopted? owned es r owned') :
    Adds (fun scope fd => Life.holds scope fd ⟨opening, es, .begun (.ok r)⟩) owned owned' := by
  cases begins with
  | silent => exact adds_nothing wf fun _ _ => rfl
  | refused => exact adds_nothing wf fun _ _ => rfl
  | abandoned => exact adds_nothing_released wf _ _ fun _ _ => rfl
  | @begun c _ _ _ waits =>
    have adds := adds_claimed wf opening.waiter c.fd
    rw [← waits] at adds ⊢
    exact adds

theorem Pauses.orderly (pauses : Pauses opening.waiter opening.adopted? owned es owned') :
    Life.Orderly ⟨opening, es, .entering⟩ := by
  cases pauses with
  | @taking fd _ rest takes =>
    exact .entering (.ok 0) takes ⟨rest ++ _ ++ _ ++ _, by simp only [List.append_assoc]; rfl⟩
  | holding _ takes => exact .entering (.ok 0) takes ⟨_, (List.append_assoc ..).symm⟩
  | releasing asked _ takes => exact .entering asked takes (List.prefix_append _ _)
  | closing asked _ takes => exact .entering asked takes (List.prefix_refl _)

/-- Before all the calls that take a descriptor are made, **no path was opened on it**. -/
theorem Takes.opened?_cut {fd : Int} {adopted? : Option Int} {rest : Dialogue}
    (takes : Takes fd adopted? (es ++ rest)) (more : rest ≠ []) :
    es.getLast?.bind Exchange.opened? = none := by
  generalize whole : es ++ rest = before at takes
  cases takes with
  | opened =>
    obtain ⟨rfl, -⟩ | ⟨-, none⟩ := List.append_eq_singleton_iff.1 whole
    · rfl
    · exact absurd none more
  | adopted =>
    rcases es with _ | ⟨e, es⟩
    · rfl
    · obtain ⟨rfl, tail⟩ := List.cons.inj whole
      obtain ⟨rfl, -⟩ | ⟨-, none⟩ := List.append_eq_singleton_iff.1 tail
      · rfl
      · exact absurd none more

/-- **A beginning that stops is counted** from when its waiter was told until the descriptor is
given up. -/
theorem Pauses.adds (wf : ∀ scope, (owned scope).WellFormed)
    (pauses : Pauses opening.waiter opening.adopted? owned es owned') :
    Adds (fun scope fd => Life.holds scope fd ⟨opening, es, .entering⟩) owned owned' := by
  have unless_opened (closed : es.getLast?.bind Exchange.opened? = none ∨
      ∀ scope, opening.waiter ≠ .polling scope) (scope : Scope) (fd : Int) :
      Life.holds scope fd ⟨opening, es, .entering⟩ = false := by
    refine decide_eq_false fun ⟨polls, opened⟩ => ?_
    rcases closed with closed | other
    · cases closed.symm.trans opened
    · exact other scope polls
  cases pauses with
  | @taking fd _ rest takes told =>
    refine adds_nothing wf (unless_opened ?_)
    by_cases more : rest = []
    · exact .inr fun scope polls => nomatch (told more).symm.trans polls
    · exact .inl (takes.opened?_cut more)
  | @holding fd before adopts takes =>
    rw [adopts] at takes
    obtain ⟨path, flags, mode⟩ := takes
    have counted : (fun scope other => Life.holds scope other ⟨opening,
        [⟨.openPath path flags mode, .ok fd⟩] ++ opening.waiter.claims fd, .entering⟩) =
          opening.waiter.notes fd := by
      funext scope other
      rcases polls : opening.waiter with own | _ | _
      all_goals simp [Life.holds, Waiter.notes, Waiter.claims, polls, Exchange.opened?]
    rw [counted]
    exact adds_claimed wf _ fd
  | releasing _ _ _ told =>
    rw [told] at unless_opened ⊢
    exact adds_nothing wf (unless_opened (.inr fun _ polls => by cases polls))
  | @closing fd before asked adopts takes =>
    refine adds_nothing_released wf _ fd (unless_opened ?_)
    rcases polls : opening.waiter with own | _ | _
    · exact .inl (by simp [Waiter.releases, Exchange.opened?])
    all_goals exact .inr fun _ polls => by cases polls

/-- **What a beginning comes to** is orderly and counted. -/
theorem Opening.custody [Host κ] {s s' : System κ}
    {outcome : Except Halt (Except ChannelError Channel)}
    (wf : ∀ scope, (s.ownership scope).WellFormed) (run : opening.run.runOn s = (outcome, s'))
    (goesOn : outcome ≠ .error .aborted) (noted : s'.trace = es.reverse ++ s.trace) :
    Life.Orderly ⟨opening, es, .begun outcome⟩ ∧
      Adds (fun scope fd => Life.holds scope fd ⟨opening, es, .begun outcome⟩) s.ownership
        s'.ownership := by
  cases outcome with
  | ok r =>
    obtain ⟨es', reaches, begins⟩ := (opening.run_begins s).of_ok run
    obtain rfl := reaches.eq_of_trace noted
    exact ⟨begins.orderly, begins.adds wf⟩
  | error halt =>
    obtain ⟨es', reaches, ⟨rfl, pauses⟩ | ⟨rfl, -⟩⟩ := (opening.run_begins s).of_error run
    · obtain rfl := reaches.eq_of_trace noted
      exact ⟨pauses.orderly, pauses.adds wf⟩
    · exact absurd rfl goesOn

end

/-! ## Operations and endings -/

section

variable [Host κ] {opening : Opening} {calls es : Dialogue} {c : Channel} {s s' : System κ}

/-- **An operation changes no count**, and its channel's life stays orderly. -/
theorem Operation.custody {operation : Operation} {outcome : Except Halt (Answer × Channel)}
    (orderly : Life.Orderly ⟨opening, calls, .live c⟩)
    (run : (operation.run c).runOn s = (outcome, s')) (noted : s'.trace = es.reverse ++ s.trace) :
    Life.Orderly ⟨opening, calls ++ es, .live (c.operated outcome)⟩ ∧
      (c.operated outcome).hold = c.hold ∧ s'.ownership = s.ownership := by
  have used : c.hold.Used s es s' ∧ (c.operated outcome).hold = c.hold := by
    have confined := operation.confined_run (c := c) rfl s
    rcases outcome with halt | ⟨answer, c'⟩
    · obtain ⟨es', reaches, used, leaves⟩ := confined.of_error run
      obtain rfl := reaches.eq_of_trace noted
      refine ⟨used, ?_⟩
      rcases halt with ⟨message, _ | left⟩ | _ | _
      · rfl
      · exact leaves message left rfl
      · rfl
      · rfl
    · obtain ⟨es', reaches, used, same⟩ := confined.of_ok run
      obtain rfl := reaches.eq_of_trace noted
      exact ⟨used, same⟩
  obtain ⟨used, same⟩ := used
  have fd : (c.operated outcome).fd = c.fd := congrArg Hold.fd same
  have waits : (c.operated outcome).waiter = c.waiter := congrArg Hold.waiter same
  have own : (c.operated outcome).owned = c.owned := congrArg Hold.owned same
  cases orderly with
  | @live _ before during _ waiter owned takes uses =>
    refine ⟨?_, same, used.ownership⟩
    rw [List.append_assoc, ← fd]
    refine .live (waits.trans waiter) (own.trans owned) (fd ▸ takes) fun e he => ?_
    rw [fd]
    exact (List.mem_append.1 he).elim (uses e) (used.uses e)

/-- **An ending strikes its channel from the counts**, and the life stays orderly. -/
theorem Ending.custody {ending : Ending} {outcome : Except Halt Answer}
    (orderly : Life.Orderly ⟨opening, calls, .live c⟩)
    (run : (ending.run c).runOn s = (outcome, s')) (goesOn : outcome ≠ .error .aborted)
    (noted : s'.trace = es.reverse ++ s.trace) :
    Life.Orderly ⟨opening, calls ++ es, .ended c.fd ending outcome⟩ ∧
      (s'.ownership = c.waiter.released c.fd s.ownership) := by
  cases orderly with
  | @live _ before during _ waiter owned takes uses =>
    cases outcome with
    | ok answer =>
      obtain ⟨es', reaches, ⟨last, closes, rfl⟩, released⟩ := (ending.run_givesUp owned s).of_ok run
      obtain rfl := reaches.eq_of_trace noted
      refine ⟨?_, released⟩
      rw [← List.append_assoc, waiter]
      exact .over takes uses closes
    | error halt =>
      obtain ⟨es', reaches, stops⟩ := (ending.run_givesUp owned s).of_error run
      obtain rfl := reaches.eq_of_trace noted
      rcases stops with (⟨told, _, rfl, same⟩ | ⟨_, rfl, released⟩) | ⟨rfl, -⟩
      · exact ⟨.leaving takes uses (List.nil_prefix), by rw [same, told]; rfl⟩
      · exact ⟨.leaving takes uses (waiter ▸ List.prefix_refl _), released⟩
      · exact absurd rfl goesOn

end

/-! ## Chronicles in custody -/

/-- **All is in custody**: every life is orderly, and every registry counts the lives that hold a
descriptor. -/
structure Chronicle.InCustody (chronicle : Chronicle κ) : Prop where
  orderly : ∀ life ∈ chronicle.lives, life.Orderly
  owners : ∀ scope fd, (chronicle.system.ownership scope).owners fd =
    chronicle.lives.countP (Life.holds scope fd)
  wellFormed : ∀ scope, (chronicle.system.ownership scope).WellFormed

namespace Chronicle

variable [Host κ] {chronicle : Chronicle κ}

/-- Where one life takes the place of another, all lives are orderly if that one is. -/
theorem orderly_replace {before after : List Life} {life life' : Life}
    (orderly : ∀ other ∈ before ++ life :: after, other.Orderly) (new : life'.Orderly) :
    ∀ other ∈ before ++ life' :: after, other.Orderly := by
  simp only [List.forall_mem_append, List.forall_mem_cons] at orderly ⊢
  exact ⟨orderly.1, new, orderly.2.2⟩

theorem Reachable.inCustody (h : chronicle.Reachable) : chronicle.InCustody := by
  induction h with
  | start none =>
    refine ⟨List.forall_mem_nil _, fun scope fd => ?_, fun scope => ?_⟩
    · rw [none scope]
      rfl
    · rw [none scope]
      exact ⟨nofun, List.nodup_nil⟩
  | elsewhere _ same ih =>
    refine ⟨ih.orderly, fun scope fd => ?_, fun scope => ?_⟩
    · rw [same]
      exact ih.owners scope fd
    · rw [same]
      exact ih.wellFormed scope
  | begun _ run goesOn noted ih =>
    obtain ⟨orderly, adds⟩ := Opening.custody ih.wellFormed run goesOn noted
    refine ⟨List.forall_mem_cons.2 ⟨orderly, ih.orderly⟩, fun scope fd => ?_, adds.wellFormed⟩
    rw [adds.owners scope fd, ih.owners scope fd, List.countP_cons]
    cases Life.holds scope fd _ <;> rfl
  | @operated s s' before after opening calls es c operation outcome _ run _ noted ih =>
    obtain ⟨orderly, same, owned⟩ :=
      Operation.custody (ih.orderly _ (List.mem_append_right _ List.mem_cons_self)) run noted
    refine ⟨orderly_replace ih.orderly orderly, fun scope fd => ?_, fun scope => ?_⟩
    · have holds : Life.holds scope fd ⟨opening, calls ++ es, .live (c.operated outcome)⟩ =
          Life.holds scope fd ⟨opening, calls, .live c⟩ :=
        congrArg (fun hold : Hold => decide (hold.waiter = .polling scope ∧ hold.fd = fd)) same
      have counted := ih.owners scope fd
      rw [List.countP_append, List.countP_cons] at counted ⊢
      rw [owned, counted, holds]
    · rw [owned]
      exact ih.wellFormed scope
  | @ended s s' before after opening calls es c ending outcome _ run goesOn noted ih =>
    obtain ⟨orderly, released⟩ :=
      Ending.custody (ih.orderly _ (List.mem_append_right _ List.mem_cons_self)) run goesOn noted
    refine ⟨orderly_replace ih.orderly orderly, fun scope fd => ?_, fun scope => ?_⟩
    · have held : Life.holds scope fd ⟨opening, calls, .live c⟩ = c.waiter.notes c.fd scope fd :=
        rfl
      have gone :
          Life.holds scope fd ⟨opening, calls ++ es, .ended c.fd ending outcome⟩ = false := by
        cases outcome <;> rfl
      have counted := ih.owners scope fd
      rw [released, c.waiter.owners_released ih.wellFormed, counted, List.countP_append,
        List.countP_append, List.countP_cons, List.countP_cons, gone, held]
      cases c.waiter.notes c.fd scope fd <;> simp
    · rw [released]
      exact c.waiter.wellFormed_released ih.wellFormed c.fd scope

/-- **Every descriptor is in custody.**  However a program begins channels, operates on them and
ends them, each of them takes its descriptor once and gives it up once, and uses it only in
between; and a registry counts as many owners of a descriptor as channels hold it. -/
theorem Reachable.owners_eq_holders (h : chronicle.Reachable) :
    (∀ life ∈ chronicle.lives, life.Orderly) ∧
      ∀ scope fd, (chronicle.system.ownership scope).owners fd =
        chronicle.lives.countP (Life.holds scope fd) :=
  ⟨h.inCustody.orderly, h.inCustody.owners⟩

/-! A pipe that four channels share, two of them with registries of their own, and whose path
cannot become another. -/

/-- The system: a pipe whose kind cannot be asked, open on one descriptor. -/
def pipe : System Simulation.Kernel where
  host :=
    { nodes := [("p", { body := .stream {}, script := [(.stat, { errno? := some ⟨5⟩ })] })]
      descriptors := [(3, { node := "p", flags := { access := .readWrite } })] }
  budget := 40
  bufferLength := 4

/-- An adoption with a registry apart from that of all others. -/
def apart (number : Nat) : Opening := .adoptConfigured 3 {} (.polling (.isolated number))

/-- An opening of the path whose waiter is told of owners. -/
def another : Opening := .openConfigured "p" {} 0o600 {} (.scheduled true)

/-- The system after one channel adopted the descriptor, -/
def once : System Simulation.Kernel := ((Opening.adopt 3).run.runOn pipe).2

/-- …and another one did, -/
def twice : System Simulation.Kernel := ((Opening.adopt 3).run.runOn once).2

/-- …and one with a registry apart, -/
def thrice : System Simulation.Kernel := ((apart 1).run.runOn twice).2

/-- …and one with another registry, -/
def crowded : System Simulation.Kernel := ((apart 2).run.runOn thrice).2

/-- …after the opening failed, -/
def refused : System Simulation.Kernel := (another.run.runOn crowded).2

/-- A channel over the shared descriptor. -/
def sharing (scope : Scope) : Channel :=
  { fd := 3, kind := .unasked, input := ⟨[0, 0, 0, 0], 0, 0⟩, output := ⟨[0, 0, 0, 0], 0⟩,
    verbose := false, waiter := .polling scope }

/-- …and after the first of the channels was closed. -/
def closed : System Simulation.Kernel := ((Ending.run (sharing .shared) .close).runOn refused).2

/-- The calls of an adoption of the descriptor, which never blocks after the first one. -/
def adoption (nonblock : Bool) : Dialogue :=
  [⟨.getFlags 3, .ok { access := .readWrite, nonblock }⟩,
    ⟨.setFlags 3 { access := .readWrite, nonblock := true }, .ok ()⟩]

/-- The first life: the descriptor is adopted and closed. -/
def firstLife : Life := ⟨.adopt 3, adoption false ++ [⟨.close 3, .ok ()⟩], .over 3 .close⟩

/-- The second: it is adopted. -/
def secondLife : Life := ⟨.adopt 3, adoption true, .live (sharing .shared)⟩

/-- The third and the fourth: it is adopted, with a registry apart. -/
def lifeApart (number : Nat) : Life :=
  ⟨apart number, adoption true, .live (sharing (.isolated number))⟩

/-- The fifth: the path is opened on another descriptor and given back. -/
def fifthLife : Life :=
  ⟨another, [⟨.openPath "p" { nonblock := true, cloexec := true } 0o600, .ok 4⟩, ⟨.claim 4, ()⟩,
    ⟨.stat 4, .error ⟨5⟩⟩, ⟨.release 4, ()⟩, ⟨.close 4, .ok ()⟩], .failed⟩

/-- All of them, the last one first. -/
def sharedLives : List Life := [fifthLife, lifeApart 2, lifeApart 1, secondLife, firstLife]

theorem reachable_closed : Reachable ⟨closed, sharedLives⟩ := by
  have adopts : (Opening.adopt 3).run.runOn pipe = (.ok (.ok (sharing .shared)), once) := rfl
  have adoptsToo : (Opening.adopt 3).run.runOn once = (.ok (.ok (sharing .shared)), twice) := rfl
  have isolates : (apart 1).run.runOn twice = (.ok (.ok (sharing (.isolated 1))), thrice) := rfl
  have isolatesToo : (apart 2).run.runOn thrice = (.ok (.ok (sharing (.isolated 2))), crowded) :=
    rfl
  have fails : another.run.runOn crowded = (.ok (.error (.ofErrno ⟨5⟩)), refused) := rfl
  have closes : (Ending.run (sharing .shared) .close).runOn refused = (.ok .closed, closed) := rfl
  have first : Reachable ⟨once, [⟨.adopt 3, adoption false, .live (sharing .shared)⟩]⟩ :=
    .begun (.start fun _ => rfl) adopts nofun rfl
  have second : Reachable ⟨twice, [secondLife, ⟨.adopt 3, adoption false,
      .live (sharing .shared)⟩]⟩ := .begun first adoptsToo nofun rfl
  have third : Reachable ⟨thrice, [lifeApart 1, secondLife, ⟨.adopt 3, adoption false,
      .live (sharing .shared)⟩]⟩ := .begun second isolates nofun rfl
  have fourth : Reachable ⟨crowded, [lifeApart 2, lifeApart 1, secondLife, ⟨.adopt 3,
      adoption false, .live (sharing .shared)⟩]⟩ := .begun third isolatesToo nofun rfl
  have all : Reachable ⟨refused, [fifthLife, lifeApart 2, lifeApart 1, secondLife] ++
      ⟨.adopt 3, adoption false, .live (sharing .shared)⟩ :: []⟩ := .begun fourth fails nofun rfl
  exact .ended all closes nofun rfl

theorem owners_eq_holders_closed : (∀ life ∈ sharedLives, life.Orderly) ∧
    (closed.ownership .shared).owners 3 = 1 ∧ (closed.ownership (.isolated 1)).owners 3 = 1 ∧
      (closed.ownership (.isolated 2)).owners 3 = 1 := by
  obtain ⟨orderly, counts⟩ := Reachable.owners_eq_holders reachable_closed
  exact ⟨orderly, counts .shared 3, counts (.isolated 1) 3, counts (.isolated 2) 3⟩

end Chronicle

end BufferedChannels
