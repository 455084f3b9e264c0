import Mathlib
import BufferedChannels.Proofs.Custody
import BufferedChannels.Proofs.RegularFile
import BufferedChannels.Proofs.Solitude
import BufferedChannels.Proofs.SoleUse
import BufferedChannels.Proofs.TwoRuns

/-!
# Proofs/Transparency — questions that nobody notices

`size` moves the position of the descriptor to the end and back, in the middle of whatever is being
read and written.  Where a channel has its descriptor and its node for itself (`Channel.Alone`), a
question for the position or the size leaves the system as it was, **whatever is buffered**.  So
questions may be put anywhere between the steps of a run, and every step comes to the same
(`Turn.transparent`).
-/

namespace BufferedChannels

open Simulation Simulation.Kernel

/-! ## Channels that are alone -/

/-- **What happens around a descriptor and a node**: it leaves them as they are, and alone. -/
def Simulation.Kernel.Around (fd : Int) (path : String) (change : Kernel → Kernel) : Prop :=
  ∀ ⦃k : Kernel⦄ ⦃file : OpenFile⦄ ⦃body : Body⦄, k.Lone fd file body → file.node = path →
    (change k).Lone fd file body

namespace Channel

variable {c : Channel} {fd : Int} {path : String} {k : Kernel}

/-- **A channel that has its descriptor and its node for itself.**  Where it is of the kind that has
a size, a file stands there. -/
structure Alone (c : Channel) (fd : Int) (path : String) (k : Kernel) : Prop where
  sole : c.Sole k
  here : c.fd = fd
  lone : ∃ file body, k.Lone fd file body ∧ file.node = path ∧
    (c.kind.isRegular = true → ∃ contents, body = .file contents)

namespace Alone

theorem around (h : c.Alone fd path k) {change : Kernel → Kernel}
    (around : Kernel.Around fd path change) : c.Alone fd path (change k) := by
  obtain ⟨file, body, lone, there, regular⟩ := h.lone
  have after := around lone there
  refine ⟨h.sole.elsewhere fun file' body' stands => ?_, h.here, file, body, after, there, regular⟩
  rw [h.here] at stands ⊢
  obtain ⟨rfl, rfl⟩ := Prod.mk.inj (Option.some.inj (after.standing.symm.trans stands))
  exact ⟨body, lone.standing, .refl body⟩

/-- A channel of the same descriptor and kind after a dialogue of its own. -/
theorem leads (h : c.Alone fd path k) {k' : Kernel} {es : Dialogue} {c' : Channel}
    (leads : Host.Leads k es k') (uses : ∀ e ∈ es, e.Uses c.fd) (sole : c'.Sole k')
    (same : c'.fd = c.fd) (kind : c'.kind = c.kind) : c'.Alone fd path k' := by
  obtain ⟨file, body, lone, there, regular⟩ := h.lone
  obtain ⟨file', body', lone', node, grows⟩ := lone.leads leads (h.here ▸ uses)
  refine ⟨sole, same.trans h.here, file', body', lone', node.trans there, fun is => ?_⟩
  obtain ⟨contents, rfl⟩ := regular (kind ▸ is)
  cases grows with
  | file => exact ⟨_, rfl⟩

/-- **Whatever comes of an operation**, the channel is still alone, unless the run ends there. -/
theorem operated {s s' : System Kernel} (h : c.Alone fd path s.host) (operation : Operation)
    {outcome : Except Halt (Answer × Channel)} (run : (operation.run c).runOn s = (outcome, s'))
    (goes : Session.goesOn (outcome.map Prod.fst) = true) :
    (c.operated outcome).Alone fd path s'.host := by
  have wf := h.sole.reachable.wellFormed
  have ensured := ((operation.run_affords wf s).and (operation.confined_run rfl s)).and
    (operation.run_ensures wf s)
  rcases outcome with halt | ⟨answer, c'⟩
  · obtain ⟨es, reaches, ⟨leftover, used, leaves⟩, broken⟩ := ensured.of_error run
    rcases halt with ⟨message, _ | left⟩ | _ | _
    · exact absurd rfl (broken.leaves_some reaches.host.moderate message)
    · exact h.leads reaches.host used.uses (.broken h.sole run)
        (congrArg Hold.fd (leaves message left rfl)) (leftover.affords message left rfl).kind
    · exact absurd goes Bool.false_ne_true
    · exact absurd goes Bool.false_ne_true
  · obtain ⟨es, reaches, ⟨affords, used, same⟩, _⟩ := ensured.of_ok run
    exact h.leads reaches.host used.uses (.operated h.sole run) (congrArg Hold.fd same)
      affords.kind

end Alone

end Channel

/-! ## Questions -/

/-- **A question** that can be put to a channel at any time. -/
inductive Inquiry where
  | tell | size
  deriving DecidableEq

/-- The operation that puts it. -/
def Inquiry.operation : Inquiry → Operation
  | tell => .tell
  | size => .size

/-- **What `size` says**: the length of the file and the pending bytes, or nothing at all without
asking anyone. -/
structure Channel.Counts (c : Channel) (path : String) (k : Kernel) (calls : Dialogue)
    (outcome : Except Halt Answer) : Prop where
  regular : c.kind.isRegular = true → ∃ contents, k.body? path = some (.file contents) ∧
    outcome = .ok (.count (.ok (contents.size + c.pendingCount)))
  other : c.kind.isRegular = false → outcome = .ok (.count (.error .unsupported)) ∧ calls = []

namespace Channel

variable {c : Channel} {fd : Int} {path : String} {s : System Kernel}

/-- A question for the length. -/
theorem Alone.size (h : c.Alone fd path s.host) : c.size.Ensures s
    (fun es r s' => Asked s s' ∧ c.Counts path s'.host es (.ok (.count r)))
    (fun es _ s' => s'.budget = 0 ∧ es.length ≤ 3) := by
  obtain ⟨file, body, lone, rfl, regular⟩ := h.lone
  rw [← h.here] at lone
  cases is : c.kind.isRegular with
  | true =>
    obtain ⟨contents, rfl⟩ := regular is
    refine (size_still lone is).mono (fun _ _ s' _ ⟨asked, told⟩ => ⟨asked, ?_, ?_⟩)
      fun _ _ _ _ halts => halts
    · rw [asked.1, told]
      exact fun _ => ⟨contents, lone.stored, rfl⟩
    · exact fun other => absurd (other.symm.trans is) Bool.false_ne_true
  | false =>
    refine (size_unsupported is s).mono (fun _ _ s' _ ⟨silent, asked, told⟩ => ⟨asked, ?_, ?_⟩)
      fun _ _ _ _ no => no.elim
    · exact fun other => absurd (is.symm.trans other) Bool.false_ne_true
    · rw [told]
      exact fun _ => ⟨rfl, silent⟩

/-- A question for the position: no more is buffered than lies before it. -/
theorem Alone.tell (h : c.Alone fd path s.host) : c.tell.Ensures s (fun _ _ s' => Asked s s')
    (fun es _ s' => s'.budget = 0 ∧ es.length ≤ 3) := by
  obtain ⟨file, body, lone, rfl, _⟩ := h.lone
  rw [← h.here] at lone
  refine ((tell_still lone).and (c.tell_ensures s)).mono (fun _ _ _ _ told => told.1.1)
    fun es _ s' reaches ⟨still, halts⟩ => ?_
  obtain spent | ⟨_, rfl, _⟩ := still
  · exact spent
  · obtain ⟨_, _, is, _⟩ | ⟨physical, asked, before, _⟩ := halts
    · cases is
    · exact absurd ⟨[], physical, asked, .nil, before⟩ (not_overruns h.sole.covers reaches.host)

/-- **A question is answered**, and leaves everything as it was. -/
theorem Alone.ask (h : c.Alone fd path s.host) (enough : 3 < s.budget) (inquiry : Inquiry) :
    ∃ es answer s', (inquiry.operation.run c).runOn s = (.ok (answer, c), s') ∧
      s.Reaches es s' ∧ Asked s s' ∧
      (inquiry = .size → c.Counts path s'.host es (.ok answer)) := by
  cases inquiry with
  | tell =>
    have asks : (Operation.tell.run c).Ensures s (fun _ r s' => Asked s s' ∧ r.2 = c) _ :=
      ensures_answer_same (h.tell.mono (fun _ _ _ _ asked => ⟨asked, rfl⟩)
        fun _ _ _ _ halts => halts)
    obtain ⟨es, ⟨answer, c'⟩, s', run, reaches, asked, rfl⟩ := asks.of_enough enough
    exact ⟨es, answer, s', run, reaches, asked, nofun⟩
  | size =>
    have asks : (Operation.size.run c).Ensures s (fun es r s' => (Asked s s' ∧
        c.Counts path s'.host es (.ok r.1)) ∧ r.2 = c) _ :=
      ensures_answer_same (h.size.mono (fun _ _ _ _ sized => ⟨sized, rfl⟩)
        fun _ _ _ _ halts => halts)
    obtain ⟨es, ⟨answer, c'⟩, s', run, reaches, ⟨asked, counts⟩, rfl⟩ := asks.of_enough enough
    exact ⟨es, answer, s', run, reaches, asked, fun _ => counts⟩

end Channel

/-! ## Runs with questions in them -/

namespace Session

/-- **A session on one channel that is alone**, whose steps may make the exchanges of a question. -/
def Alone (name : String) (fd : Int) (path : String) (s : Session Kernel) : Prop :=
  3 < s.allowance ∧ ∃ c, s.channels = [(name, c)] ∧ c.Alone fd path s.system.host

/-- **Steps that mind a channel**: operations on it, and whatever happens around it. -/
inductive Step.Minds (name : String) (fd : Int) (path : String) : Step Kernel → Prop
  | operate {arrange : Kernel → Kernel} (operation : Operation) : Around fd path arrange →
      Minds name fd path (.command arrange (.operate name operation))
  | outside {change : Kernel → Answer × Kernel} : Around fd path (fun k => (change k).2) →
      Minds name fd path (.outside change)

variable {name : String} {fd : Int} {path : String} {s : Session Kernel}

/-- A system with a fresh account of exchanges and lines. -/
def afresh (allowance : Nat) (s : System Kernel) : System Kernel :=
  { s with budget := allowance, trace := [], journal := s.journal.emptied }

/-- An operation on the only channel. -/
theorem runOn_operate {c : Channel} {operation : Operation} {t t' : System Kernel}
    {outcome : Except Halt (Answer × Channel)} (run : (operation.run c).runOn t = (outcome, t')) :
    ((Command.operate name operation).run [(name, c)]).runOn t =
      (outcome.map fun r => (r.1, [(name, r.2)]), t') := by
  have here : [(name, c)].lookup name = some c := List.lookup_cons_self
  have put (c' : Channel) : Roster.put name c' [(name, c)] = [(name, c')] := if_pos rfl
  unfold Command.run
  dsimp only
  rw [here]
  dsimp only
  rw [Act.runOn_bind, run]
  rcases outcome with halt | ⟨answer, c'⟩
  · rfl
  · exact congrArg (fun roster => (Except.ok (answer, roster), t')) (put c')

/-- **A step that operates on the only channel**, taken apart. -/
theorem stage_operate {c : Channel} (channels : s.channels = [(name, c)])
    (arrange : Kernel → Kernel) (operation : Operation) :
    ∃ outcome t, (operation.run c).runOn
        (afresh s.allowance { s.system with host := arrange s.system.host }) = (outcome, t) ∧
      (s.stage (.command arrange (.operate name operation))).report.outcome =
        outcome.map Prod.fst ∧
      (s.stage (.command arrange (.operate name operation))).after =
        ⟨t, [(name, c.operated outcome)], s.allowance⟩ := by
  obtain ⟨system, roster, allowance⟩ := s
  obtain rfl : roster = [(name, c)] := channels
  generalize ran : (operation.run c).runOn (afresh allowance _) = r
  obtain ⟨outcome, t⟩ := r
  refine ⟨outcome, t, rfl, ?_⟩
  have put (c' : Channel) : Roster.put name c' [(name, c)] = [(name, c')] := if_pos rfl
  unfold afresh at ran
  unfold stage perform step observe
  dsimp only at ran ⊢
  rw [runOn_operate ran]
  rcases outcome with (⟨message, _ | left⟩ | _ | _) | ⟨answer, c'⟩
  · exact ⟨rfl, rfl⟩
  · exact ⟨rfl, congrArg (fun roster => Session.mk t roster allowance) (put left)⟩
  · exact ⟨rfl, rfl⟩
  · exact ⟨rfl, rfl⟩
  · exact ⟨rfl, rfl⟩

/-- **A step that minds the channel** leaves it alone, unless the run ends there. -/
theorem Alone.stage (h : s.Alone name fd path) {step : Step Kernel}
    (minds : step.Minds name fd path) (goes : goesOn (s.stage step).report.outcome = true) :
    (s.stage step).after.Alone name fd path := by
  obtain ⟨enough, c, channels, alone⟩ := h
  cases minds with
  | @operate arrange operation around =>
    obtain ⟨outcome, t, run, reported, after⟩ := stage_operate channels arrange operation
    rw [after]
    exact ⟨enough, _, rfl, (alone.around around).operated operation run (reported ▸ goes)⟩
  | outside around => exact ⟨enough, c, channels, alone.around around⟩

theorem Step.Minds.alike {step : Step Kernel} (minds : step.Minds name fd path) :
    step.Alike .free step := by
  cases minds with
  | operate operation => exact .command _ (.operate name operation)
  | outside => exact .outside _

/-- **What a stage of `size` says.** -/
def Stage.Counts (name path : String) (g : Stage Kernel) : Prop :=
  ∃ c, g.after.channels = [(name, c)] ∧
    c.Counts path g.after.system.host g.exchanges g.report.outcome

/-- **A question is answered, and goes on with a session** that differs in nothing but what is
logged. -/
theorem Alone.ask {s₀ : Session Kernel} (h : s.Alone name fd path) (there : s₀.Alike .free s)
    (inquiry : Inquiry) :
    let g := s.stage (.command id (.operate name inquiry.operation))
    (∃ answer, g.report.outcome = .ok answer) ∧ g.after.Alone name fd path ∧
      s₀.Alike .free g.after ∧ (inquiry = .size → g.Counts name path) := by
  obtain ⟨enough, c, channels, alone⟩ := h
  obtain ⟨outcome, t, run, reported, after⟩ := stage_operate channels id inquiry.operation
  obtain ⟨es, answer, t', run', reaches, asked, counts⟩ :=
    Channel.Alone.ask (s := afresh s.allowance s.system) alone enough inquiry
  obtain ⟨rfl, rfl⟩ := Prod.mk.inj (run'.symm.trans run)
  have after : (s.stage (.command id (.operate name inquiry.operation))).after =
      ⟨t', [(name, c)], s.allowance⟩ := after
  have exchanges : (s.stage (.command id (.operate name inquiry.operation))).exchanges = es := by
    show (s.stage (.command id _)).after.system.trace.reverse = es
    rw [after, reaches.trace]
    exact (congrArg List.reverse (List.append_nil _)).trans (List.reverse_reverse es)
  intro g
  refine ⟨⟨answer, reported⟩, ?_, ?_, fun is => ⟨c, by rw [after], ?_⟩⟩
  · rw [after]
    refine ⟨enough, c, rfl, ?_⟩
    rw [asked.1]
    exact alone
  · rw [after]
    exact ⟨asked.1.trans there.host, asked.2.trans there.ownership,
      reaches.bufferLength.trans there.bufferLength, there.allowance,
      reaches.environment ▸ there.environment,
      trivial, channels ▸ there.channels⟩
  · rw [reported, exchanges, after]
    exact counts is

end Session

/-- **A turn of a run with questions in it**: a step, or a question that is put in between. -/
inductive Turn where
  | step (step : Session.Step Kernel)
  | ask (inquiry : Inquiry)

namespace Turn

/-- The step, unless it is a question. -/
def step? : Turn → Option (Session.Step Kernel)
  | .step first => some first
  | .ask _ => none

/-- What is run, where the channel goes by a name. -/
def performed (name : String) : Turn → Session.Step Kernel
  | .step first => first
  | .ask inquiry => .command id (.operate name inquiry.operation)

/-- **The stages of the steps** alone. -/
def kept : List Turn → List (Session.Stage Kernel) → List (Session.Stage Kernel)
  | .step _ :: turns, g :: gs => g :: kept turns gs
  | .ask _ :: turns, _ :: gs => kept turns gs
  | _, _ => []

theorem kept_nil (turns : List Turn) : kept turns [] = [] := by
  rcases turns with _ | ⟨_ | _, _⟩
  all_goals rfl

variable {name : String} {fd : Int} {path : String}

/-- **What became of a turn**: a question was answered, and one for the size with what is there. -/
def Answered (name path : String) (turn : Turn) (g : Session.Stage Kernel) : Prop :=
  ∀ inquiry, turn = .ask inquiry →
    (∃ answer, g.report.outcome = .ok answer) ∧ (inquiry = .size → g.Counts name path)

theorem answered_step (first : Session.Step Kernel) (g : Session.Stage Kernel) :
    (Turn.step first).Answered name path g := nofun

/-- **Runs with and without the questions agree**, step by step, and so do the sessions at their
ends. -/
theorem run_alike {turns : List Turn}
    (minds : ∀ first, .step first ∈ turns → first.Minds name fd path) {s s' : Session Kernel}
    (there : s.Alike .free s') (alone : s'.Alone name fd path) :
    List.Forall₂ (Session.Stage.Alike .free) (s.stages (turns.filterMap step?))
        (kept turns (s'.stages (turns.map (performed name)))) ∧
      (s.run (turns.filterMap step?)).2.Alike .free (s'.run (turns.map (performed name))).2 ∧
      ∀ entry ∈ turns.zip (s'.stages (turns.map (performed name))),
        entry.1.Answered name path entry.2 := by
  induction turns generalizing s s' with
  | nil => exact ⟨.nil, there, List.forall_mem_nil _⟩
  | cons turn turns ih =>
    have later : ∀ first, .step first ∈ turns → first.Minds name fd path :=
      fun first mem => minds first (List.mem_cons_of_mem _ mem)
    cases turn with
    | step first =>
      have minds := minds first List.mem_cons_self
      have here := Session.stage_alike there minds.alike
      rw [List.filterMap_cons_some (show step? (.step first) = some first from rfl), List.map_cons,
        Session.stages, Session.stages, Session.run_cons, Session.run_cons, performed,
        here.goesOn_eq, kept, List.zip_cons_cons]
      split
      · next goes =>
        obtain ⟨stages, run, answered⟩ :=
          ih later here.after (alone.stage minds (here.goesOn_eq ▸ goes))
        exact ⟨.cons here stages, run, List.forall_mem_cons.2 ⟨answered_step first _, answered⟩⟩
      · rw [kept_nil, List.zip_nil_right]
        exact ⟨.cons here .nil, here.after,
          List.forall_mem_cons.2 ⟨answered_step first _, List.forall_mem_nil _⟩⟩
    | ask inquiry =>
      obtain ⟨⟨answer, reported⟩, alone, there, counts⟩ := alone.ask there inquiry
      obtain ⟨stages, run, rest⟩ := ih later there alone
      have goes : Session.goesOn (s'.stage (performed name (.ask inquiry))).report.outcome = true :=
        congrArg Session.goesOn reported
      rw [List.filterMap_cons_none (show step? (.ask inquiry) = none from rfl), List.map_cons,
        Session.stages, Session.run_cons, if_pos goes, if_pos goes, kept, List.zip_cons_cons]
      refine ⟨stages, run, List.forall_mem_cons.2 ⟨fun asked is => ?_, rest⟩⟩
      obtain rfl := Turn.ask.inj is
      exact ⟨⟨answer, reported⟩, counts⟩

end Turn

/-! ## From the opening on -/

/-- **A path that was opened as a regular file** leads to a file. -/
theorem Channel.Opened.stands {path : String} {flags : Flags} {mode : Nat} {config : Config}
    {waiter : Waiter} {es : Dialogue} {c : Channel} {k k' : Kernel}
    (opened : c.Opened path flags mode config waiter es) (leads : Host.Leads k es k')
    (regular : c.kind.isRegular = true) :
    ∃ file contents, k'.standing? c.fd = some (file, .file contents) := by
  obtain ⟨claims, bits, _, kind, rfl⟩ := opened.exchanges
  rw [← List.cons_append] at leads
  obtain ⟨k₁, _, last⟩ := leads.split
  obtain ⟨k₂, r, _, asked, rest⟩ := last.next (P := fun _ => True) (fun _ _ => trivial) trivial
  obtain ⟨rfl, told⟩ := Exchange.mk.inj asked
  refine rest.stays (P := fun k => ∃ file contents, k.standing? c.fd = some (file, .file contents))
    (fun _ stands => stands) ?_
  -- The kind was told of what stands there.
  obtain ⟨k₃, _, ⟨e, run⟩ | ⟨file, body, _, there, found, run⟩⟩ :=
    k₂.onDescriptor_ways c.fd .stat (fun k _ body _ => (.ok body.mode, k))
  · cases (eq_of_heq told).trans (congrArg Prod.fst run)
  · have mode : bits = body.mode := Except.ok.inj ((eq_of_heq told).trans (congrArg Prod.fst run))
    have is : Kind.ofMode body.mode = .regular := by
      rw [← mode, ← kind]
      exact Kind.isRegular_iff.1 regular
    obtain ⟨contents, rfl⟩ := eq_file_of_mode is
    refine ⟨file, contents, ?_⟩
    have after : (Host.answer k₂ (.stat c.fd)).2 = k₃ := congrArg Prod.snd run
    rw [after]
    exact standing?_of_lookup there found

end BufferedChannels
