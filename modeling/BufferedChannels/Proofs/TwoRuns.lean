import Mathlib
import BufferedChannels.Proofs.Noninterference
import BufferedChannels.Simulation.Kernel

/-!
# Proofs/TwoRuns — two runs that differ in their logging

A run of commands is looked at **stage by stage**: what each step reports, the exchanges that it
makes, what it puts on standard error, and the session after it.  Two runs are compared that start
from sessions that agree and whose steps agree; besides, either may set how the log is written
between any two steps.  Main statement: `logging_noninterference`.
-/

namespace BufferedChannels.Session

variable {κ : Type} {w : Leeway}

/-! ## Runs that are compared -/

/-- **Sessions that agree** but for the logging. -/
structure Alike (w : Leeway) (s s' : Session κ) : Prop where
  host : s'.system.host = s.system.host
  ownership : s'.system.ownership = s.system.ownership
  bufferLength : s'.system.bufferLength = s.system.bufferLength
  allowance : s'.allowance = s.allowance
  environment : s.system.environment.Alike w s'.system.environment
  journals : w.Journals s.system.environment s'.system.environment s.system.journal.emptied
    s'.system.journal.emptied
  channels : s.channels.Alike w s'.channels

/-- **Steps that agree** but for the logging. -/
inductive Step.Alike (w : Leeway) : Step κ → Step κ → Prop
  | command (arrange : κ → κ) {command command' : Command} : command.Alike w command' →
      Alike w (.command arrange command) (.command arrange command')
  | outside (change : κ → Answer × κ) : Alike w (.outside change) (.outside change)

/-- Whether a step only sets how the log is written. -/
def Step.tunes : Step κ → Bool
  | .command _ (.query question) => question.tunes
  | _ => false

/-- **Runs that agree** but for the logging: step by step, and with full leeway either may set how
the log is written where the other does not. -/
inductive Script : Leeway → List (Step κ) → List (Step κ) → Prop
  | done {w : Leeway} : Script w [] []
  | both {w : Leeway} {first first' : Step κ} {rest rest' : List (Step κ)} :
      first.Alike w first' → Script w rest rest' → Script w (first :: rest) (first' :: rest')
  | left {question : Query} {rest rest' : List (Step κ)} : question.tunes = true →
      Script .free rest rest' → Script .free (.command id (.query question) :: rest) rest'
  | right {question : Query} {rest rest' : List (Step κ)} : question.tunes = true →
      Script .free rest rest' → Script .free rest (.command id (.query question) :: rest')

theorem Step.Alike.tunes_eq {step step' : Step κ} (alike : step.Alike w step') :
    step'.tunes = step.tunes := by
  cases alike with
  | outside change => rfl
  | command arrange alike =>
    cases alike with
    | query alike =>
      cases alike with
      | same calm => rfl
      | level may => rfl
      | time may => rfl
      | printConfig agree => rfl
    | begin name alike => rfl
    | operate name operation => rfl
    | finish name ending => rfl
    | dropAll => rfl

theorem subject?_eq {command command' : Command} (alike : command.Alike w command') :
    command'.subject? = command.subject? := by
  cases alike with
  | begin name alike => rfl
  | operate name operation => rfl
  | finish name ending => rfl
  | query alike => rfl
  | dropAll => rfl

/-! ## Stages -/

/-- **A step that was run**: what it reported and the session after it. -/
structure Stage (κ : Type) where
  step : Step κ
  report : Report
  after : Session κ

namespace Stage

/-- **The exchanges that were made**, oldest first. -/
def exchanges (g : Stage κ) : List Exchange :=
  match g.step with
  | .command _ _ => g.after.system.trace.reverse
  | .outside _ => []

/-- **What was put on standard error**, oldest first. -/
def written (g : Stage κ) : List Log.Piece :=
  match g.step with
  | .command _ _ => g.after.system.journal.pieces.reverse
  | .outside _ => []

/-- **Stages that agree** but for the logging.  A quieter one writes less. -/
structure Alike (w : Leeway) (g g' : Stage κ) : Prop where
  outcome : Outcomes w Eq g.report.outcome g'.report.outcome
  channel : Option.Rel (Channel.Alike w) g.report.channel? g'.report.channel?
  calls : g'.report.calls = g.report.calls
  exchanges : g'.exchanges = g.exchanges
  after : Session.Alike w g.after g'.after
  written : w = .quieter → g.written.Sublist g'.written

end Stage

variable [Host κ]

/-- One step as a stage. -/
def stage (s : Session κ) (first : Step κ) : Stage κ :=
  ⟨first, (s.perform first).1, (s.perform first).2⟩

/-- **The stages of a run.** -/
def stages (s : Session κ) : List (Step κ) → List (Stage κ)
  | [] => []
  | first :: rest =>
    s.stage first ::
      if goesOn (s.stage first).report.outcome then (s.stage first).after.stages rest else []

/-- The stages that do more than to set how the log is written. -/
def told (stages : List (Stage κ)) : List (Stage κ) := stages.filter fun g => !g.step.tunes

/-- A run and its first stage. -/
theorem run_cons (s : Session κ) (first : Step κ) (rest : List (Step κ)) :
    s.run (first :: rest) =
      if goesOn (s.stage first).report.outcome then
        ((s.stage first).report :: ((s.stage first).after.run rest).1,
          ((s.stage first).after.run rest).2)
      else ([(s.stage first).report], (s.stage first).after) := rfl

/-- **A run reports its stages**, and ends where the last one does. -/
theorem run_eq_stages (s : Session κ) (steps : List (Step κ)) :
    s.run steps =
      ((s.stages steps).map Stage.report, ((s.stages steps).getLast?.map Stage.after).getD s) := by
  induction steps generalizing s with
  | nil => rfl
  | cons first rest ih =>
    rw [run_cons, stages]
    split
    · rw [ih, List.map_cons]
      cases (s.stage first).after.stages rest with
      | nil => rfl
      | cons g gs => rw [List.getLast?_cons_cons, List.getLast?_cons]; rfl
    · rfl

/-! ## One step -/

/-- The channels that a halt leaves agree. -/
theorem afterHalt_alike {roster roster' : Roster} (there : roster.Alike w roster')
    (subject? : Option String) {halt halt' : Halt} (agree : halt.Alike w halt') :
    (afterHalt roster subject? halt).Alike w (afterHalt roster' subject? halt') := by
  cases agree with
  | faulted message => exact there
  | aborted => exact there
  | endless => exact there
  | left message alike =>
    cases subject? with
    | none => exact there
    | some name => exact there.put name alike

/-- **A command is one stage like the other.** -/
theorem stage_command {s s' : Session κ} (there : s.Alike w s') (arrange : κ → κ)
    {command command' : Command} (alike : command.Alike w command') :
    (s.stage (.command arrange command)).Alike w (s'.stage (.command arrange command')) := by
  obtain ⟨⟨_, budget, trace, environment, journal, _, _⟩, channels, _⟩ := s
  obtain ⟨⟨host, budget', trace', environment', journal', ownership, bufferLength⟩, channels',
    allowance⟩ := s'
  obtain ⟨rfl, rfl, rfl, rfl, agree, journals, rosters⟩ := there
  obtain ⟨outcomes, systems⟩ := Command.run_matches rosters alike
    { host := arrange host, budget := allowance, trace := [], environment,
      journal := journal.emptied, ownership, bufferLength }
    { host := arrange host, budget := allowance, trace := [], environment := environment',
      journal := journal'.emptied, ownership, bufferLength } (.intro agree journals)
  have subject := subject?_eq alike
  unfold stage perform step observe
  dsimp only
  generalize (command.run channels : Act κ _).runOn _ = r at *
  generalize (command'.run channels' : Act κ _).runOn _ = r' at *
  obtain ⟨outcome, t⟩ := r
  obtain ⟨outcome', t'⟩ := r'
  obtain @⟨env, j, agree, journals⟩ := systems
  have written : w = .quieter → t.journal.pieces.reverse.Sublist j.pieces.reverse := by
    rintro rfl
    exact journals.pieces.reverse
  cases outcomes with
  | @ok a b same =>
    obtain ⟨answer, left⟩ := a
    obtain ⟨_, left'⟩ := b
    obtain ⟨rfl, rosters⟩ := same
    refine ⟨.ok rfl, ?_, rfl, rfl, ⟨rfl, rfl, rfl, rfl, agree, journals.emptied, rosters⟩, written⟩
    rw [subject]
    cases command.subject? with
    | none => exact .none
    | some name => exact rosters.lookup name
  | halted halts =>
    refine ⟨.halted halts, .none, rfl, rfl,
      ⟨rfl, rfl, rfl, rfl, agree, journals.emptied, ?_⟩, written⟩
    rw [subject]
    exact afterHalt_alike rosters _ halts

/-- **A step is one stage like the other.** -/
theorem stage_alike {s s' : Session κ} (there : s.Alike w s') {first first' : Step κ}
    (alike : first.Alike w first') : (s.stage first).Alike w (s'.stage first') := by
  cases alike with
  | command arrange alike => exact stage_command there arrange alike
  | outside change =>
    obtain ⟨⟨host, budget, trace, environment, journal, ownership, bufferLength⟩, channels,
      allowance⟩ := s
    obtain ⟨⟨_, budget', trace', environment', journal', _, _⟩, channels', _⟩ := s'
    obtain ⟨rfl, rfl, rfl, rfl, agree, journals, rosters⟩ := there
    exact ⟨.ok rfl, .none, rfl, rfl, ⟨rfl, rfl, rfl, rfl, agree, journals, rosters⟩,
      fun _ => List.Sublist.refl _⟩

/-- **Setting how the log is written** goes on with a session that differs in nothing else. -/
theorem stage_tunes (s : Session κ) {question : Query} (tunes : question.tunes = true) :
    goesOn (s.stage (.command id (.query question))).report.outcome = true ∧
      ∃ (budget : Nat) (j : Log.Journal), (s.stage (.command id (.query question))).after =
        { s with system := { s.system with budget, trace := [], journal := j } } := by
  obtain ⟨⟨host, budget, trace, environment, journal, ownership, bufferLength⟩, channels, _⟩ := s
  cases question with
  | setLogLevel level => exact ⟨rfl, _, _, rfl⟩
  | setLogTime enabled => exact ⟨rfl, _, _, rfl⟩
  | _ => exact Bool.noConfusion tunes

/-! ## A whole run -/

omit [Host κ] in
/-- Runs that agree go on after the same steps. -/
theorem Stage.Alike.goesOn_eq {g g' : Stage κ} (alike : g.Alike w g') :
    goesOn g'.report.outcome = goesOn g.report.outcome := by
  obtain ⟨outcome, -⟩ := alike
  generalize g.report.outcome = o at *
  generalize g'.report.outcome = o' at *
  cases outcome with
  | ok same => rfl
  | halted halts =>
    cases halts with
    | faulted message => rfl
    | left message alike => rfl
    | aborted => rfl
    | endless => rfl

/-- **A step that only tunes the log** is passed over. -/
theorem stages_tunes (s : Session κ) {question : Query} (tunes : question.tunes = true)
    (rest : List (Step κ)) : ∃ (budget : Nat) (j : Log.Journal),
      let after := { s with system := { s.system with budget, trace := [], journal := j } }
      told (s.stages (.command id (.query question) :: rest)) = told (after.stages rest) ∧
      (s.run (.command id (.query question) :: rest)).2 = (after.run rest).2 := by
  obtain ⟨goes, budget, j, after⟩ := s.stage_tunes tunes
  refine ⟨budget, j, ?_, ?_⟩
  · rw [stages, if_pos goes, after, told, List.filter_cons_of_neg]
    · rfl
    · show ¬ (!question.tunes) = true
      rw [tunes]
      exact Bool.false_ne_true
  · rw [run_cons, if_pos goes, after]

/-- **Stage by stage, two runs agree**, and so do the sessions at their ends. -/
theorem run_alike {steps steps' : List (Step κ)} (script : Script w steps steps')
    {s s' : Session κ} (there : s.Alike w s') :
    List.Forall₂ (Stage.Alike w) (told (s.stages steps)) (told (s'.stages steps')) ∧
      (s.run steps).2.Alike w (s'.run steps').2 := by
  induction script generalizing s s' with
  | done => exact ⟨.nil, there⟩
  | @both w first first' rest rest' alike _ ih =>
    have here := stage_alike there alike
    have others : List.Forall₂ (Stage.Alike w)
        (told (if goesOn (s.stage first).report.outcome then
          (s.stage first).after.stages rest else []))
        (told (if goesOn (s'.stage first').report.outcome then
          (s'.stage first').after.stages rest' else [])) := by
      rw [here.goesOn_eq]
      split
      · exact (ih here.after).1
      · exact .nil
    constructor
    · rw [stages, stages, told, told, List.filter_cons, List.filter_cons,
        show (s'.stage first').step.tunes = (s.stage first).step.tunes from alike.tunes_eq]
      split
      · exact .cons here others
      · exact others
    · rw [run_cons, run_cons, here.goesOn_eq]
      split
      · exact (ih here.after).2
      · exact here.after
  | @left question rest rest' tunes _ ih =>
    obtain ⟨budget, j, stages, run⟩ := s.stages_tunes tunes rest
    rw [stages, run]
    exact ih ⟨there.host, there.ownership, there.bufferLength, there.allowance,
      there.environment, trivial, there.channels⟩
  | @right question rest rest' tunes _ ih =>
    obtain ⟨budget, j, stages, run⟩ := s'.stages_tunes tunes rest'
    rw [stages, run]
    exact ih ⟨there.host, there.ownership, there.bufferLength, there.allowance,
      there.environment, trivial, there.channels⟩

/-- **A quieter run** puts on standard error a part of what the other puts there. -/
theorem written_sublist {steps steps' : List (Step κ)} (script : Script .quieter steps steps')
    {s s' : Session κ} (there : s.Alike .quieter s') :
    ((s.stages steps).flatMap Stage.written).Sublist
      ((s'.stages steps').flatMap Stage.written) := by
  generalize quiet : Leeway.quieter = w at script
  induction script generalizing s s' with
  | done => exact .slnil
  | @both w first first' rest rest' alike _ ih =>
    subst quiet
    have here := stage_alike there alike
    rw [stages, stages, List.flatMap_cons, List.flatMap_cons, here.goesOn_eq]
    refine (here.written rfl).append ?_
    split
    · exact ih here.after rfl
    · exact .slnil
  | left => exact Leeway.noConfusion quiet
  | right => exact Leeway.noConfusion quiet

/-- **Logging does not interfere.**  Take two runs, from any sessions, that differ in nothing but
the log level, the time stamps, the environment variables that bear on logging, the levels at which
the beginnings and endings of channels are logged, and the steps that set how the log is written.
Every other step comes to the same result or halt, makes the same exchanges with the host in the
same order, and leaves the same host and the same channels.  Where the level of the first run is
nowhere higher, no lines have time stamps and beginnings and endings are logged at the same levels,
what the first run puts on standard error is a **subsequence** of what the second one puts there:
the same lines, and the same bytes of channels between them, less the lines that the lower level
leaves out. -/
theorem logging_noninterference (s s' : Session κ) (steps steps' : List (Step κ)) :
    (s.Alike .free s' → Script .free steps steps' →
      List.Forall₂ (Stage.Alike .free) (told (s.stages steps)) (told (s'.stages steps')) ∧
        (s.run steps).2.Alike .free (s'.run steps').2) ∧
    (s.Alike .quieter s' → Script .quieter steps steps' →
      ((s.stages steps).flatMap Stage.written).Sublist
        ((s'.stages steps').flatMap Stage.written)) :=
  ⟨fun there script => run_alike script there, fun there script => written_sublist script there⟩

/-! A file is opened, written to and dropped before a flush, with levels that the environment
names. -/

/-- The session on the file, of which a step may make forty exchanges. -/
def notebook (level : String) : Session Simulation.Kernel where
  allowance := 40
  system :=
    { host := { nodes := [("f", { body := .file (.ofBytes [1, 2, 3]) })] }
      budget := 0
      environment := ⟨[("GVF_LOG_LEVEL", Bytes.ofText level)]⟩
      bufferLength := 4 }

/-- The steps on it. -/
def jotted : List (Step Simulation.Kernel) :=
  [.command id (.begin "a" (.openPath "f" { access := .readWrite } 0)),
    .command id (.operate "a" (.write [7] .never)),
    .command id (.finish "a" .drop)]

theorem notebook_environment_alike (w : Leeway) (level level' : String) :
    (notebook level).system.environment.Alike w (notebook level').system.environment := by
  constructor
  · intro name other
    have unequal : (name == "GVF_LOG_LEVEL") = false :=
      beq_false_of_ne fun same => other (same ▸ List.mem_cons_self)
    show List.lookup name [_] = List.lookup name [_]
    rw [List.lookup_cons, List.lookup_cons, unequal]
  · have unset (level : String) :
        (notebook level).system.environment.flag "GVF_LOG_LIFECYCLE" false = false := rfl
    rw [unset, unset]
    exact w.same_refl _

theorem script_jotted (w : Leeway) : Script w jotted jotted :=
  .both (.command id (.begin "a" (.openPath "f" _ 0)))
    (.both (.command id (.operate "a" _)) (.both (.command id (.finish "a" .drop)) .done))

theorem logging_noninterference_notebook :
    List.Forall₂ (Stage.Alike .free) (told ((notebook "off").stages jotted))
        (told ((notebook "trace").stages (.command id (.query (.setLogTime true)) :: jotted))) ∧
      ((notebook "warn").stages jotted).flatMap Stage.written =
        [.line "[WARN]  gvfile: fd 3: drop discarded 1 unflushed bytes"] ∧
      (((notebook "warn").stages jotted).flatMap Stage.written).Sublist
        (((notebook "trace").stages jotted).flatMap Stage.written) := by
  refine ⟨?_, by decide +kernel, ?_⟩
  · exact ((logging_noninterference (notebook "off") (notebook "trace") _ _).1
      ⟨rfl, rfl, rfl, rfl, notebook_environment_alike _ _ _, trivial, .nil⟩
      (.right rfl (script_jotted _))).1
  · refine (logging_noninterference (notebook "warn") (notebook "trace") _ _).2
      ⟨rfl, rfl, rfl, rfl, notebook_environment_alike _ _ _, ?_, .nil⟩ (script_jotted _)
    have warn (now : Nat) : ((notebook "warn").system.journal.settings
        (notebook "warn").system.environment now) = { level := .warn, epoch := now } := by cbv
    have trace (now : Nat) : ((notebook "trace").system.journal.settings
        (notebook "trace").system.environment now) = { level := .trace, epoch := now } := by cbv
    refine ⟨fun now => ?_, fun now => ?_, .slnil⟩
    · show ((notebook "warn").system.journal.settings _ now).level.rank ≤
        ((notebook "trace").system.journal.settings _ now).level.rank
      rw [warn, trace]
      exact (by decide : Log.Level.warn.rank ≤ Log.Level.trace.rank)
    · show ((notebook "warn").system.journal.settings _ now).timed = false ∧
        ((notebook "trace").system.journal.settings _ now).timed = false
      rw [warn, trace]
      exact ⟨rfl, rfl⟩

end BufferedChannels.Session
