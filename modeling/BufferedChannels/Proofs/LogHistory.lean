import Mathlib
import BufferedChannels.System

/-!
# Proofs/LogHistory — the settings of logging over whole histories

Every call of logging looks for the settings and takes them from the environment if they are not
there.  So **the environment is read once**, at the first call that uses logging, and what is in
force at any moment of a history (`Moment.inForce`) is what was set last or what that first
environment asked for; the epoch is the instant of that first call.  A line at level `off` uses
nothing: it comes to nothing, wherever it stands.
-/

namespace BufferedChannels.Log

/-! ## Calls -/

/-- **A call of logging.** -/
inductive Call where
  | init
  | setLevel (level : Level)
  | setTimed (on : Bool)
  | setFlushed (on : Bool)
  | askLevel
  | askFlushed
  | log (level : Level) (message : String)
  | print (message : String)
  deriving DecidableEq

/-- **What a call answers**; only questions have an answer. -/
inductive Reply where
  | done
  | level (level : Level)
  | flushed (on : Bool)
  deriving DecidableEq

namespace Call

/-- **Runs a call.** -/
def run {κ : Type} [Host κ] : Call → Act κ Reply
  | .init => do
    Act.journal Journal.begin
    return .done
  | .setLevel level => do
    Act.adjustLog fun settings => { settings with level }
    return .done
  | .setTimed on => do
    Act.adjustLog fun settings => { settings with timed := on }
    return .done
  | .setFlushed on => do
    Act.adjustLog fun settings => { settings with flushed := on }
    return .done
  | .askLevel => return .level (← Act.logSettings).level
  | .askFlushed => return .flushed (← Act.logSettings).flushed
  | .log level message => do
    Act.log level message
    return .done
  | .print message => do
    Act.print message
    return .done

/-- Whether a call uses logging at all. -/
def uses : Call → Bool
  | .log .off _ => false
  | _ => true

/-- The level that a call sets. -/
def level? : Call → Option Level
  | .setLevel level => some level
  | _ => none

/-- The switch of time stamps that a call sets. -/
def timed? : Call → Option Bool
  | .setTimed on => some on
  | _ => none

/-- The switch of flushing that a call sets. -/
def flushed? : Call → Option Bool
  | .setFlushed on => some on
  | _ => none

/-- The answer to a call under settings. -/
def reply (t : Settings) : Call → Reply
  | .askLevel => .level t.level
  | .askFlushed => .flushed t.flushed
  | _ => .done

/-- **What a call writes** under settings at an instant: a line at a level if the level is not `off`
and at most the one in force, and a line without a level in any case. -/
def written (t : Settings) (now : Nat) : Call → List Piece
  | .log level message =>
    if level ≠ .off ∧ level.rank ≤ t.level.rank then [.line (Journal.line t now level message)]
    else []
  | .print message => [.line message]
  | _ => []

end Call

/-! ## Settings after calls -/

/-- **The settings after calls**: of each, what was set last, or what was there initially. -/
def Settings.after (initial : Settings) (calls : List Call) : Settings where
  level := (calls.filterMap Call.level?).getLast?.getD initial.level
  timed := (calls.filterMap Call.timed?).getLast?.getD initial.timed
  flushed := (calls.filterMap Call.flushed?).getLast?.getD initial.flushed
  epoch := initial.epoch

namespace Settings

variable {initial : Settings}

/-- Later calls set what they set, one after another. -/
theorem after_append (calls more : List Call) :
    initial.after (calls ++ more) = (initial.after calls).after more := by
  simp only [after, List.filterMap_append, List.getLast?_append, Option.getD_or]

/-- Calls that use nothing set nothing. -/
theorem after_of_unused {calls : List Call} (unused : ∀ call ∈ calls, call.uses = false) :
    initial.after calls = initial := by
  have idle (call : Call) (unused : call.uses = false) :
      call.level? = none ∧ call.timed? = none ∧ call.flushed? = none := by
    cases call with
    | log => exact ⟨rfl, rfl, rfl⟩
    | _ => cases unused
  have nothing {α : Type} (sets : Call → Option α)
      (idle : ∀ call, call.uses = false → sets call = none) : calls.filterMap sets = [] :=
    List.filterMap_eq_nil_iff.2 fun call mem => idle call (unused call mem)
  rw [after, nothing _ fun call h => (idle call h).1, nothing _ fun call h => (idle call h).2.1,
    nothing _ fun call h => (idle call h).2.2]
  rfl

end Settings

/-! ## What a call comes to -/

/-- **A line at a level** is written if its level is not `off` and at most the one in force, and at
`off` not even the settings are taken. -/
theorem Journal.log_eq (j : Journal) (env : Environment) (now : Nat) (level : Level)
    (message : String) : j.log env now level message =
      { settings? :=
          if (Call.log level message).uses then some (j.settings env now) else j.settings?
        pieces := (Call.log level message).written (j.settings env now) now ++ j.pieces } := by
  by_cases off : level = .off
  · subst off
    rfl
  have uses : (Call.log level message).uses = true := by
    cases level <;> first | rfl | contradiction
  have shown : level.shownAt (j.settings env now).level = true ↔
      level ≠ .off ∧ level.rank ≤ (j.settings env now).level.rank := by
    rw [Level.shownAt, Bool.and_eq_true, decide_eq_true_iff, decide_eq_true_iff]
  rw [Journal.log, if_neg off, if_pos uses, Call.written]
  by_cases low : level ≠ .off ∧ level.rank ≤ (j.settings env now).level.rank
  · rw [if_pos low]
    exact if_pos (shown.2 low)
  · rw [if_neg low]
    exact if_neg (mt shown.1 low)

variable {κ : Type} [Host κ]

/-- **A call comes to what the settings in force say**, which are those that are there or, for the
first call, those that the environment asks for; from then on they are there. -/
theorem Call.runOn_run (call : Call) (s : System κ) :
    (call.run : Act κ Reply).runOn s =
      let t := s.journal.settings s.environment (Host.now s.host)
      (.ok (call.reply t), { s with journal :=
        { settings? := if call.uses then some (t.after [call]) else s.journal.settings?
          pieces := call.written t (Host.now s.host) ++ s.journal.pieces } }) := by
  cases call with
  | log level message =>
    have run : (Call.run (.log level message) : Act κ Reply).runOn s =
        (.ok .done, { s with
          journal := s.journal.log s.environment (Host.now s.host) level message }) := rfl
    rw [run, Journal.log_eq]
    rfl
  | _ => rfl

/-! ## Histories -/

/-- **A moment of a history**: a call, with the environment and the host as they are by then. -/
structure Moment (κ : Type) where
  environment : Environment
  host : κ
  call : Call

/-- Runs the call of a moment. -/
def Moment.run (m : Moment κ) : Act κ Reply := do
  modify fun s => { s with environment := m.environment, host := m.host }
  m.call.run

/-- **Runs a history.** -/
def runAll : List (Moment κ) → Act κ (List Reply)
  | [] => return []
  | m :: rest => do
    let first ← m.run
    return first :: (← runAll rest)

/-- The settings that the environment asks for at a moment. -/
def Moment.asked (m : Moment κ) : Settings := .ofEnvironment m.environment (Host.now m.host)

/-- **The settings that a history leaves**: the first call that uses logging takes what its
environment asks for. -/
def left? (past : List (Moment κ)) : Option Settings :=
  (past.find? fun m => m.call.uses).map fun first => first.asked.after (past.map Moment.call)

/-- **The settings in force at a moment** after others.  Each is what was set last.  What was not
set is what the environment asked for at the first moment that uses logging: the level that the
variable names, or `info` if it is not set, is no text or names no level, and a switch is off unless
its variable says yes. -/
def Moment.inForce (past : List (Moment κ)) (m : Moment κ) : Settings :=
  let first := (past.find? fun before => before.call.uses).getD m
  let calls := past.map Moment.call
  { level := (calls.filterMap Call.level?).getLast?.getD
      (((first.environment.text? "GVF_LOG_LEVEL").bind Level.parse?).getD .info)
    timed := (calls.filterMap Call.timed?).getLast?.getD
      ((first.environment.text? "GVF_LOG_TIME").elim false Text.isTruthy)
    flushed := (calls.filterMap Call.flushed?).getLast?.getD
      ((first.environment.text? "GVF_FLUSH_EPRINT").elim false Text.isTruthy)
    epoch := Host.now first.host }

theorem Moment.inForce_eq (past : List (Moment κ)) (m : Moment κ) : m.inForce past =
    ((past.find? fun before => before.call.uses).getD m).asked.after (past.map Moment.call) := by
  generalize hfirst : (past.find? fun before => before.call.uses).getD m = first
  have level : first.asked.level =
      ((first.environment.text? "GVF_LOG_LEVEL").bind Level.parse?).getD .info := by
    rw [Moment.asked, Settings.ofEnvironment]
    dsimp only
    cases first.environment.text? "GVF_LOG_LEVEL" <;> rfl
  have flag (name : String) : first.environment.flag name false =
      (first.environment.text? name).elim false Text.isTruthy := by
    rw [Environment.flag]
    cases first.environment.text? name <;> rfl
  rw [Moment.inForce, hfirst, Settings.after, level, Moment.asked, Settings.ofEnvironment]
  dsimp only
  rw [flag, flag]

/-- **The environment is read once**: what is in force is what the first moment that uses logging
asked for, changed by what was set since, whatever the environments of all other moments are. -/
theorem Moment.inForce_of_first {idle later : List (Moment κ)} {first : Moment κ}
    (unused : ∀ before ∈ idle, before.call.uses = false) (used : first.call.uses = true)
    (m : Moment κ) : m.inForce (idle ++ first :: later) =
      first.asked.after ((first :: later).map Moment.call) := by
  have none : idle.find? (fun before => before.call.uses) = none :=
    List.find?_eq_none.2 fun before mem => by simp [unused before mem]
  have idles : ∀ call ∈ idle.map Moment.call, call.uses = false := by
    intro call mem
    obtain ⟨before, earlier, rfl⟩ := List.mem_map.1 mem
    exact unused before earlier
  rw [Moment.inForce_eq, List.find?_append, none, List.map_append, Settings.after_append,
    Settings.after_of_unused idles, List.find?_cons, used]
  rfl

/-- A line and a switch after it, and the environment changed before the question. -/
example (host : κ) : Moment.inForce
    [⟨⟨[("GVF_LOG_LEVEL", Bytes.ofText " Debug")]⟩, host, .print ""⟩, ⟨{}, host, .setTimed true⟩]
    ⟨⟨[("GVF_LOG_LEVEL", Bytes.ofText "off")]⟩, host, .askLevel⟩ =
      { level := .debug, timed := true, epoch := Host.now host } := by cbv

/-- What is there is in force, and else what the moment itself asks for. -/
theorem Moment.settings_of_left {past : List (Moment κ)} {j : Journal}
    (there : j.settings? = left? past) (m : Moment κ) :
    j.settings m.environment (Host.now m.host) = m.inForce past := by
  rw [Moment.inForce_eq, Journal.settings, there, left?]
  cases found : past.find? fun before => before.call.uses with
  | none =>
    refine (Settings.after_of_unused fun call mem => ?_).symm
    obtain ⟨before, earlier, rfl⟩ := List.mem_map.1 mem
    exact Bool.eq_false_iff.2 (List.find?_eq_none.1 found before earlier)
  | some first => rfl

/-- **One more moment** leaves what was in force and is set by its call, unless nothing used logging
yet. -/
theorem left?_concat (past : List (Moment κ)) (m : Moment κ) :
    left? (past ++ [m]) =
      if m.call.uses then some ((m.inForce past).after [m.call]) else left? past := by
  have idle (unused : m.call.uses = false) : ∀ call ∈ [m.call], call.uses = false := fun _ mem => by
    rwa [List.mem_singleton.1 mem]
  rw [Moment.inForce_eq, left?, left?, List.find?_append, List.map_append, List.find?_singleton]
  cases past.find? fun before => before.call.uses with
  | none =>
    cases uses : m.call.uses with
    | true => exact congrArg some (Settings.after_append _ _)
    | false => rfl
  | some first =>
    have concat := congrArg some (first.asked.after_append (past.map Moment.call) [m.call])
    cases uses : m.call.uses with
    | true => exact concat
    | false => exact concat.trans (congrArg some (Settings.after_of_unused (idle uses)))

/-- **A moment comes to what is in force then**, and leaves what its history leaves. -/
theorem Moment.runOn_run {past : List (Moment κ)} (m : Moment κ) {s : System κ}
    (there : s.journal.settings? = left? past) :
    ∃ s', m.run.runOn s = (.ok (m.call.reply (m.inForce past)), s') ∧
      s'.journal.settings? = left? (past ++ [m]) ∧
      s'.journal.pieces =
        m.call.written (m.inForce past) (Host.now m.host) ++ s.journal.pieces := by
  have run : m.run.runOn s =
      m.call.run.runOn { s with environment := m.environment, host := m.host } := rfl
  rw [run, Call.runOn_run, left?_concat, ← there, ← settings_of_left there m]
  exact ⟨_, rfl, rfl, rfl⟩

/-- **A history runs to its end** and leaves what it leaves. -/
theorem runOn_runAll {past : List (Moment κ)} (rest : List (Moment κ)) {s : System κ}
    (there : s.journal.settings? = left? past) :
    ∃ replies s', (runAll rest).runOn s = (.ok replies, s') ∧
      s'.journal.settings? = left? (past ++ rest) := by
  induction rest generalizing past s with
  | nil => exact ⟨[], s, rfl, by rw [List.append_nil, there]⟩
  | cons m rest ih =>
    obtain ⟨s₁, run, there₁, _⟩ := m.runOn_run there
    obtain ⟨replies, s', run', left⟩ := ih there₁
    refine ⟨m.call.reply (m.inForce past) :: replies, s', ?_, by simpa using left⟩
    rw [runAll, Act.runOn_bind, run]
    dsimp only
    rw [Act.runOn_bind, run']
    rfl

/-- **The settings of logging over whole histories.**  Take a process that begins and any history of
calls, each in whatever environment and at whatever time.  It runs to its end; the settings are
there as soon as a call used logging (`left?`), and only the environment of that first call counts.
**Any call that follows comes to what is in force then** (`Moment.inForce`): a question is answered
with it, a line at a level is written exactly if its level is not `off` and is at most the one in
force, a line without a level is written in any case, and so is the line that a process ends
with. -/
theorem history_governed_by_first_use (past : List (Moment κ)) (m : Moment κ) (s : System κ) :
    ∃ replies s' s'', (runAll past).runOn { s with journal := {} } = (.ok replies, s') ∧
      s'.journal.settings? = left? past ∧
      m.run.runOn s' = (.ok (m.call.reply (m.inForce past)), s'') ∧
      s''.journal.settings? = left? (past ++ [m]) ∧
      s''.journal.pieces =
        m.call.written (m.inForce past) (Host.now m.host) ++ s'.journal.pieces ∧
      ∀ message, (Act.abort message : Act κ Unit).runOn s' = (.error .aborted, { s' with
        journal := { s'.journal with
          pieces := .line ("[ERROR] gvfile: fatal: " ++ message) :: s'.journal.pieces } }) := by
  have begins : ({ s with journal := {} } : System κ).journal.settings? =
      left? ([] : List (Moment κ)) := rfl
  obtain ⟨replies, s', run, there⟩ := runOn_runAll past begins
  obtain ⟨s'', run', there', written⟩ := m.runOn_run there
  exact ⟨replies, s', s'', run, there, run', there', written, fun message => rfl⟩

end BufferedChannels.Log
