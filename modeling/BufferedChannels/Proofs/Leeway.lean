import Mathlib.Data.List.Forall2
import BufferedChannels.Session.Run

/-!
# Proofs/Leeway — what two runs may differ in

Two runs are held side by side that are to differ in their logging only.  A `Leeway` says how much:
everything that bears on logging, or just the level, where the first run is the **quieter** one.
Systems, channels and halts are `Alike` when nothing else tells them apart, and two computations
`Matches` when on systems that are alike they come to outcomes that are alike.  There is one rule
for each way in which computations are put together.
-/

namespace BufferedChannels

/-- **What two runs may differ in.** -/
inductive Leeway where
  /-- Everything that bears on logging. -/
  | free
  /-- The level, which is nowhere higher in the first run; neither run has time stamps. -/
  | quieter

/-! ## Environments and configurations -/

/-- The environment variables that bear on logging. -/
def Log.variables : List String :=
  ["GVF_LOG_LEVEL", "GVF_LOG_TIME", "GVF_FLUSH_EPRINT", "GVF_LOG_LIFECYCLE"]

namespace Leeway

/-- Whether one may stand where the other does, where only the logging depends on it. -/
def Same {α : Type} : Leeway → α → α → Prop
  | free, _, _ => True
  | quieter, a, a' => a' = a

/-- Whether these levels may be set. -/
def Levels : Leeway → Log.Level → Log.Level → Prop
  | free, _, _ => True
  | quieter, l, l' => l.rank ≤ l'.rank

/-- Whether time stamps may be set so. -/
def Stamps : Leeway → Bool → Bool → Prop
  | free, _, _ => True
  | quieter, t, t' => t = false ∧ t' = false

theorem same_refl (w : Leeway) {α : Type} (a : α) : w.Same a a := by
  cases w
  · trivial
  · rfl

end Leeway

variable {w : Leeway}

/-- **Environments that agree** but for the logging, and within the leeway also there. -/
structure Environment.Alike (w : Leeway) (env env' : Environment) : Prop where
  others : ∀ name ∉ Log.variables, env'.entries.lookup name = env.entries.lookup name
  verbose : w.Same (env.flag "GVF_LOG_LIFECYCLE" false) (env'.flag "GVF_LOG_LIFECYCLE" false)

/-- **Configurations that agree** but for the logging. -/
inductive Config.Alike (w : Leeway) (config : Config) : Config → Prop
  | intro {v : Bool} : w.Same config.logLifecycle v →
      Alike w config { config with logLifecycle := v }

/-- **Recipes that agree** but for the logging. -/
inductive ConfigSource.Alike (w : Leeway) (source : ConfigSource) : ConfigSource → Prop
  | intro {v? : Option Bool} : (∀ v v', w.Same v v' →
      w.Same (source.logLifecycle?.getD v) (v?.getD v')) →
      Alike w source { source with logLifecycle? := v? }

namespace Environment.Alike

variable {env env' : Environment}

theorem text?_eq (h : env.Alike w env') {name : String} (other : name ∉ Log.variables) :
    env'.text? name = env.text? name := by
  rw [text?, text?, h.others name other]

/-- **The configuration of a process** agrees. -/
theorem config (h : env.Alike w env') :
    (Config.ofEnvironment env).Alike w (.ofEnvironment env') := by
  have mode : env'.octal "GVF_OPEN_MODE" Config.library.openMode =
      env.octal "GVF_OPEN_MODE" Config.library.openMode := by
    rw [octal, octal, h.text?_eq (by decide)]
  have cloexec : env'.flag "GVF_CLOEXEC" Config.library.cloexec =
      env.flag "GVF_CLOEXEC" Config.library.cloexec := by
    rw [flag, flag, h.text?_eq (by decide)]
  have same : Config.ofEnvironment env' = { Config.ofEnvironment env with
      logLifecycle := env'.flag "GVF_LOG_LIFECYCLE" false } := by
    rw [Config.ofEnvironment, mode, cloexec]
    rfl
  rw [same]
  exact .intro h.verbose

/-- A configuration made from its recipe agrees. -/
theorem resolve (h : env.Alike w env') {source source' : ConfigSource}
    (alike : source.Alike w source') : (source.resolve env).Alike w (source'.resolve env') := by
  obtain ⟨lifts⟩ := alike
  unfold ConfigSource.resolve
  dsimp only
  cases source.fromEnvironment with
  | false => exact .intro (lifts _ _ (w.same_refl _))
  | true =>
    rw [if_pos rfl, if_pos rfl]
    have agrees := h.config
    generalize Config.ofEnvironment env = config at *
    generalize Config.ofEnvironment env' = config' at *
    obtain ⟨verbose⟩ := agrees
    exact .intro (lifts _ _ verbose)

end Environment.Alike

/-! ## Journals -/

namespace Log.Journal

/-- **A quieter journal**: its level is no higher, neither has time stamps, and its pieces stand
among those of the other in the same order. -/
structure Quieter (env env' : Environment) (j j' : Journal) : Prop where
  level : ∀ now, (j.settings env now).level.rank ≤ (j'.settings env' now).level.rank
  untimed : ∀ now, (j.settings env now).timed = false ∧ (j'.settings env' now).timed = false
  pieces : j.pieces.Sublist j'.pieces

namespace Quieter

variable {env env' : Environment} {j j' : Journal}

theorem write (h : Quieter env env' j j') (line : String) :
    Quieter env env' (j.write line) (j'.write line) :=
  ⟨h.level, h.untimed, h.pieces.cons_cons _⟩

theorem begin (h : Quieter env env' j j') (now : Nat) :
    Quieter env env' (j.begin env now) (j'.begin env' now) :=
  ⟨fun _ => h.level now, fun _ => h.untimed now, h.pieces⟩

/-- **A line that the quieter journal shows** is shown by the other as it is. -/
theorem log (h : Quieter env env' j j') (now : Nat) (level : Level) (message : String) :
    Quieter env env' (j.log env now level message) (j'.log env' now level message) := by
  unfold Journal.log
  by_cases off : level = .off
  · rw [if_pos off, if_pos off]
    exact h
  rw [if_neg off, if_neg off]
  dsimp only
  have begun := h.begin now
  have same : line (j'.settings env' now) now level message =
      line (j.settings env now) now level message := by
    rw [line, line, (h.untimed now).1, (h.untimed now).2, if_neg Bool.false_ne_true,
      if_neg Bool.false_ne_true]
  by_cases shown : level.shownAt (j.settings env now).level = true
  · have shown' : level.shownAt (j'.settings env' now).level = true := by
      have le := h.level now
      simp only [Level.shownAt, Bool.and_eq_true, decide_eq_true_eq] at shown ⊢
      exact ⟨shown.1, Nat.le_trans shown.2 le⟩
    rw [if_pos shown, if_pos shown', same]
    exact begun.write _
  · rw [if_neg shown]
    split
    · exact ⟨begun.level, begun.untimed, begun.pieces.cons _⟩
    · exact begun

theorem receive (h : Quieter env env' j j') (bytes : Bytes) :
    Quieter env env' (j.receive bytes) (j'.receive bytes) := by
  unfold Journal.receive
  split
  · exact h
  · exact ⟨h.level, h.untimed, h.pieces.cons_cons _⟩

theorem emptied (h : Quieter env env' j j') : Quieter env env' j.emptied j'.emptied :=
  ⟨h.level, h.untimed, .slnil⟩

end Quieter

end Log.Journal

/-- **Journals within the leeway.** -/
def Leeway.Journals : Leeway → Environment → Environment → Log.Journal → Log.Journal → Prop
  | free, _, _, _, _ => True
  | quieter, env, env', j, j' => Log.Journal.Quieter env env' j j'

namespace Leeway.Journals

variable {env env' : Environment} {j j' : Log.Journal}

theorem log (h : w.Journals env env' j j') (now : Nat) (level : Log.Level) (message : String) :
    w.Journals env env' (j.log env now level message) (j'.log env' now level message) := by
  cases w with
  | free => trivial
  | quieter => exact Log.Journal.Quieter.log h now level message

theorem print (h : w.Journals env env' j j') (now : Nat) {message message' : String}
    (same : w.Same message message') :
    w.Journals env env' (j.print env now message) (j'.print env' now message') := by
  cases w with
  | free => trivial
  | quieter =>
    obtain rfl : message' = message := same
    exact (Log.Journal.Quieter.write h message').begin now

theorem fatal (h : w.Journals env env' j j') (message : String) :
    w.Journals env env' (j.fatal message) (j'.fatal message) := by
  cases w with
  | free => trivial
  | quieter => exact Log.Journal.Quieter.write h _

theorem receive (h : w.Journals env env' j j') (bytes : Bytes) :
    w.Journals env env' (j.receive bytes) (j'.receive bytes) := by
  cases w with
  | free => trivial
  | quieter => exact Log.Journal.Quieter.receive h bytes

theorem emptied (h : w.Journals env env' j j') : w.Journals env env' j.emptied j'.emptied := by
  cases w with
  | free => trivial
  | quieter => exact Log.Journal.Quieter.emptied h

/-- A level that may be set. -/
theorem setLevel (h : w.Journals env env' j j') (now : Nat) {l l' : Log.Level}
    (may : w.Levels l l') : w.Journals env env' (j.adjust env now fun s => { s with level := l })
      (j'.adjust env' now fun s => { s with level := l' }) := by
  cases w with
  | free => trivial
  | quieter => exact ⟨fun _ => may, fun _ => h.untimed now, h.pieces⟩

/-- Time stamps that may be set. -/
theorem setTime (h : w.Journals env env' j j') (now : Nat) {t t' : Bool} (may : w.Stamps t t') :
    w.Journals env env' (j.adjust env now fun s => { s with timed := t })
      (j'.adjust env' now fun s => { s with timed := t' }) := by
  cases w with
  | free => trivial
  | quieter => exact ⟨fun _ => h.level now, fun _ => may, h.pieces⟩

end Leeway.Journals

/-! ## Channels, halts and systems -/

/-- **Channels that agree** but for the logging. -/
inductive Channel.Alike (w : Leeway) (c : Channel) : Channel → Prop
  | intro {v : Bool} : w.Same c.verbose v → Alike w c { c with verbose := v }

/-- **Halts that agree**, up to the logging of the channel that they leave. -/
inductive Halt.Alike (w : Leeway) : Halt → Halt → Prop
  | faulted (message : String) : Alike w (.faulted message none) (.faulted message none)
  | left (message : String) {c c' : Channel} : c.Alike w c' →
      Alike w (.faulted message (some c)) (.faulted message (some c'))
  | aborted : Alike w .aborted .aborted
  | endless : Alike w .endless .endless

variable {κ : Type} {α α' β β' σ σ' : Type}

/-- **Systems that agree** but for the logging. -/
inductive System.Alike (w : Leeway) (s : System κ) : System κ → Prop
  | intro {env : Environment} {j : Log.Journal} : s.environment.Alike w env →
      w.Journals s.environment env s.journal j →
      Alike w s { s with environment := env, journal := j }

/-- **Outcomes that agree**: values as given, or halts. -/
inductive Outcomes (w : Leeway) (values : α → β → Prop) : Except Halt α → Except Halt β → Prop
  | ok {a : α} {b : β} : values a b → Outcomes w values (.ok a) (.ok b)
  | halted {h h' : Halt} : h.Alike w h' → Outcomes w values (.error h) (.error h')

theorem Halt.Alike.leaving {h h' : Halt} (alike : h.Alike w h') {c c' : Channel}
    (left : c.Alike w c') : (h.leaving c).Alike w (h'.leaving c') := by
  cases alike with
  | faulted message => exact .left message left
  | left message other => exact .left message other
  | aborted => exact .aborted
  | endless => exact .endless

/-! ## Computations -/

namespace Act

/-- **Computations that match**: on systems that agree, what comes of them agrees. -/
def Matches (w : Leeway) (act : Act κ α) (act' : Act κ β) (values : α → β → Prop) : Prop :=
  ∀ s s', System.Alike w s s' → Outcomes w values (act.runOn s).1 (act'.runOn s').1 ∧
    System.Alike w (act.runOn s).2 (act'.runOn s').2

variable {values : α → α' → Prop} {values' : β → β' → Prop}

theorem matches_pure {a : α} {b : α'} (h : values a b) :
    Matches w (pure a : Act κ α) (pure b) values := fun _ _ alike => ⟨.ok h, alike⟩

theorem matches_throw {h h' : Halt} (agree : h.Alike w h') :
    Matches w (throw h : Act κ α) (throw h') values := fun _ _ alike => ⟨.halted agree, alike⟩

/-- **One part after another.** -/
theorem Matches.bind {act : Act κ α} {act' : Act κ α'} {next : α → Act κ β} {next' : α' → Act κ β'}
    (first : Matches w act act' values)
    (rest : ∀ a b, values a b → Matches w (next a) (next' b) values') :
    Matches w (act >>= next) (act' >>= next') values' := by
  intro s s' alike
  obtain ⟨agree, after⟩ := first s s' alike
  rw [runOn_bind, runOn_bind]
  generalize act.runOn s = r at *
  generalize act'.runOn s' = r' at *
  obtain ⟨outcome, t⟩ := r
  obtain ⟨outcome', t'⟩ := r'
  cases agree with
  | ok h => exact rest _ _ h _ _ after
  | halted h => exact ⟨.halted h, after⟩

/-- The same choice on both sides. -/
theorem matches_if {p q : Prop} [Decidable p] [Decidable q] {act other : Act κ α}
    {act' other' : Act κ α'} (same : p ↔ q) (yes : Matches w act act' values)
    (no : Matches w other other' values) :
    Matches w (if p then act else other) (if q then act' else other') values := by
  by_cases h : p
  · rw [if_pos h, if_pos (same.1 h)]
    exact yes
  · rw [if_neg h, if_neg (mt same.2 h)]
    exact no

/-- One part after another, where the first gives the same. -/
theorem Matches.then {act : Act κ α} {act' : Act κ α} {next : α → Act κ β} {next' : α → Act κ β'}
    (first : Matches w act act' Eq) (rest : ∀ a, Matches w (next a) (next' a) values') :
    Matches w (act >>= next) (act' >>= next') values' :=
  first.bind fun a _ same => same ▸ rest a

theorem Matches.imp {act : Act κ α} {act' : Act κ α'} {weaker : α → α' → Prop}
    (h : Matches w act act' values) (le : ∀ a b, values a b → weaker a b) :
    Matches w act act' weaker := by
  intro s s' alike
  obtain ⟨agree, after⟩ := h s s' alike
  generalize act.runOn s = r at *
  generalize act'.runOn s' = r' at *
  obtain ⟨outcome, t⟩ := r
  obtain ⟨outcome', t'⟩ := r'
  cases agree with
  | ok h => exact ⟨.ok (le _ _ h), after⟩
  | halted h => exact ⟨.halted h, after⟩

theorem matches_get : Matches w (get : Act κ (System κ)) get (System.Alike w) :=
  fun _ _ alike => ⟨.ok alike, alike⟩

theorem matches_set {s s' : System κ} (agree : s.Alike w s') :
    Matches w (set s : Act κ PUnit) (set s') Eq := fun _ _ _ => ⟨.ok rfl, agree⟩

theorem matches_check (r : Except BufferFault α) : Matches w (check r : Act κ α) (check r) Eq := by
  cases r with
  | ok a => exact matches_pure rfl
  | error broken => exact matches_throw (.faulted _)

/-- **Leaving a channel** and one that agrees. -/
theorem Matches.leaving {act : Act κ α} {act' : Act κ α'} (h : Matches w act act' values)
    {c c' : Channel} (left : c.Alike w c') :
    Matches w (Act.leaving c act) (Act.leaving c' act') values := by
  intro s s' alike
  obtain ⟨agree, after⟩ := h s s' alike
  rw [runOn_leaving, runOn_leaving]
  generalize act.runOn s = r at *
  generalize act'.runOn s' = r' at *
  obtain ⟨outcome, t⟩ := r
  obtain ⟨outcome', t'⟩ := r'
  cases agree with
  | ok h => exact ⟨.ok h, after⟩
  | halted h => exact ⟨.halted (h.leaving left), after⟩

/-- **Loops match** when their turns do. -/
theorem matches_loop {turn : σ → Act κ (σ ⊕ α)} {turn' : σ' → Act κ (σ' ⊕ α')}
    (states : σ → σ' → Prop) {x : σ} {y : σ'} (start : states x y)
    (step : ∀ x y, states x y → Matches w (turn x) (turn' y) (Sum.LiftRel states values)) :
    Matches w (loop turn x) (loop turn' y) values := by
  have all (n : Nat) : ∀ x y, states x y →
      Matches w (turns turn n x) (turns turn' n y) values := by
    induction n with
    | zero => exact fun _ _ _ => matches_throw .endless
    | succ n ih =>
      refine fun x y start => (step x y start).bind fun r r' agree => ?_
      cases agree with
      | inl agree => exact ih _ _ agree
      | inr agree => exact matches_pure agree
  refine matches_get.bind fun s s' alike => ?_
  obtain ⟨_, _⟩ := alike
  exact all (s.budget + 1) x y start

/-- Loops match when their turns match from the same states. -/
theorem matches_repeat {turn turn' : σ → Act κ (σ ⊕ α)}
    (step : ∀ x, Matches w (turn x) (turn' x) Eq) {x : σ} :
    Matches w (loop turn x) (loop turn' x) Eq :=
  matches_loop Eq rfl fun x y same => by
    subst same
    refine (step x).imp fun r r' same => ?_
    subst same
    cases r with
    | inl _ => exact .inl rfl
    | inr _ => exact .inr rfl

section

variable [Host κ]

/-- **A request** gets the same reply. -/
theorem matches_call (r : Request) : Matches w (call r : Act κ r.Reply) (call r) Eq := by
  intro s s' alike
  obtain ⟨agree, journals⟩ := alike
  obtain ⟨host, budget, trace, environment, journal, ownership, bufferLength⟩ := s
  cases budget with
  | zero => exact ⟨.halted .endless, .intro agree journals⟩
  | succ left => exact ⟨.ok rfl, .intro agree (journals.receive _)⟩

theorem matches_now : Matches w (now : Act κ Nat) now Eq := by
  refine matches_get.bind fun s s' alike => ?_
  obtain ⟨_, _⟩ := alike
  exact matches_pure rfl

/-- **A change of the journal** that the leeway allows. -/
theorem matches_journal {change change' : Log.Journal → Environment → Nat → Log.Journal}
    (allowed : ∀ env env' j j' now, w.Journals env env' j j' →
      w.Journals env env' (change j env now) (change' j' env' now)) :
    Matches w (journal change : Act κ Unit) (journal change') Eq := by
  intro s s' alike
  obtain ⟨agree, journals⟩ := alike
  exact ⟨.ok rfl, .intro agree (allowed _ _ _ _ _ journals)⟩

theorem matches_log (level : Log.Level) (message : String) :
    Matches w (log level message : Act κ Unit) (log level message) Eq :=
  matches_journal fun _ _ _ _ now journals => journals.log now level message

theorem matches_print {message message' : String} (same : w.Same message message') :
    Matches w (print message : Act κ Unit) (print message') Eq :=
  matches_journal fun _ _ _ _ now journals => journals.print now same

/-- **Lines are shown** one after another on both sides. -/
theorem matches_printAll {lines lines' : List String} (same : List.Forall₂ w.Same lines lines') :
    Matches w (printAll lines : Act κ Unit) (printAll lines') Eq := by
  induction same with
  | nil => exact matches_pure rfl
  | cons first _ rest => exact (matches_print first).then fun _ => rest

theorem matches_abort (message : String) :
    Matches w (abort message : Act κ α) (abort message) values :=
  (matches_journal fun _ _ _ _ _ journals => journals.fatal message).then fun _ =>
    matches_throw .aborted

theorem matches_require (condition : Bool) (message : String) :
    Matches w (require condition message : Act κ Unit) (require condition message) Eq := by
  cases condition with
  | true => exact matches_pure rfl
  | false => exact matches_abort message

/-- **Buffers are asked for** in the same way. -/
theorem matches_allocateBuffers :
    Matches w (allocateBuffers : Act κ _) allocateBuffers Eq := by
  unfold allocateBuffers
  refine matches_get.bind fun s s' alike => ?_
  obtain ⟨agree, journals⟩ := alike
  dsimp only
  refine (matches_set ?_).then fun _ => ?_
  · exact .intro agree journals
  split
  · exact matches_pure rfl
  cases ReadAhead.new s.bufferLength with
  | error e => exact matches_pure rfl
  | ok input =>
    refine (matches_set ?_).then fun _ => ?_
    · exact .intro agree journals
    split
    · exact matches_pure rfl
    · exact matches_pure rfl

theorem matches_claimIn (scope : Scope) (fd : Int) :
    Matches w (claimIn scope fd : Act κ Bool) (claimIn scope fd) Eq := by
  unfold claimIn
  refine matches_get.bind fun s s' alike => ?_
  obtain ⟨agree, journals⟩ := alike
  dsimp only
  refine (matches_set ?_).then fun _ => ?_
  · exact .intro agree journals
  split
  · exact (matches_log _ _).then fun _ => matches_pure rfl
  · exact matches_pure rfl

theorem matches_releaseIn (scope : Scope) (fd : Int) :
    Matches w (releaseIn scope fd : Act κ Bool) (releaseIn scope fd) Eq := by
  unfold releaseIn
  refine matches_get.bind fun s s' alike => ?_
  obtain ⟨agree, journals⟩ := alike
  dsimp only
  refine (matches_set ?_).then fun _ => ?_
  · exact .intro agree journals
  split
  · exact (matches_log _ _).then fun _ => matches_pure rfl
  · exact matches_pure rfl

end

end Act

end BufferedChannels
