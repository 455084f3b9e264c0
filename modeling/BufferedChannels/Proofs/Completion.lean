import Mathlib.Data.List.Forall2
import BufferedChannels.Channel.Lifecycle
import BufferedChannels.Ownership

/-!
# Proofs/Completion — computations that come to their end

`act.Reports s messages returns` says that on the system `s` the computation gives a value **once
enough exchanges may be made**, the same whatever more may be, that it logs the messages on its way,
and that `returns` holds of the value and the system after.  Parts of a sequence complete one after
another, and a loop completes when something becomes less with every turn (`completes_loop`).

A computation that `Completes` has nothing to report.  The journal may grow on the way all the same;
but if the log is hushed, so that it shows nothing below a warning or an information, it has **the
lines of the messages and no others**.
-/

namespace BufferedChannels

variable {κ : Type}

/-! ## What a log shows -/

namespace Log

/-- What a log shows of one message. -/
def Settings.noted (t : Settings) (now : Nat) (level : Level) (message : String) : List Piece :=
  if level.shownAt t.level then [.line (Journal.line t now level message)] else []

/-- **A log in use** shows a message by its settings, which stay. -/
theorem Journal.log_of_settings {j : Journal} {t : Settings} (settings : j.settings? = some t)
    (env : Environment) (now : Nat) (level : Level) (message : String) :
    (j.log env now level message).settings? = j.settings? ∧
      (j.log env now level message).pieces.reverse =
        j.pieces.reverse ++ t.noted now level message := by
  have inForce : j.settings env now = t := by rw [Journal.settings, settings, Option.getD_some]
  have begun : j.begin env now = j := by rw [Journal.begin, inForce, ← settings]
  unfold Journal.log Settings.noted
  by_cases off : level = .off
  · rw [if_pos off, off]
    exact ⟨rfl, (List.append_nil _).symm⟩
  · rw [if_neg off, begun, inForce]
    dsimp only
    split
    · exact ⟨rfl, List.reverse_cons⟩
    · exact ⟨rfl, (List.append_nil _).symm⟩

/-- **Lines show messages**, oldest first, as far as the level goes.  Each has the time stamp of
some instant. -/
def Settings.Shows (t : Settings) (messages : List (Level × String)) (lines : List Piece) : Prop :=
  List.Forall₂ (fun message piece => ∃ now, piece = .line (Journal.line t now message.1 message.2))
    (messages.filter fun message => message.1.shownAt t.level) lines

theorem Settings.Shows.append {t : Settings} {messages more : List (Level × String)}
    {lines lines' : List Piece} (h : t.Shows messages lines) (h' : t.Shows more lines') :
    t.Shows (messages ++ more) (lines ++ lines') := by
  unfold Shows at *
  rw [List.filter_append]
  exact List.rel_append h h'

theorem Settings.shows_noted (t : Settings) (now : Nat) (level : Level) (message : String) :
    t.Shows [(level, message)] (t.noted now level message) := by
  unfold Shows noted
  rw [List.filter_cons]
  dsimp only
  split
  · exact .cons ⟨now, rfl⟩ .nil
  · exact .nil

/-- **Lines without time stamps** are those of the messages. -/
theorem Settings.Shows.eq_of_untimed {t : Settings} {messages : List (Level × String)}
    {lines : List Piece} (h : t.Shows messages lines) (untimed : t.timed = false) :
    lines = (messages.filter fun message => message.1.shownAt t.level).map fun message =>
      .line (Journal.line t 0 message.1 message.2) := by
  unfold Shows at h
  generalize (messages.filter fun message => message.1.shownAt t.level) = shown at *
  induction h with
  | nil => rfl
  | cons first _ ih =>
    obtain ⟨now, rfl⟩ := first
    rw [List.map_cons, ih]
    refine congrArg₂ _ (congrArg _ ?_) rfl
    rw [Journal.line, Journal.line, untimed, if_neg Bool.false_ne_true, if_neg Bool.false_ne_true]

end Log

namespace System

/-- A system that may still make so many exchanges. -/
def allowing (s : System κ) (budget : Nat) : System κ := { s with budget }

/-- **A hushed log** shows no more than information, and beginnings and endings are none. -/
def Hushed (s : System κ) : Prop :=
  ∃ t, s.journal.settings? = some t ∧ t.level.rank ≤ Log.Level.info.rank ∧
    s.environment.flag "GVF_LOG_LIFECYCLE" false = false

/-- **A system tells messages** on its way to another: their lines come to stand in its journal, and
in a hushed one nothing else does. -/
structure Tells (s : System κ) (messages : List (Log.Level × String)) (s' : System κ) : Prop where
  environment : s'.environment = s.environment
  bufferLength : s'.bufferLength = s.bufferLength
  settings : s'.journal.settings? = s.journal.settings?
  pieces : ∃ new lines, s'.journal.pieces.reverse = s.journal.pieces.reverse ++ new ∧
    lines.Sublist new ∧ (∀ t, s.journal.settings? = some t → t.Shows messages lines) ∧
    (s.Hushed → new = lines)

namespace Tells

variable {s s' s'' : System κ} {messages more : List (Log.Level × String)}

theorem of_same (environment : s'.environment = s.environment)
    (bufferLength : s'.bufferLength = s.bufferLength) (journal : s'.journal = s.journal) :
    s.Tells [] s' where
  environment := environment
  bufferLength := bufferLength
  settings := congrArg _ journal
  pieces := ⟨[], [], by rw [journal, List.append_nil], List.Sublist.refl _, fun _ _ => .nil,
    fun _ => rfl⟩

theorem refl (s : System κ) : s.Tells [] s := .of_same rfl rfl rfl

/-- A hushed log stays hushed. -/
theorem stays_hushed (h : s.Tells messages s') (hushed : s.Hushed) : s'.Hushed := by
  obtain ⟨t, settings, level, lifecycle⟩ := hushed
  exact ⟨t, h.settings.trans settings, level, h.environment ▸ lifecycle⟩

theorem trans (h : s.Tells messages s') (h' : s'.Tells more s'') :
    s.Tells (messages ++ more) s'' where
  environment := h'.environment.trans h.environment
  bufferLength := h'.bufferLength.trans h.bufferLength
  settings := h'.settings.trans h.settings
  pieces := by
    obtain ⟨new, lines, grows, stand, shows, only⟩ := h.pieces
    obtain ⟨new', lines', grows', stand', shows', only'⟩ := h'.pieces
    refine ⟨new ++ new', lines ++ lines', by rw [grows', grows, List.append_assoc],
      stand.append stand', fun t used => ?_, fun hushed => ?_⟩
    · exact (shows t used).append (shows' t (h.settings.trans used))
    · rw [only hushed, only' (h.stays_hushed hushed)]

end Tells

end System

namespace Act

variable {α β σ : Type}

/-- **A computation completes and reports messages** on its way, once logging is in use. -/
def Reports (act : Act κ α) (s : System κ) (messages : List (Log.Level × String))
    (returns : α → System κ → Prop) : Prop :=
  s.journal.settings?.isSome = true → ∃ cost a s', s.Tells messages s' ∧ returns a s' ∧
    ∀ budget ≥ cost, ∃ left, budget ≤ left + cost ∧
      act.runOn (s.allowing budget) = (.ok a, s'.allowing left)

/-- **A computation completes** and has nothing to report. -/
abbrev Completes (act : Act κ α) (s : System κ) (returns : α → System κ → Prop) : Prop :=
  act.Reports s [] returns

variable {s s' : System κ} {a : α} {messages more : List (Log.Level × String)}
  {returns weaker : α → System κ → Prop}

theorem Reports.mono {act : Act κ α} (h : act.Reports s messages returns)
    (imp : ∀ a s', s.Tells messages s' → returns a s' → weaker a s') :
    act.Reports s messages weaker := by
  intro used
  obtain ⟨cost, a, s', tells, post, run⟩ := h used
  exact ⟨cost, a, s', tells, imp a s' tells post, run⟩

/-- A computation without exchanges. -/
theorem completes_of_run {act : Act κ α} (s' : System κ) (tells : s.Tells messages s')
    (post : returns a s')
    (run : ∀ budget, act.runOn (s.allowing budget) = (.ok a, s'.allowing budget)) :
    act.Reports s messages returns :=
  fun _ => ⟨0, a, s', tells, post, fun budget _ => ⟨budget, Nat.le_refl _, run budget⟩⟩

theorem completes_pure (h : returns a s) : (pure a : Act κ α).Completes s returns :=
  completes_of_run s (.refl s) h fun _ => rfl

/-- **One part after another**: the messages add up. -/
theorem Reports.bind {act : Act κ α} {next : α → Act κ β} {M : α → System κ → Prop}
    {returns : β → System κ → Prop} (first : act.Reports s messages M)
    (rest : ∀ a s', s.Tells messages s' → M a s' → (next a).Reports s' more returns) :
    (act >>= next).Reports s (messages ++ more) returns := by
  intro used
  obtain ⟨cost, a, s', tells, post, run⟩ := first used
  obtain ⟨cost', b, s'', tells', post', run'⟩ := rest a s' tells post (tells.settings ▸ used)
  refine ⟨cost + cost', b, s'', tells.trans tells', post', fun budget enough => ?_⟩
  obtain ⟨left, paid, ran⟩ := run budget (by omega)
  obtain ⟨left', paid', ran'⟩ := run' left (by omega)
  refine ⟨left', by omega, ?_⟩
  rw [runOn_bind, ran, ← ran']

/-- A part with nothing to report, and what follows it. -/
theorem Completes.bind {act : Act κ α} {next : α → Act κ β} {M : α → System κ → Prop}
    {returns : β → System κ → Prop} (first : act.Completes s M)
    (rest : ∀ a s', s.Tells [] s' → M a s' → (next a).Reports s' messages returns) :
    (act >>= next).Reports s messages returns :=
  Reports.bind first rest

/-- What follows a look at the system does not depend on the exchanges still to make. -/
theorem completes_get {next : System κ → Act κ α}
    (same : ∀ budget, next (s.allowing budget) = next s)
    (rest : (next s).Reports s messages returns) :
    ((get : Act κ (System κ)) >>= next).Reports s messages returns := by
  intro used
  obtain ⟨cost, a, s', tells, post, run⟩ := rest used
  refine ⟨cost, a, s', tells, post, fun budget enough => ?_⟩
  obtain ⟨left, paid, ran⟩ := run budget enough
  exact ⟨left, paid, by rw [runOn_bind, runOn_get, ← ran, ← same budget]⟩

theorem completes_check {r : Except BufferFault β} {b : β} {next : β → Act κ α} (holds : r = .ok b)
    (rest : (next b).Reports s messages returns) :
    (check r >>= next).Reports s messages returns := by
  subst holds
  exact rest

theorem Reports.leaving {act : Act κ α} (c : Channel) (h : act.Reports s messages returns) :
    (leaving c act).Reports s messages returns := by
  intro used
  obtain ⟨cost, a, s', tells, post, run⟩ := h used
  refine ⟨cost, a, s', tells, post, fun budget enough => ?_⟩
  obtain ⟨left, paid, ran⟩ := run budget enough
  exact ⟨left, paid, by rw [runOn_leaving, ran]; rfl⟩

/-- **A loop completes** when something becomes less with every turn. -/
theorem completes_loop {turn : σ → Act κ (σ ⊕ α)} {x : σ} (inv : σ → System κ → Prop)
    (measure : σ → System κ → Nat) (start : inv x s)
    (step : ∀ x s, inv x s → (turn x).Completes s
      (Sum.elim (fun y s' => inv y s' ∧ measure y s' < measure x s) returns)) :
    (loop turn x).Completes s returns := by
  -- Enough exchanges are also enough turns.
  have all (n : Nat) : ∀ x s, measure x s < n → inv x s → s.journal.settings?.isSome = true →
      ∃ cost a s', s.Tells [] s' ∧ returns a s' ∧ ∀ fuel ≥ cost, ∀ budget ≥ cost, ∃ left,
        budget ≤ left + cost ∧
        (turns turn (fuel + 1) x).runOn (s.allowing budget) = (.ok a, s'.allowing left) := by
    induction n with
    | zero => exact fun _ _ no => absurd no (Nat.not_lt_zero _)
    | succ n ih =>
      intro x s lt start used
      obtain ⟨cost, r, s', tells, post, run⟩ := step x s start used
      rcases r with y | a
      · obtain ⟨again, less⟩ := post
        obtain ⟨cost', a, s'', tells', post', run'⟩ :=
          ih y s' (by omega) again (tells.settings ▸ used)
        refine ⟨cost + cost' + 1, a, s'', tells.trans tells', post',
          fun fuel turnsLeft budget enough => ?_⟩
        obtain ⟨fuel, rfl⟩ := Nat.exists_eq_add_of_le' (Nat.le_of_add_left_le turnsLeft)
        obtain ⟨left, paid, ran⟩ := run budget (by omega)
        obtain ⟨left', paid', ran'⟩ := run' fuel (by omega) left (by omega)
        refine ⟨left', by omega, ?_⟩
        rw [turns, runOn_bind, ran, ← ran']
      · refine ⟨cost, a, s', tells, post, fun fuel _ budget enough => ?_⟩
        obtain ⟨left, paid, ran⟩ := run budget enough
        refine ⟨left, paid, ?_⟩
        rw [turns, runOn_bind, ran]
        rfl
  intro used
  obtain ⟨cost, a, s', tells, post, run⟩ := all _ x s (Nat.lt_succ_self _) start used
  exact ⟨cost, a, s', tells, post, fun budget enough => run budget enough budget enough⟩

/-! ## The log -/

section

variable [Host κ]

/-- **A message is logged**, of which some lines count as reports. -/
theorem log_reports (level : Log.Level) (message : String)
    (counts : ∀ t, s.journal.settings? = some t → ∃ lines,
      lines.Sublist (t.noted (Host.now s.host) level message) ∧ t.Shows messages lines ∧
        (s.Hushed → t.noted (Host.now s.host) level message = lines)) :
    (log level message : Act κ Unit).Reports s messages fun _ s' =>
      s'.host = s.host ∧ s'.ownership = s.ownership := by
  intro used
  obtain ⟨t, settings⟩ := Option.isSome_iff_exists.1 used
  obtain ⟨kept, grows⟩ :=
    Log.Journal.log_of_settings settings s.environment (Host.now s.host) level message
  obtain ⟨lines, stand, shows, only⟩ := counts t settings
  refine completes_of_run { s with
    journal := s.journal.log s.environment (Host.now s.host) level message }
    ⟨rfl, rfl, kept, _, lines, grows, stand, fun t' settings' => ?_, only⟩ ⟨rfl, rfl⟩
    (fun _ => rfl) used
  rw [Option.some.inj (settings'.symm.trans settings)]
  exact shows

/-- **A line that is only murmured** is none that a hushed log shows. -/
theorem completes_log (level : Log.Level) (message : String)
    (low : s.Hushed → Log.Level.info.rank < level.rank) :
    (log level message : Act κ Unit).Completes s fun _ s' =>
      s'.host = s.host ∧ s'.ownership = s.ownership := by
  refine log_reports level message fun t settings =>
    ⟨[], List.nil_sublist _, .nil, fun hushed => if_neg ?_⟩
  obtain ⟨t', settings', limit, _⟩ := id hushed
  obtain rfl := Option.some.inj (settings.symm.trans settings')
  have low := low hushed
  rw [Log.Level.shownAt, Bool.and_eq_true, decide_eq_true_eq, decide_eq_true_eq]
  omega

/-- **A message that is logged** is reported as the settings have it. -/
theorem reports_log (level : Log.Level) (message : String) :
    (log level message : Act κ Unit).Reports s [(level, message)] fun _ s' =>
      s'.host = s.host ∧ s'.ownership = s.ownership :=
  log_reports level message fun t _ =>
    ⟨_, List.Sublist.refl _, t.shows_noted _ level message, fun _ => rfl⟩

/-- **Logging that is in use** begins no more. -/
theorem completes_begin :
    (journal Log.Journal.begin : Act κ Unit).Completes s fun _ s' => s' = s := by
  intro used
  obtain ⟨t, settings⟩ := Option.isSome_iff_exists.1 used
  obtain ⟨host, budget, trace, environment, ⟨settings?, pieces⟩, ownership, bufferLength⟩ := s
  obtain rfl : settings? = some t := settings
  exact completes_of_run _ (.refl _) rfl (fun _ => rfl) used

/-! ## Requests -/

/-- **A request that sends nothing to standard error.** -/
theorem completes_call (r : Request)
    (elsewhere : ∀ reply, Exchange.standardErrorBytes ⟨r, reply⟩ = []) :
    (call r : Act κ r.Reply).Completes s fun reply s' =>
      reply = (Host.answer s.host r).1 ∧ s'.host = (Host.answer s.host r).2 ∧
        s'.ownership = s.ownership := by
  intro _
  refine ⟨1, _, { s with
    host := (Host.answer s.host r).2
    trace := ⟨r, (Host.answer s.host r).1⟩ :: s.trace }, .of_same rfl rfl rfl, ⟨rfl, rfl, rfl⟩,
    fun budget enough => ?_⟩
  obtain ⟨left, rfl⟩ := Nat.exists_eq_add_of_le' enough
  refine ⟨left, Nat.le_refl _, ?_⟩
  rw [runOn_call]
  dsimp only [System.allowing]
  rw [elsewhere]
  rfl

end

end Act

end BufferedChannels
