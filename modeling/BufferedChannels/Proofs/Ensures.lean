import BufferedChannels.Channel.Notices
import BufferedChannels.Proofs.Dialogue

/-!
# Proofs/Ensures — what a computation makes certain

`act.Ensures s returns halts` says what comes of `act` on the system `s`: the system reaches another
by some dialogue, and `returns` holds of dialogue, value and system after, or `halts` of dialogue,
halt and system after.  There is one rule for each way in which computations are put together.  A
loop is understood by an **invariant** over the dialogue so far; since every turn that goes on makes
an exchange, a loop ends only by its own turns or by a spent budget (`ensures_loop`).
-/

namespace BufferedChannels.Act

variable {κ : Type} [Host κ] {α β σ : Type}

/-- **What a computation makes certain** of a system. -/
def Ensures (act : Act κ α) (s : System κ) (returns : Dialogue → α → System κ → Prop)
    (halts : Dialogue → Halt → System κ → Prop) : Prop :=
  ∃ es outcome s', act.runOn s = (outcome, s') ∧ s.Reaches es s' ∧
    match outcome with
    | .ok a => returns es a s'
    | .error h => halts es h s'

variable {s : System κ} {returns : Dialogue → α → System κ → Prop}
  {halts : Dialogue → Halt → System κ → Prop}

/-- **The value of a computation that returns** is as ensured. -/
theorem Ensures.of_ok {act : Act κ α} (h : act.Ensures s returns halts) {a : α} {s' : System κ}
    (run : act.runOn s = (.ok a, s')) : ∃ es, s.Reaches es s' ∧ returns es a s' := by
  obtain ⟨es, outcome, s'', run', reaches, post⟩ := h
  obtain ⟨rfl, rfl⟩ := Prod.mk.inj (run'.symm.trans run)
  exact ⟨es, reaches, post⟩

/-- **What the trace tells** of a computation that returns is as ensured. -/
theorem Ensures.of_noted {act : Act κ α} (h : act.Ensures s returns halts) {a : α} {s' : System κ}
    {es : Dialogue} (run : act.runOn s = (.ok a, s')) (noted : s'.trace = es.reverse ++ s.trace) :
    returns es a s' := by
  obtain ⟨_, reaches, post⟩ := h.of_ok run
  obtain rfl := reaches.eq_of_trace noted
  exact post

/-- **The halt of a computation that does not** is as ensured. -/
theorem Ensures.of_error {act : Act κ α} (h : act.Ensures s returns halts) {halt : Halt}
    {s' : System κ} (run : act.runOn s = (.error halt, s')) :
    ∃ es, s.Reaches es s' ∧ halts es halt s' := by
  obtain ⟨es, outcome, s'', run', reaches, post⟩ := h
  obtain ⟨rfl, rfl⟩ := Prod.mk.inj (run'.symm.trans run)
  exact ⟨es, reaches, post⟩

/-- **A computation returns** when its halts come of a spent budget after few exchanges, and the
budget is greater. -/
theorem Ensures.of_enough {act : Act κ α} {bound : Nat}
    (h : act.Ensures s returns fun es _ s' => s'.budget = 0 ∧ es.length ≤ bound)
    (enough : bound < s.budget) :
    ∃ es a s', act.runOn s = (.ok a, s') ∧ s.Reaches es s' ∧ returns es a s' := by
  obtain ⟨es, outcome, s', run, reaches, post⟩ := h
  rcases outcome with e | a
  · have paid := reaches.budget
    have spent : s'.budget = 0 ∧ es.length ≤ bound := post
    omega
  · exact ⟨es, a, s', run, reaches, post⟩

theorem Ensures.mono {act : Act κ α} {returns' : Dialogue → α → System κ → Prop}
    {halts' : Dialogue → Halt → System κ → Prop} (h : act.Ensures s returns halts)
    (hr : ∀ es a s', s.Reaches es s' → returns es a s' → returns' es a s')
    (hh : ∀ es e s', s.Reaches es s' → halts es e s' → halts' es e s') :
    act.Ensures s returns' halts' := by
  obtain ⟨es, outcome, s', run, reaches, post⟩ := h
  refine ⟨es, outcome, s', run, reaches, ?_⟩
  cases outcome with
  | ok a => exact hr es a s' reaches post
  | error e => exact hh es e s' reaches post

/-- A computation that makes anything certain keeps to the trace. -/
theorem Ensures.onward {act : Act κ α} (h : act.Ensures s returns halts) :
    act.Ensures s (fun _ _ _ => True) fun _ _ _ => True :=
  h.mono (fun _ _ _ _ _ => trivial) fun _ _ _ _ _ => trivial

/-- **Two things made certain** are made certain together. -/
theorem Ensures.and {act : Act κ α} {returns' : Dialogue → α → System κ → Prop}
    {halts' : Dialogue → Halt → System κ → Prop} (h : act.Ensures s returns halts)
    (h' : act.Ensures s returns' halts') :
    act.Ensures s (fun es a s' => returns es a s' ∧ returns' es a s')
      (fun es e s' => halts es e s' ∧ halts' es e s') := by
  obtain ⟨es, outcome, s₁, run, reaches, post⟩ := h
  obtain ⟨es', outcome', s₂, run', reaches', post'⟩ := h'
  obtain ⟨rfl, rfl⟩ := Prod.mk.inj (run.symm.trans run')
  obtain rfl := reaches.eq_of_trace reaches'.trace
  refine ⟨es, outcome, s₁, run, reaches, ?_⟩
  cases outcome with
  | ok a => exact ⟨post, post'⟩
  | error e => exact ⟨post, post'⟩

/-- What is ensured of a value is ensured of **the run that gave it**. -/
theorem Ensures.ran {act : Act κ α} (h : act.Ensures s returns halts) :
    act.Ensures s (fun es a s' => act.runOn s = (.ok a, s') ∧ returns es a s') halts := by
  obtain ⟨es, outcome, s', run, reaches, post⟩ := h
  refine ⟨es, outcome, s', run, reaches, ?_⟩
  cases outcome with
  | ok a => exact ⟨run, post⟩
  | error e => exact post

theorem ensures_pure {a : α} (h : returns [] a s) : (pure a : Act κ α).Ensures s returns halts :=
  ⟨[], .ok a, s, rfl, .refl s, h⟩

theorem ensures_throw {e : Halt} (h : halts [] e s) : (throw e : Act κ α).Ensures s returns halts :=
  ⟨[], .error e, s, rfl, .refl s, h⟩

/-- **One part after another**: the dialogues follow each other. -/
theorem ensures_bind {act : Act κ α} {next : α → Act κ β} {M : Dialogue → α → System κ → Prop}
    {returns : Dialogue → β → System κ → Prop} (first : act.Ensures s M halts)
    (rest : ∀ es a s', s.Reaches es s' → M es a s' →
      (next a).Ensures s' (fun es' => returns (es ++ es')) (fun es' => halts (es ++ es'))) :
    (act >>= next).Ensures s returns halts := by
  obtain ⟨es, outcome, s', run, reaches, post⟩ := first
  cases outcome with
  | ok a =>
    obtain ⟨es', outcome, s'', run', reaches', post'⟩ := rest es a s' reaches post
    refine ⟨es ++ es', outcome, s'', ?_, reaches.trans reaches', post'⟩
    rw [runOn_bind, run, ← run']
  | error e =>
    refine ⟨es, .error e, s', ?_, reaches, post⟩
    rw [runOn_bind, run]

/-- A part that makes no exchange and returns may be stepped over. -/
theorem ensures_bind_quiet {act : Act κ α} {next : α → Act κ β} {s' : System κ} {a : α}
    {returns : Dialogue → β → System κ → Prop} (run : act.runOn s = (.ok a, s'))
    (reaches : s.Reaches [] s') (rest : (next a).Ensures s' returns halts) :
    (act >>= next).Ensures s returns halts :=
  ensures_bind (M := fun es b t => es = [] ∧ b = a ∧ t = s')
    ⟨[], .ok a, s', run, reaches, rfl, rfl, rfl⟩
    fun es b t _ ⟨hes, hb, ht⟩ => by subst hes hb ht; exact rest

/-- **A request** is one exchange, unless the budget is spent: the host is the one that replied, and
nobody comes to own anything by it. -/
theorem ensures_exchange (r : Request) {R : Dialogue → r.Reply → System κ → Prop}
    (replied : ∀ s', s.Reaches [⟨r, (Host.answer s.host r).1⟩] s' →
      s'.host = (Host.answer s.host r).2 → s'.ownership = s.ownership →
        R [⟨r, (Host.answer s.host r).1⟩] (Host.answer s.host r).1 s')
    (spent : s.budget = 0 → halts [] .endless s) :
    (call r : Act κ r.Reply).Ensures s R halts := by
  cases hb : s.budget with
  | zero => exact ⟨[], .error .endless, s, by rw [runOn_call, hb], .refl s, spent hb⟩
  | succ left =>
    refine ⟨[⟨r, (Host.answer s.host r).1⟩], .ok _, _, by rw [runOn_call, hb], ?_,
      replied _ ?_ ?_ ?_⟩
    · exact ⟨rfl, .single _ _, by rw [hb]; exact Nat.add_comm _ _, rfl, rfl⟩
    · exact ⟨rfl, .single _ _, by rw [hb]; exact Nat.add_comm _ _, rfl, rfl⟩
    · rfl
    · rfl

/-- A request, where the host after it does not matter. -/
theorem ensures_ask (r : Request) {R : Dialogue → r.Reply → System κ → Prop}
    (replied : ∀ s', s.Reaches [⟨r, (Host.answer s.host r).1⟩] s' → s'.ownership = s.ownership →
      R [⟨r, (Host.answer s.host r).1⟩] (Host.answer s.host r).1 s')
    (spent : s.budget = 0 → halts [] .endless s) :
    (call r : Act κ r.Reply).Ensures s R halts :=
  ensures_exchange r (fun s' reaches _ => replied s' reaches) spent

/-- A request, where ownership does not matter. -/
theorem ensures_call (r : Request) {R : Dialogue → r.Reply → System κ → Prop}
    (replied : ∀ s', s.Reaches [⟨r, (Host.answer s.host r).1⟩] s' →
      R [⟨r, (Host.answer s.host r).1⟩] (Host.answer s.host r).1 s')
    (spent : s.budget = 0 → halts [] .endless s) :
    (call r : Act κ r.Reply).Ensures s R halts :=
  ensures_ask r (fun s' reaches _ => replied s' reaches) spent

/-- A system with another journal is reached without a word. -/
theorem reaches_journal (s : System κ) (j : Log.Journal) : s.Reaches [] { s with journal := j } :=
  ⟨rfl, .nil _, Nat.zero_add _, rfl, rfl⟩

theorem runOn_log (level : Log.Level) (message : String) (s : System κ) :
    (log level message : Act κ Unit).runOn s =
      (.ok (), { s with
        journal := s.journal.log s.environment (Host.now s.host) level message }) := rfl

/-- **Logging is stepped over**: it changes the journal only. -/
theorem ensures_log {next : Unit → Act κ α} (level : Log.Level) (message : String)
    (rest : ∀ j, (next ()).Ensures { s with journal := j } returns halts) :
    (log level message >>= next).Ensures s returns halts :=
  ensures_bind_quiet (runOn_log level message s) (reaches_journal s _) (rest _)

/-- Logging what is lost changes the journal only. -/
theorem runOn_logLoss (c : Channel) (operation : String) (s : System κ) :
    ∃ j, (c.logLoss operation : Act κ Unit).runOn s = (.ok (), { s with journal := j }) := by
  unfold Channel.logLoss
  cases c.output.isEmpty <;> cases c.input.isEmpty <;> exact ⟨_, rfl⟩

/-- What is logged about lost bytes is stepped over. -/
theorem ensures_logLoss {next : Unit → Act κ α} (c : Channel) (operation : String)
    (rest : ∀ j, (next ()).Ensures { s with journal := j } returns halts) :
    (c.logLoss operation >>= next).Ensures s returns halts := by
  obtain ⟨j, run⟩ := runOn_logLoss c operation s
  exact ensures_bind_quiet run (reaches_journal s j) (rest j)

theorem ensures_get {next : System κ → Act κ α} (rest : (next s).Ensures s returns halts) :
    ((get : Act κ (System κ)) >>= next).Ensures s returns halts :=
  ensures_bind_quiet (runOn_get s) (.refl s) rest

theorem ensures_set {t : System κ} {next : PUnit → Act κ α} (reaches : s.Reaches [] t)
    (rest : (next ⟨⟩).Ensures t returns halts) :
    ((set t : Act κ PUnit) >>= next).Ensures s returns halts :=
  ensures_bind_quiet rfl reaches rest

theorem ensures_now {next : Nat → Act κ α}
    (rest : (next (Host.now s.host)).Ensures s returns halts) :
    (now >>= next).Ensures s returns halts :=
  ensures_bind_quiet rfl (.refl s) rest

/-- **A rule that holds is stepped over.** -/
theorem ensures_check {r : Except BufferFault β} {b : β} {next : β → Act κ α} (holds : r = .ok b)
    (rest : (next b).Ensures s returns halts) : (check r >>= next).Ensures s returns halts := by
  subst holds
  exact ensures_bind_quiet rfl (.refl s) rest

/-- A rule that may be broken: either it holds, or the computation halts there. -/
theorem ensures_check_or {r : Except BufferFault β} {next : β → Act κ α}
    (rest : ∀ b, r = .ok b → (next b).Ensures s returns halts)
    (broken : ∀ f, r = .error f → halts [] (.faulted f.message none) s) :
    (check r >>= next).Ensures s returns halts := by
  cases r with
  | ok b => exact ensures_check rfl (rest b rfl)
  | error f =>
    exact ensures_bind (M := fun _ _ _ => False) (ensures_throw (broken f rfl))
      fun _ _ _ _ no => no.elim

/-- **Aborting** writes the last line, and no exchange is made. -/
theorem ensures_abort {message : String} (h : ∀ j, halts [] .aborted { s with journal := j }) :
    (abort message : Act κ α).Ensures s returns halts :=
  ensures_bind_quiet rfl (reaches_journal s (s.journal.fatal message)) (ensures_throw (h _))

/-- A condition that is required: either it holds, or the process is aborted there. -/
theorem ensures_require {condition : Bool} {message : String} {next : Unit → Act κ α}
    (rest : condition = true → (next ()).Ensures s returns halts)
    (broken : condition = false → ∀ j, halts [] .aborted { s with journal := j }) :
    (require condition message >>= next).Ensures s returns halts := by
  cases condition with
  | true => exact ensures_bind_quiet rfl (.refl s) (rest rfl)
  | false =>
    exact ensures_bind (M := fun _ _ _ => False) (ensures_abort (broken rfl))
      fun _ _ _ _ no => no.elim

/-- **Leaving a channel** changes what a halt says. -/
theorem ensures_leaving {act : Act κ α} (c : Channel)
    (h : act.Ensures s returns fun es e => halts es (e.leaving c)) :
    (leaving c act).Ensures s returns halts := by
  obtain ⟨es, outcome, s', run, reaches, post⟩ := h
  refine ⟨es, outcome.mapError (Halt.leaving c), s', by rw [runOn_leaving, run], reaches, ?_⟩
  cases outcome <;> exact post

/-! ## Loops -/

/-- What a turn must make certain after a dialogue: to go on with the invariant, **having made an
exchange**, or to end the loop as wanted. -/
def turned (inv : Dialogue → σ → System κ → Prop) (returns : Dialogue → α → System κ → Prop)
    (es es' : Dialogue) : σ ⊕ α → System κ → Prop
  | .inl x, s => es' ≠ [] ∧ inv (es ++ es') x s
  | .inr a, s => returns (es ++ es') a s

theorem ensures_turns {turn : σ → Act κ (σ ⊕ α)} {inv : Dialogue → σ → System κ → Prop}
    (step : ∀ es x s', s.Reaches es s' → inv es x s' →
      (turn x).Ensures s' (turned inv returns es) (fun es' => halts (es ++ es')))
    (n : Nat) {es : Dialogue} {x : σ} {s' : System κ} (reaches : s.Reaches es s')
    (start : inv es x s') (enough : s'.budget < n) :
    (turns turn n x).Ensures s' (fun es' => returns (es ++ es'))
      (fun es' => halts (es ++ es')) := by
  induction n generalizing es x s' with
  | zero => omega
  | succ n ih =>
    refine ensures_bind (step es x s' reaches start) fun es' r s'' reaches' post => ?_
    cases r with
    | inl y =>
      -- The exchange of the turn that goes on pays for the turn.
      have spent : s''.budget < n := by
        have := reaches'.budget
        have := List.length_pos_iff.2 post.1
        omega
      simp only [← List.append_assoc]
      exact ih (reaches.trans reaches') post.2 spent
    | inr a =>
      refine ensures_pure ?_
      rw [List.append_nil]
      exact post

/-- **A loop keeps its invariant** until a turn ends it or halts; the number of turns is never what
ends it. -/
theorem ensures_loop {turn : σ → Act κ (σ ⊕ α)} {x : σ}
    (inv : Dialogue → σ → System κ → Prop) (start : inv [] x s)
    (step : ∀ es x s', s.Reaches es s' → inv es x s' →
      (turn x).Ensures s' (turned inv returns es) (fun es' => halts (es ++ es'))) :
    (loop turn x).Ensures s returns halts :=
  ensures_get (ensures_turns step (s.budget + 1) (.refl s) start (Nat.lt_succ_self _))

end BufferedChannels.Act
