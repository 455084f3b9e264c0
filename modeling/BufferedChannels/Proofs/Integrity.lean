import BufferedChannels.Proofs.Bounds
import BufferedChannels.Proofs.Lifecycle
import BufferedChannels.Proofs.Operating

/-!
# Proofs/Integrity — no rule of the buffers is ever broken

A program keeps the rules of all its buffers, whatever commands it runs and whatever its host
answers within bounds: `Roster.Reachable.wellFormed`.  A command on channels therefore **never
breaks a rule of a buffer or of a slice**, and `Command.Halts` lists the ways that remain in which
one may halt.
-/

namespace BufferedChannels

/-! ## Channels under their names -/

namespace Roster

/-- **Every channel keeps the rules of its buffers.** -/
def WellFormed (roster : Roster) : Prop := ∀ entry ∈ roster, entry.2.WellFormed

variable {roster : Roster} {name : String} {c : Channel}

theorem WellFormed.lookup (h : roster.WellFormed) (found : roster.lookup name = some c) :
    c.WellFormed := by
  obtain ⟨before, after, rfl, _⟩ := List.lookup_eq_some_iff.1 found
  exact h (name, c) (List.mem_append_right _ List.mem_cons_self)

theorem mem_put {entry : String × Channel} (h : entry ∈ roster.put name c) :
    entry = (name, c) ∨ entry ∈ roster := by
  induction roster with
  | nil => exact .inl (List.mem_singleton.1 h)
  | cons first rest ih =>
    rw [put] at h
    split at h
    · rcases List.mem_cons.1 h with rfl | h
      · exact .inl rfl
      · exact .inr (List.mem_cons_of_mem _ h)
    split at h
    · exact List.mem_cons.1 h
    · rcases List.mem_cons.1 h with rfl | h
      · exact .inr List.mem_cons_self
      · exact (ih h).imp_right (List.mem_cons_of_mem _)

theorem WellFormed.put (h : roster.WellFormed) (wf : c.WellFormed) :
    (roster.put name c).WellFormed := by
  intro entry he
  rcases mem_put he with rfl | he
  · exact wf
  · exact h entry he

theorem WellFormed.strike (h : roster.WellFormed) : (roster.strike name).WellFormed :=
  fun entry he => h entry (List.mem_filter.1 he).1

end Roster

/-! ## Commands -/

/-- **The ways in which a command on channels may halt.**  Rules are broken in two of them only: a
`tell` finds the descriptor before the bytes read ahead, and a thread is to poll no descriptor.  The
process is aborted in three: closing fails, the flags of an adopted descriptor cannot be changed,
and a scheduler wakes a channel for the other direction. -/
inductive Command.Halts (roster : Roster) (calls : Dialogue) : Command → Halt → Prop
  | endless {command : Command} : Halts roster calls command .endless
  | behind {name : String} {operation : Operation} {c left : Channel} {physical : Nat} :
      roster.lookup name = some c →
        (operation = .tell ∨ ∃ delta, operation = .reposition (.current delta)) →
        Descriptor.seeking c.fd 0 .current (.ok physical) ∈ calls → physical < c.liveCount →
        Halts roster calls (.operate name operation)
          (.faulted "attempt to subtract with overflow" (some left))
  | noDescriptor {name : String} {operation : Operation} {c left : Channel} {scope : Scope} :
      roster.lookup name = some c → c.waiter = .polling scope → c.fd = Waiter.noDescriptor →
        Halts roster calls (.operate name operation) (.faulted "fd != -1" (some left))
  | unclosed {name : String} {c : Channel} {e : Errno} :
      roster.lookup name = some c → ⟨.close c.fd, .error e⟩ ∈ calls →
        Halts roster calls (.finish name .close) .aborted
  | flagsRefused {name : String} {opening : Opening} {fd : Int} {flags : Flags} {e : Errno} :
      opening.adopted? = some fd → ⟨.setFlags fd flags, .error e⟩ ∈ calls →
        Halts roster calls (.begin name opening) .aborted
  | woken {name : String} {operation : Operation} {c : Channel} {notified : Bool}
      {direction got : Direction} {left : Option Nat} :
      roster.lookup name = some c → c.waiter = .scheduled notified →
        ⟨.wait c.fd direction left, WaitOutcome.ready got⟩ ∈ calls → got ≠ direction →
        Halts roster calls (.operate name operation) .aborted

section

variable {κ : Type} {roster : Roster} {name : String} {operation : Operation} {c : Channel}
  {es : Dialogue} {h : Halt} {s : System κ}

/-- What breaks off an operation halts its command, **unless the host moved too much**. -/
theorem BrokenOff.halts (broken : BrokenOff operation c es h s)
    (found : roster.lookup name = some c) (moderate : es.Moderate) :
    (Command.operate name operation).Halts roster es h := by
  rcases broken with (_ | _ | ⟨_, polls, none, _⟩ | ⟨_, scheduled, hm, other⟩ | ⟨hm, excess⟩) |
    ⟨asks, hm, before, _⟩
  · exact .endless
  · exact .endless
  · exact .noDescriptor found polls none
  · exact .woken found scheduled hm other
  · exact absurd (moderate _ hm) excess
  · exact .behind found asks hm before

end

/-! ## Every command -/

section

variable {κ : Type} [Host κ]

/-- Dropping all channels never aborts. -/
theorem Roster.dropAll_ensures (roster : Roster) (s : System κ) :
    roster.dropAll.Ensures s (fun _ _ _ => True) (fun _ h _ => h = .endless) := by
  induction roster generalizing s with
  | nil => exact Act.ensures_pure trivial
  | cons entry rest ih =>
    exact Act.ensures_bind ((entry.2.drop_returns s).mono (fun _ _ _ _ h => h)
      fun _ _ _ _ halt => halt) fun _ _ t _ _ =>
        (ih t).mono (fun _ _ _ _ h => h) fun _ _ _ _ h => h

/-- **Whether a command is about channels**; the others ask or change something beside them. -/
def Command.isQuery : Command → Bool
  | .query _ => true
  | _ => false

theorem Command.eq_query {command : Command} (h : command.isQuery = true) :
    ∃ question, command = .query question := by
  rcases command with _ | _ | _ | question | _
  · cases h
  · cases h
  · cases h
  · exact ⟨question, rfl⟩
  · cases h

/-- Beginning a channel, after one that had its name was dropped. -/
theorem Command.begin_ensures {roster : Roster} (wf : roster.WellFormed) (name : String)
    (opening : Opening) (s : System κ) :
    ((Command.begin name opening).run roster).Ensures s (fun _ r _ => r.2.WellFormed)
      (fun es h _ => h.Intact ∧ (Command.begin name opening).Halts roster es h) := by
  have opens (es : Dialogue) (t : System κ)
      (next : Except ChannelError Channel → Act κ (Answer × Roster))
      (opened : ∀ c, next (.ok c) = pure (.begun (.ok (c.fd, c.kind)), roster.put name c))
      (failed : ∀ e, next (.error e) = pure (.begun (.error e), roster.strike name)) :
      (opening.run >>= next).Ensures t (fun _ r _ => r.2.WellFormed)
          (fun es' h _ => h.Intact ∧ (Command.begin name opening).Halts roster (es ++ es') h) := by
    refine Act.ensures_bind ((opening.run_ensures t).mono (fun _ _ _ _ h => h)
      fun es' h _ _ halt => ?_) fun es' r _ _ made => ?_
    · obtain rfl | ⟨rfl, fd, adopts, flags, e, hm⟩ := halt
      · exact ⟨nofun, .endless⟩
      · exact ⟨nofun, .flagsRefused adopts (List.mem_append_right _ hm)⟩
    · rcases r with e | c
      · rw [failed]
        exact Act.ensures_pure wf.strike
      · rw [opened]
        exact Act.ensures_pure (wf.put (made c rfl).toWellFormed)
  unfold Command.run
  dsimp only
  split
  · next c _ =>
    exact Act.ensures_bind ((c.drop_returns s).mono (fun _ _ _ _ h => h)
      fun _ _ _ _ halt => by rw [halt]; exact ⟨nofun, .endless⟩) fun es _ t _ _ =>
        opens es t _ (fun _ => rfl) fun _ => rfl
  · exact opens [] s _ (fun _ => rfl) fun _ => rfl

/-- **Every command on channels keeps the rules of all buffers**, and if it halts, then in one of
the listed ways. -/
theorem Command.run_ensures [Host.Bounded κ] {roster : Roster} (wf : roster.WellFormed)
    {command : Command} (about : command.isQuery = false) (s : System κ) :
    (command.run roster).Ensures s (fun _ r _ => r.2.WellFormed)
      (fun es h _ => h.Intact ∧ command.Halts roster es h) := by
  rcases command with ⟨name, opening⟩ | ⟨name, operation⟩ | ⟨name, ending⟩ | question | _
  · exact begin_ensures wf name opening s
  · unfold Command.run
    dsimp only
    split
    · exact Act.ensures_pure wf
    · next c found =>
      refine Act.ensures_bind ((operation.run_ensures (wf.lookup found) s).mono
        (fun _ _ _ _ h => h) fun es h t reaches broken =>
          ⟨broken.intact, broken.halts found reaches.host.moderate⟩) fun _ _ _ _ done => ?_
      exact Act.ensures_pure (wf.put done.wellFormed)
  · unfold Command.run
    dsimp only
    split
    · exact Act.ensures_pure wf
    · next c found =>
      refine Act.ensures_bind ((ending.run_ensures c s).mono (fun _ _ _ _ h => h)
        fun es h _ _ halt => ?_) fun _ _ _ _ _ => Act.ensures_pure wf.strike
      obtain rfl | ⟨rfl, rfl, e, hm⟩ := halt
      · exact ⟨nofun, .endless⟩
      · exact ⟨nofun, .unclosed found hm⟩
  · cases about
  · exact Act.ensures_bind ((roster.dropAll_ensures s).mono (fun _ _ _ _ h => h)
      fun _ _ _ _ halt => by rw [halt]; exact ⟨nofun, .endless⟩) fun _ _ _ _ _ =>
        Act.ensures_pure (List.forall_mem_nil _)

end

/-! ## Runs of commands -/

namespace Roster

/-- **The channels that a program can come to have**, whatever its surroundings are at each command:
it begins with none and runs any commands, also after one that broke a rule. -/
inductive Reachable (κ : Type) [Host κ] : Roster → Prop
  | none : Reachable κ []
  | ran {roster roster' : Roster} {command : Command} {answer : Answer} {s s' : System κ} :
      Reachable κ roster → (command.run roster).runOn s = (.ok (answer, roster'), s') →
        Reachable κ roster'
  | broke {roster : Roster} {command : Command} {message : String} {left? : Option Channel}
      {s s' : System κ} :
      Reachable κ roster → (command.run roster).runOn s = (.error (.faulted message left?), s') →
        Reachable κ (Session.afterHalt roster command.subject? (.faulted message left?))

variable {κ : Type} [Host κ] {roster : Roster}

/-- A query leaves the channels alone. -/
theorem eq_of_query {question : Query} {roster' : Roster} {answer : Answer} {s s' : System κ}
    (run : ((Command.query question).run roster).runOn s = (.ok (answer, roster'), s')) :
    roster' = roster := by
  change (question.run >>= fun answer => pure (answer, roster) : Act κ _).runOn s = _ at run
  rw [Act.runOn_bind] at run
  split at run
  · exact (Prod.mk.inj (Except.ok.inj (Prod.mk.inj run).1)).2.symm
  · cases run

/-- What a halt leaves keeps the rules of all buffers. -/
theorem WellFormed.afterHalt (wf : roster.WellFormed) {h : Halt} (intact : h.Intact)
    (subject? : Option String) : WellFormed (Session.afterHalt roster subject? h) := by
  rcases h with ⟨message, _ | left⟩ | _ | _
  · exact wf
  · rcases subject? with _ | name
    · exact wf
    · exact wf.put (intact message left rfl)
  · exact wf
  · exact wf

/-- **All channels that a program can come to have** keep the rules of their buffers. -/
theorem Reachable.wellFormed [Host.Bounded κ] (h : roster.Reachable κ) : roster.WellFormed := by
  induction h with
  | none => exact List.forall_mem_nil _
  | @ran roster roster' command answer s s' _ run wf =>
    cases query : command.isQuery with
    | false =>
      obtain ⟨_, _, kept⟩ := (Command.run_ensures wf query s).of_ok run
      exact kept
    | true =>
      obtain ⟨question, rfl⟩ := Command.eq_query query
      rw [eq_of_query run]
      exact wf
  | @broke roster command message left? s s' _ run wf =>
    cases query : command.isQuery with
    | false =>
      obtain ⟨_, _, intact, _⟩ := (Command.run_ensures wf query s).of_error run
      exact wf.afterHalt intact _
    | true =>
      obtain ⟨question, rfl⟩ := Command.eq_query query
      rcases left? with _ | left
      · exact wf
      · exact wf

end Roster

/-! ## Sessions -/

namespace Session

variable {κ : Type} [Host κ]

/-- **A step leads from channels that a program can come to have to such channels.** -/
theorem reachable_step {s : Session κ} (h : s.channels.Reachable κ) (command : Command) :
    (s.step command).2.channels.Reachable κ := by
  rcases run : observe s.allowance (command.run s.channels) s.system with ⟨outcome, system⟩
  rcases outcome with (⟨message, left?⟩ | _ | _) | ⟨answer, channels⟩
  all_goals rw [step, run]
  · exact .broke h run
  · exact h
  · exact h
  · exact .ran h run

theorem reachable_perform {s : Session κ} (h : s.channels.Reachable κ) (next : Step κ) :
    (s.perform next).2.channels.Reachable κ := by
  rcases next with ⟨arrange, command⟩ | change
  · exact reachable_step (s := { s with system := { s.system with
      host := arrange s.system.host } }) h command
  · exact h

/-- **Every run of a session keeps to them.** -/
theorem reachable_run {s : Session κ} (h : s.channels.Reachable κ) (steps : List (Step κ)) :
    (s.run steps).2.channels.Reachable κ := by
  induction steps generalizing s with
  | nil => exact h
  | cons first rest ih =>
    have next := reachable_perform h first
    rw [run]
    dsimp only
    split
    · exact ih next
    · exact next

end Session

end BufferedChannels
