import Mathlib
import BufferedChannels.Proofs.Leeway

/-!
# Proofs/Noninterference — logging does not interfere

Log lines are written in every operation, in loops and on the paths of failure, and their settings
are read from the environment at the first of them.  None of this is ever asked about: on systems
that agree but for the logging, **every function gives results that agree**, and so does every run.
With the quieter leeway the journals are part of the agreement, so the pieces of a run at a lower
level stand among those of the run at the higher one.
-/

namespace BufferedChannels

open Act

variable {κ : Type} [Host κ] {w : Leeway}

/-- **The same result beside channels that agree.** -/
def Beside (w : Leeway) {α : Type} (r r' : α × Channel) : Prop :=
  r.1 = r'.1 ∧ r.2.Alike w r'.2

/-! ## Waits and single calls -/

theorem Waiter.pollTurn_matches (fd : Int) (direction : Direction) (deadline : Deadline)
    (u : Unit) : Matches w (pollTurn fd direction deadline u : Act κ _)
      (pollTurn fd direction deadline u) Eq := by
  unfold pollTurn
  refine matches_now.then fun _ => (matches_log _ _).then fun _ =>
    (matches_call _).then fun reply => ?_
  cases (reply : Polled) with
  | ready => exact matches_pure rfl
  | timedOut => exact matches_pure rfl
  | never => exact matches_throw .endless
  | failed e =>
    dsimp only
    split
    · refine matches_now.then fun _ => ?_
      split
      · exact matches_pure rfl
      · exact matches_pure rfl
    · exact (matches_log _ _).then fun _ => matches_pure rfl

theorem Waiter.wait_matches (waiter : Waiter) (fd : Int) (direction : Direction)
    (deadline : Deadline) : Matches w (waiter.wait fd direction deadline : Act κ _)
      (waiter.wait fd direction deadline) Eq := by
  unfold wait
  rcases waiter with scope | notified
  · dsimp only
    split
    · exact matches_throw (.faulted _)
    · exact matches_repeat fun _ => pollTurn_matches fd direction deadline ()
  · exact matches_now.then fun _ => matches_call _

theorem Waiter.claim_matches (waiter : Waiter) (fd : Int) :
    Matches w (waiter.claim fd : Act κ Unit) (waiter.claim fd) Eq := by
  unfold claim
  rcases waiter with scope | _ | _
  · exact (matches_claimIn scope fd).then fun _ => matches_pure rfl
  · exact matches_pure rfl
  · exact (matches_call _).then fun _ => matches_pure rfl

theorem Waiter.release_matches (waiter : Waiter) (fd : Int) :
    Matches w (waiter.release fd : Act κ Unit) (waiter.release fd) Eq := by
  unfold release
  rcases waiter with scope | _ | _
  · exact (matches_releaseIn scope fd).then fun _ => matches_pure rfl
  · exact matches_pure rfl
  · exact (matches_call _).then fun _ => matches_pure rfl

namespace Descriptor

theorem read_matches (fd : Int) (len : Nat) :
    Matches w (read fd len : Act κ _) (read fd len) Eq :=
  matches_repeat fun _ => (matches_call _).then fun _ => matches_pure rfl

theorem write_matches (fd : Int) (data : Bytes) :
    Matches w (write fd data : Act κ _) (write fd data) Eq :=
  matches_repeat fun _ => (matches_call _).then fun _ => matches_pure rfl

theorem seekTo_matches (fd : Int) (position : Nat) :
    Matches w (seekTo fd position : Act κ _) (seekTo fd position) Eq := by
  unfold seekTo
  split
  · exact matches_pure rfl
  · exact (matches_call _).then fun _ => matches_pure rfl

theorem position_matches (fd : Int) : Matches w (position fd : Act κ _) (position fd) Eq :=
  (matches_call _).then fun _ => matches_pure rfl

theorem seekEnd_matches (fd : Int) : Matches w (seekEnd fd : Act κ _) (seekEnd fd) Eq :=
  (matches_call _).then fun _ => matches_pure rfl

theorem kindOf_matches (fd : Int) : Matches w (kindOf fd : Act κ _) (kindOf fd) Eq :=
  (matches_call _).then fun _ => matches_pure rfl

theorem openPath_matches (path : String) (flags : Flags) (mode : Nat) :
    Matches w (openPath path flags mode : Act κ _) (openPath path flags mode) Eq := by
  unfold openPath
  split
  · exact matches_pure rfl
  · exact (matches_call _).then fun _ => matches_pure rfl

theorem neverBlocks_matches (fd : Int) :
    Matches w (neverBlocks fd : Act κ _) (neverBlocks fd) Eq := by
  refine (matches_call _).then fun reply => ?_
  cases (reply : Except Errno Flags) with
  | ok flags => exact matches_pure rfl
  | error e => exact matches_pure rfl

theorem makeNonblocking_matches (fd : Int) :
    Matches w (makeNonblocking fd : Act κ _) (makeNonblocking fd) Eq := by
  refine (matches_call _).then fun flags => (matches_call _).then fun reply => ?_
  cases (reply : Except Errno Unit) with
  | ok _ => exact matches_pure rfl
  | error e => exact matches_abort _

theorem close_matches (fd : Int) : Matches w (close fd : Act κ _) (close fd) Eq := by
  refine (matches_call _).then fun reply => ?_
  cases (reply : Except Errno Unit) with
  | ok _ => exact matches_pure rfl
  | error e => exact matches_pure rfl

theorem closeQuietly_matches (fd : Int) (context : String) :
    Matches w (closeQuietly fd context : Act κ _) (closeQuietly fd context) Eq := by
  refine (close_matches fd).then fun result => ?_
  rcases result with e | _
  · exact matches_log _ _
  · exact matches_pure rfl

end Descriptor

namespace Channel

variable {c c' : Channel}

/-! ## Notices -/

/-- **Beginnings and endings** may be logged at the levels that the leeway allows. -/
theorem logLifecycle_matches {v v' : Bool} (may : w.Same v v') (message : String) :
    Matches w (logLifecycle v message : Act κ Unit) (logLifecycle v' message) Eq := by
  cases w with
  | free => exact matches_journal fun _ _ _ _ _ _ => trivial
  | quieter =>
    obtain rfl : v' = v := may
    exact matches_log _ _

theorem logLoss_matches (alike : c.Alike w c') (operation : String) :
    Matches w (c.logLoss operation : Act κ Unit) (c'.logLoss operation) Eq := by
  obtain ⟨_⟩ := alike
  unfold logLoss
  dsimp only
  split
  · refine (matches_log _ _).then fun _ => ?_
    split
    · exact matches_log _ _
    · exact matches_pure rfl
  · split
    · exact matches_log _ _
    · exact matches_pure rfl

theorem mayRetry_matches (alike : c.Alike w c') (direction : Direction) (deadline : Deadline) :
    Matches w (c.mayRetry direction deadline : Act κ _) (c'.mayRetry direction deadline) Eq := by
  have left := alike
  obtain ⟨_⟩ := alike
  unfold mayRetry
  dsimp only
  split
  · exact matches_pure rfl
  · refine ((c.waiter.wait_matches c.fd direction deadline).leaving left).then fun outcome => ?_
    rcases outcome with got | _
    · exact (matches_require _ _).then fun _ => matches_pure rfl
    · exact matches_pure rfl

/-! ## Reads -/

theorem readToward_matches (alike : c.Alike w c') (need : Nat) :
    Matches w (c.readToward need : Act κ _) (c'.readToward need) (Beside w) := by
  obtain ⟨may⟩ := alike
  unfold readToward
  dsimp only
  split
  · refine (matches_log _ _).then fun _ =>
      (Descriptor.read_matches c.fd need).then fun outcome => ?_
    rcases outcome with bytes | _ | e
    all_goals exact matches_pure ⟨rfl, .intro may⟩
  · refine (matches_check _).then fun slot =>
      (Descriptor.read_matches c.fd slot.capacity).then fun outcome => ?_
    rcases outcome with bytes | _ | e
    · exact (matches_check _).then fun _ => (matches_check _).then fun _ =>
        matches_pure ⟨rfl, .intro may⟩
    all_goals exact matches_pure ⟨rfl, .intro may⟩

theorem readTurn_matches (len low high : Nat) (deadline : Deadline) {x y : Bytes × Channel}
    (agree : Beside w x y) : Matches w (readTurn len low high deadline x : Act κ _)
      (readTurn len low high deadline y) (Sum.LiftRel (Beside w) (Beside w)) := by
  obtain ⟨received, c⟩ := x
  obtain ⟨_, c'⟩ := y
  obtain ⟨rfl, alike⟩ := agree
  unfold readTurn
  dsimp only
  split
  · exact matches_pure (.inr ⟨rfl, alike⟩)
  · refine (matches_check _).then fun need => (readToward_matches alike need).bind
      fun r r' beside => ?_
    obtain ⟨outcome, c₁⟩ := r
    obtain ⟨_, c₁'⟩ := r'
    obtain ⟨rfl, alike⟩ := beside
    rcases outcome with (_ | ⟨first, bytes⟩) | _ | e
    · exact matches_pure (.inr ⟨rfl, alike⟩)
    · exact matches_pure (.inl ⟨rfl, alike⟩)
    · refine (mayRetry_matches alike .readable deadline).then fun goOn => ?_
      cases goOn with
      | false => exact matches_pure (.inr ⟨rfl, alike⟩)
      | true => exact matches_pure (.inl ⟨rfl, alike⟩)
    · exact matches_pure (.inr ⟨rfl, alike⟩)

theorem receive_matches (alike : c.Alike w c') (len low high : Nat) (deadline : Deadline) :
    Matches w (c.receive len low high deadline : Act κ _) (c'.receive len low high deadline)
      (Beside w) := by
  obtain ⟨may⟩ := alike
  unfold receive
  refine (matches_check _).then fun _ => (matches_check _).then fun taken => ?_
  refine matches_if (p := low ≤ c.liveCount) Iff.rfl ?_ ?_
  · exact matches_pure ⟨rfl, .intro may⟩
  · exact matches_loop (Beside w) ⟨rfl, .intro may⟩ fun x y agree =>
      readTurn_matches len low high deadline agree

theorem readBetween_matches (alike : c.Alike w c') (len low high : Nat) (deadline : Deadline) :
    Matches w (c.readBetween len low high deadline : Act κ _)
      (c'.readBetween len low high deadline) (Beside w) := by
  unfold readBetween
  split
  · exact matches_pure ⟨rfl, alike⟩
  split
  · exact matches_pure ⟨rfl, alike⟩
  · exact receive_matches alike len low high deadline

theorem readSome_matches (alike : c.Alike w c') (len : Nat) :
    Matches w (c.readSome len : Act κ _) (c'.readSome len) (Beside w) := by
  unfold readSome
  split
  · exact matches_pure ⟨rfl, alike⟩
  · refine (readBetween_matches alike len 1 len .never).bind fun r r' beside => ?_
    obtain ⟨⟨bytes, error?⟩, c₁⟩ := r
    obtain ⟨_, c₁'⟩ := r'
    obtain ⟨rfl, alike⟩ := beside
    cases error? with
    | none => exact matches_pure ⟨rfl, alike⟩
    | some e => exact matches_pure ⟨rfl, alike⟩

/-! ## Writes -/

theorem sendTurn_matches (alike : c.Alike w c') (data : Bytes) (deadline : Deadline) (sent : Nat) :
    Matches w (c.sendTurn data deadline sent : Act κ _) (c'.sendTurn data deadline sent) Eq := by
  have left := alike
  obtain ⟨_⟩ := alike
  unfold sendTurn
  split
  · exact matches_pure rfl
  · refine (matches_check _).then fun rest =>
      (Descriptor.write_matches c.fd rest).then fun outcome => ?_
    rcases outcome with n | _ | e
    · exact matches_pure rfl
    · refine (mayRetry_matches left .writable deadline).then fun goOn => ?_
      cases goOn with
      | false => exact matches_pure rfl
      | true => exact matches_pure rfl
    · exact matches_pure rfl

theorem send_matches (alike : c.Alike w c') (data : Bytes) (deadline : Deadline) :
    Matches w (c.send data deadline : Act κ _) (c'.send data deadline) Eq :=
  matches_repeat fun sent => sendTurn_matches alike data deadline sent

theorem flush_matches (alike : c.Alike w c') (deadline : Deadline) :
    Matches w (c.flush deadline : Act κ _) (c'.flush deadline) (Beside w) := by
  have left := alike
  obtain ⟨may⟩ := alike
  unfold flush
  dsimp only
  split
  · exact matches_pure ⟨rfl, left⟩
  · refine (send_matches left c.output.pending deadline).then fun r => ?_
    obtain ⟨sent, _ | e⟩ := r
    · exact (matches_log _ _).then fun _ => matches_pure ⟨rfl, .intro may⟩
    · exact (matches_check _).then fun _ => matches_pure ⟨rfl, .intro may⟩

omit [Host κ] in
theorem collect_matches (alike : c.Alike w c') (data : Bytes) :
    Matches w (c.collect data : Act κ _) (c'.collect data) (Beside w) := by
  obtain ⟨may⟩ := alike
  exact (matches_check _).then fun _ => matches_pure ⟨rfl, .intro may⟩

theorem write_matches (alike : c.Alike w c') (data : Bytes) (deadline : Deadline) :
    Matches w (c.write data deadline : Act κ _) (c'.write data deadline) (Beside w) := by
  have left := alike
  obtain ⟨_⟩ := alike
  unfold write
  dsimp only
  split
  · exact collect_matches left data
  · refine (flush_matches left deadline).bind fun r r' beside => ?_
    obtain ⟨result, c₁⟩ := r
    obtain ⟨_, c₁'⟩ := r'
    obtain ⟨rfl, alike⟩ := beside
    rcases result with e | _
    · exact matches_pure ⟨rfl, alike⟩
    · have left := alike
      obtain ⟨_⟩ := alike
      dsimp only
      split
      · exact collect_matches left data
      · refine (matches_log _ _).then fun _ => (send_matches left data deadline).then fun r => ?_
        obtain ⟨sent, _ | e⟩ := r
        all_goals exact matches_pure ⟨rfl, left⟩

/-! ## Positions -/

theorem seek_matches (alike : c.Alike w c') (position : Nat) :
    Matches w (c.seek position : Act κ _) (c'.seek position) (Beside w) := by
  have left := alike
  obtain ⟨may⟩ := alike
  unfold seek
  split
  · exact matches_pure ⟨rfl, left⟩
  · exact (logLoss_matches left _).then fun _ =>
      (Descriptor.seekTo_matches c.fd position).then fun _ => matches_pure ⟨rfl, .intro may⟩

theorem tell_matches (alike : c.Alike w c') :
    Matches w (c.tell : Act κ _) c'.tell Eq := by
  have left := alike
  obtain ⟨_⟩ := alike
  unfold tell
  refine (Descriptor.position_matches c.fd).then fun r => ?_
  rcases r with e | physical
  · exact matches_pure rfl
  · refine matches_if (p := physical < c.liveCount) Iff.rfl ?_ ?_
    · exact ((matches_throw (.faulted _)).leaving left).then fun _ => matches_pure rfl
    · exact matches_pure rfl

theorem size_matches (alike : c.Alike w c') :
    Matches w (c.size : Act κ _) c'.size Eq := by
  obtain ⟨_⟩ := alike
  unfold size
  dsimp only
  split
  · exact (matches_log _ _).then fun _ => matches_pure rfl
  · refine (Descriptor.position_matches c.fd).then fun first => ?_
    rcases first with e | here
    · exact matches_pure rfl
    refine (Descriptor.seekEnd_matches c.fd).then fun second => ?_
    rcases second with e | stop
    · exact matches_pure rfl
    refine (Descriptor.seekTo_matches c.fd here).then fun third => ?_
    rcases third with e | back
    · exact matches_pure rfl
    · exact matches_pure rfl

theorem targetPosition_matches (alike : c.Alike w c') (target : SeekTarget) :
    Matches w (c.targetPosition target : Act κ _) (c'.targetPosition target) Eq := by
  unfold targetPosition
  rcases target with n | delta | delta
  · exact matches_pure rfl
  · exact (tell_matches alike).then fun _ => matches_pure rfl
  · exact (size_matches alike).then fun _ => matches_pure rfl

theorem reposition_matches (alike : c.Alike w c') (target : SeekTarget) :
    Matches w (c.reposition target : Act κ _) (c'.reposition target) (Beside w) := by
  unfold reposition
  refine (flush_matches alike .never).bind fun r r' beside => ?_
  obtain ⟨result, c₁⟩ := r
  obtain ⟨_, c₁'⟩ := r'
  obtain ⟨rfl, alike⟩ := beside
  rcases result with e | _
  · exact matches_pure ⟨rfl, alike⟩
  · refine (targetPosition_matches alike target).then fun found => ?_
    rcases found with e | _ | position
    · exact matches_pure ⟨rfl, alike⟩
    · exact matches_pure ⟨rfl, alike⟩
    · refine (seek_matches alike position).bind fun r r' beside => ?_
      obtain ⟨result, c₂⟩ := r
      obtain ⟨_, c₂'⟩ := r'
      obtain ⟨rfl, alike⟩ := beside
      exact matches_pure ⟨rfl, alike⟩

theorem writeAll_matches (alike : c.Alike w c') (data : Bytes) :
    Matches w (c.writeAll data : Act κ _) (c'.writeAll data) (Beside w) := by
  refine (write_matches alike data .never).bind fun r r' beside => ?_
  obtain ⟨result, c₁⟩ := r
  obtain ⟨_, c₁'⟩ := r'
  obtain ⟨rfl, alike⟩ := beside
  exact matches_pure ⟨rfl, alike⟩

theorem flushAll_matches (alike : c.Alike w c') :
    Matches w (c.flushAll : Act κ _) c'.flushAll (Beside w) := by
  refine (flush_matches alike .never).bind fun r r' beside => ?_
  obtain ⟨result, c₁⟩ := r
  obtain ⟨_, c₁'⟩ := r'
  obtain ⟨rfl, alike⟩ := beside
  exact matches_pure ⟨rfl, alike⟩

/-! ## Beginnings and endings -/

/-- **What came of an opening**: the same failure, or channels that agree. -/
inductive Begun (w : Leeway) :
    Except ChannelError Channel → Except ChannelError Channel → Prop
  | failed (e : ChannelError) : Begun w (.error e) (.error e)
  | opened {c c' : Channel} : c.Alike w c' → Begun w (.ok c) (.ok c')

theorem prepare_matches (fd : Int) : Matches w (prepare fd : Act κ _) (prepare fd) Eq := by
  refine (Descriptor.kindOf_matches fd).then fun asked => ?_
  rcases asked with e | kind
  · exact matches_pure rfl
  · exact matches_allocateBuffers.then fun _ => matches_pure rfl

theorem openConfigured_matches {config config' : Config} (alike : config.Alike w config')
    (path : String) (flags : Flags) (mode : Nat) (waiter : Waiter) :
    Matches w (openConfigured path flags mode config waiter : Act κ _)
      (openConfigured path flags mode config' waiter) (Begun w) := by
  obtain @⟨v, may⟩ := alike
  unfold openConfigured
  have valid : { config with logLifecycle := v }.validate = config.validate := rfl
  rw [valid]
  rcases config.validate with e | _
  · exact matches_pure (.failed _)
  dsimp only
  refine (Descriptor.openPath_matches path _ mode).then fun opened => ?_
  rcases opened with e | fd
  · exact matches_pure (.failed _)
  refine (waiter.claim_matches fd).then fun _ => (prepare_matches fd).then fun prepared => ?_
  rcases prepared with e | ⟨kind, input, output⟩
  · exact (waiter.release_matches fd).then fun _ =>
      (Descriptor.closeQuietly_matches fd _).then fun _ => matches_pure (.failed _)
  · exact (logLifecycle_matches may _).then fun _ => matches_pure (.opened (.intro may))

theorem adoptConfigured_matches {config config' : Config} (alike : config.Alike w config')
    (fd : Int) (waiter : Waiter) :
    Matches w (adoptConfigured fd config waiter : Act κ _) (adoptConfigured fd config' waiter)
      (Begun w) := by
  obtain ⟨may⟩ := alike
  unfold adoptConfigured
  refine matches_allocateBuffers.then fun buffers => ?_
  rcases buffers with e | ⟨input, output⟩
  · exact matches_pure (.failed _)
  · exact (Descriptor.makeNonblocking_matches fd).then fun _ =>
      (waiter.claim_matches fd).then fun _ =>
        (logLifecycle_matches may _).then fun _ => matches_pure (.opened (.intro may))

omit [Host κ] in
theorem environmentConfig_matches :
    Matches w (environmentConfig : Act κ Config) environmentConfig (Config.Alike w) := by
  refine matches_get.bind fun s s' alike => ?_
  obtain ⟨agree, _⟩ := alike
  exact matches_pure agree.config

theorem openPath_matches (path : String) (flags : Flags) (mode : Nat) :
    Matches w (openPath path flags mode : Act κ _) (openPath path flags mode) (Begun w) :=
  environmentConfig_matches.bind fun _ _ alike => openConfigured_matches alike path flags mode _

theorem create_matches (path : String) :
    Matches w (create path : Act κ _) (create path) (Begun w) := by
  refine environmentConfig_matches.bind fun config config' alike => ?_
  have same : config'.openMode = config.openMode := by
    obtain ⟨_⟩ := alike
    rfl
  rw [same]
  exact openConfigured_matches alike path _ _ _

theorem adopt_matches (fd : Int) : Matches w (adopt fd : Act κ _) (adopt fd) (Begun w) :=
  environmentConfig_matches.bind fun _ _ alike => adoptConfigured_matches alike fd _

theorem detach_matches (alike : c.Alike w c') :
    Matches w (c.detach : Act κ _) c'.detach Eq := by
  have left := alike
  obtain ⟨may⟩ := alike
  rw [detach_eq, detach_eq]
  exact (logLoss_matches left _).then fun _ => (c.waiter.release_matches c.fd).then fun _ =>
    (logLifecycle_matches may _).then fun _ => matches_pure rfl

theorem close_matches (alike : c.Alike w c') : Matches w (c.close : Act κ _) c'.close Eq := by
  obtain ⟨may⟩ := alike
  rw [close_eq, close_eq]
  refine (c.waiter.release_matches c.fd).then fun _ =>
    (Descriptor.close_matches c.fd).then fun closed => ?_
  rcases closed with e | _
  · exact matches_abort _
  · exact logLifecycle_matches may _

theorem drop_matches (alike : c.Alike w c') : Matches w (c.drop : Act κ _) c'.drop Eq := by
  have left := alike
  obtain ⟨_⟩ := alike
  unfold drop
  dsimp only
  split
  · exact (logLoss_matches left _).then fun _ => (c.waiter.release_matches c.fd).then fun _ =>
      Descriptor.closeQuietly_matches c.fd _
  · exact matches_pure rfl

end Channel

/-! ## Commands -/

/-- **Openings that agree** but for the logging. -/
inductive Opening.Alike (w : Leeway) : Opening → Opening → Prop
  | openPath (path : String) (flags : Flags) (mode : Nat) :
      Alike w (.openPath path flags mode) (.openPath path flags mode)
  | create (path : String) : Alike w (.create path) (.create path)
  | openConfigured (path : String) (flags : Flags) (mode : Nat) {config config' : ConfigSource}
      (waiter : Waiter) : config.Alike w config' →
      Alike w (.openConfigured path flags mode config waiter)
        (.openConfigured path flags mode config' waiter)
  | adopt (fd : Int) : Alike w (.adopt fd) (.adopt fd)
  | adoptConfigured (fd : Int) {config config' : ConfigSource} (waiter : Waiter) :
      config.Alike w config' →
      Alike w (.adoptConfigured fd config waiter) (.adoptConfigured fd config' waiter)

/-- **Whether a question sets how the log is written.** -/
def Query.tunes : Query → Bool
  | .setLogLevel _ | .setLogTime _ => true
  | _ => false

/-- **Questions that agree** but for the logging. -/
inductive Query.Alike (w : Leeway) : Query → Query → Prop
  | same {question : Query} : question.tunes = false → Alike w question question
  | level {l l' : Log.Level} : w.Levels l l' → Alike w (.setLogLevel l) (.setLogLevel l')
  | time {t t' : Bool} : w.Stamps t t' → Alike w (.setLogTime t) (.setLogTime t')
  | printConfig {config config' : ConfigSource} : config.Alike w config' →
      Alike w (.printConfig config) (.printConfig config')

/-- **Commands that agree** but for the logging. -/
inductive Command.Alike (w : Leeway) : Command → Command → Prop
  | begin (name : String) {opening opening' : Opening} : opening.Alike w opening' →
      Alike w (.begin name opening) (.begin name opening')
  | operate (name : String) (operation : Operation) :
      Alike w (.operate name operation) (.operate name operation)
  | finish (name : String) (ending : Ending) : Alike w (.finish name ending) (.finish name ending)
  | query {question question' : Query} : question.Alike w question' →
      Alike w (.query question) (.query question')
  | dropAll : Alike w .dropAll .dropAll

/-- **Channels under the same names** that agree. -/
inductive Roster.Alike (w : Leeway) : Roster → Roster → Prop
  | nil : Alike w [] []
  | cons (name : String) {c c' : Channel} {rest rest' : Roster} : c.Alike w c' →
      Alike w rest rest' → Alike w ((name, c) :: rest) ((name, c') :: rest')

namespace Roster.Alike

variable {roster roster' : Roster} {c c' : Channel}

/-- The same names are there. -/
theorem lookup (h : roster.Alike w roster') (name : String) :
    Option.Rel (Channel.Alike w) (roster.lookup name) (roster'.lookup name) := by
  induction h with
  | nil => exact .none
  | cons n here _ ih =>
    rw [List.lookup_cons, List.lookup_cons]
    cases name == n with
    | true => exact .some here
    | false => exact ih

theorem put (h : roster.Alike w roster') (name : String) (alike : c.Alike w c') :
    (roster.put name c).Alike w (roster'.put name c') := by
  induction h with
  | nil => exact .cons name alike .nil
  | cons n here others ih =>
    unfold Roster.put
    split
    · exact .cons name alike others
    split
    · exact .cons name alike (.cons n here others)
    · exact .cons n here ih

theorem strike (h : roster.Alike w roster') (name : String) :
    (roster.strike name).Alike w (roster'.strike name) := by
  induction h with
  | nil => exact .nil
  | cons n here _ ih =>
    unfold Roster.strike at ih ⊢
    rw [List.filter_cons, List.filter_cons]
    dsimp only
    split
    · exact .cons n here ih
    · exact ih

end Roster.Alike

theorem DeadlineSource.resolve_matches (source : DeadlineSource) :
    Matches w (source.resolve : Act κ _) source.resolve Eq := by
  rcases source with _ | duration | instant
  · exact matches_pure rfl
  · exact matches_now.then fun _ => matches_pure rfl
  · exact matches_pure rfl

omit [Host κ] in
theorem ConfigSource.build_matches {source source' : ConfigSource}
    (alike : source.Alike w source') :
    Matches w (source.build : Act κ Config) source'.build (Config.Alike w) := by
  refine matches_get.bind fun s s' agree => ?_
  obtain ⟨agree, _⟩ := agree
  exact matches_pure (agree.resolve alike)

theorem Opening.run_matches {opening opening' : Opening} (alike : opening.Alike w opening') :
    Matches w (opening.run : Act κ _) opening'.run (Channel.Begun w) := by
  cases alike with
  | openPath path flags mode => exact Channel.openPath_matches path flags _
  | create path => exact Channel.create_matches path
  | openConfigured path flags mode waiter alike =>
    exact (ConfigSource.build_matches alike).bind fun _ _ config =>
      Channel.openConfigured_matches config path flags _ waiter
  | adopt fd => exact Channel.adopt_matches fd
  | adoptConfigured fd waiter alike =>
    exact (ConfigSource.build_matches alike).bind fun _ _ config =>
      Channel.adoptConfigured_matches config fd waiter

omit [Host κ] in
/-- A result is put into the answer of a command. -/
theorem Act.Matches.answered {α : Type} {act act' : Act κ (α × Channel)}
    (h : Matches w act act' (Beside w))
    (answer : α → Answer) :
    Matches w (act >>= fun r => pure (answer r.1, r.2))
      (act' >>= fun r => pure (answer r.1, r.2)) (Beside w) :=
  h.bind fun _ _ beside => matches_pure ⟨congrArg answer beside.1, beside.2⟩

theorem Operation.run_matches {c c' : Channel} (alike : c.Alike w c') (operation : Operation) :
    Matches w (operation.run c : Act κ _) (operation.run c') (Beside w) := by
  cases operation with
  | read len deadline =>
    exact deadline.resolve_matches.then fun _ =>
      (Channel.receive_matches alike len len len _).answered .reading
  | readBetween len low high deadline =>
    exact deadline.resolve_matches.then fun _ =>
      (Channel.readBetween_matches alike len low high _).answered .reading
  | write data deadline =>
    exact deadline.resolve_matches.then fun _ =>
      (Channel.write_matches alike data _).answered .count
  | flush deadline =>
    exact deadline.resolve_matches.then fun _ =>
      (Channel.flush_matches alike _).answered .finished
  | seek position => exact (Channel.seek_matches alike position).answered .count
  | tell => exact (Channel.tell_matches alike).then fun _ => matches_pure ⟨rfl, alike⟩
  | size => exact (Channel.size_matches alike).then fun _ => matches_pure ⟨rfl, alike⟩
  | info =>
    obtain ⟨may⟩ := alike
    exact matches_pure ⟨rfl, .intro may⟩
  | readSome len => exact (Channel.readSome_matches alike len).answered .streamBytes
  | writeAll data => exact (Channel.writeAll_matches alike data).answered .streamCount
  | flushAll => exact (Channel.flushAll_matches alike).answered .streamDone
  | reposition target => exact (Channel.reposition_matches alike target).answered .streamCount

theorem Ending.run_matches {c c' : Channel} (alike : c.Alike w c') (ending : Ending) :
    Matches w (ending.run c : Act κ _) (ending.run c') Eq := by
  cases ending with
  | close => exact (Channel.close_matches alike).then fun _ => matches_pure rfl
  | detach => exact (Channel.detach_matches alike).then fun _ => matches_pure rfl
  | drop => exact (Channel.drop_matches alike).then fun _ => matches_pure rfl

theorem OwnershipQuery.run_matches (question : OwnershipQuery) (fd : Int) (scope : Scope) :
    Matches w (question.run fd scope : Act κ _) (question.run fd scope) Eq := by
  cases question with
  | claim => exact (matches_claimIn scope fd).then fun _ => matches_pure rfl
  | release => exact (matches_releaseIn scope fd).then fun _ => matches_pure rfl
  | _ =>
    refine matches_get.bind fun s s' alike => ?_
    obtain ⟨_, _⟩ := alike
    exact matches_pure rfl

omit [Host κ] in
/-- The lines that show configurations that agree. -/
theorem Config.Alike.describe {config config' : Config} (alike : config.Alike w config')
    (bufferLength : Nat) :
    List.Forall₂ w.Same (config.describe bufferLength) (config'.describe bufferLength) := by
  obtain @⟨v, may⟩ := alike
  refine .cons (w.same_refl _) (.cons (w.same_refl _) (.cons (w.same_refl _)
    (.cons (w.same_refl _) (.cons ?_ .nil))))
  cases w with
  | free => trivial
  | quieter =>
    obtain rfl : v = config.logLifecycle := may
    rfl

/-- A setting of the log. -/
theorem adjustLog_matches {change change' : Log.Settings → Log.Settings}
    (allowed : ∀ env env' j j' now, w.Journals env env' j j' →
      w.Journals env env' (j.adjust env now change) (j'.adjust env' now change')) :
    Matches w (do adjustLog change; return .ok : Act κ Answer)
      (do adjustLog change'; return .ok) Eq :=
  (matches_journal allowed).then fun _ => matches_pure rfl

theorem printConfig_matches {source source' : ConfigSource} (alike : source.Alike w source') :
    Matches w ((Query.printConfig source).run : Act κ Answer)
      (Query.printConfig source').run Eq := by
  refine (ConfigSource.build_matches alike).bind fun config config' agree => ?_
  refine Matches.then (matches_get.bind fun s s' same => ?_) fun _ => matches_pure rfl
  obtain ⟨_, _⟩ := same
  exact matches_printAll (agree.describe _)

omit [Host κ] in
theorem ConfigSource.alike_refl (source : ConfigSource) : source.Alike w source := by
  obtain ⟨fromEnvironment, openMode?, cloexec?, logLifecycle?⟩ := source
  refine .intro fun v v' may => ?_
  cases logLifecycle? with
  | none => exact may
  | some _ => exact w.same_refl _

theorem Query.run_matches {question question' : Query} (alike : question.Alike w question') :
    Matches w (question.run : Act κ _) question'.run Eq := by
  cases alike with
  | level may => exact adjustLog_matches fun _ _ _ _ now journals => journals.setLevel now may
  | time may => exact adjustLog_matches fun _ _ _ _ now journals => journals.setTime now may
  | printConfig alike => exact printConfig_matches alike
  | same calm =>
    cases question with
    | wait fd direction deadline scope =>
      exact deadline.resolve_matches.then fun deadline =>
        ((Waiter.polling scope).wait_matches fd direction deadline).then fun _ => matches_pure rfl
    | ownership question fd scope => exact question.run_matches fd scope
    | openPath path flags mode =>
      exact (Descriptor.openPath_matches path flags _).then fun _ => matches_pure rfl
    | read fd len => exact (Descriptor.read_matches fd len).then fun _ => matches_pure rfl
    | write fd data => exact (Descriptor.write_matches fd data).then fun _ => matches_pure rfl
    | close fd => exact (Descriptor.close_matches fd).then fun _ => matches_pure rfl
    | seekTo fd position =>
      exact (Descriptor.seekTo_matches fd position).then fun _ => matches_pure rfl
    | position fd => exact (Descriptor.position_matches fd).then fun _ => matches_pure rfl
    | seekEnd fd => exact (Descriptor.seekEnd_matches fd).then fun _ => matches_pure rfl
    | kindOf fd => exact (Descriptor.kindOf_matches fd).then fun _ => matches_pure rfl
    | neverBlocks fd => exact (Descriptor.neverBlocks_matches fd).then fun _ => matches_pure rfl
    | makeNonblocking fd =>
      exact (Descriptor.makeNonblocking_matches fd).then fun _ => matches_pure rfl
    | setLogLevel level => exact Bool.noConfusion calm
    | setLogTime enabled => exact Bool.noConfusion calm
    | printConfig config => exact printConfig_matches config.alike_refl

theorem Roster.dropAll_matches {roster roster' : Roster} (alike : roster.Alike w roster') :
    Matches w (roster.dropAll : Act κ Unit) roster'.dropAll Eq := by
  induction alike with
  | nil => exact matches_pure rfl
  | cons name here _ ih => exact (Channel.drop_matches here).then fun _ => ih

/-- **The same answer beside rosters that agree.** -/
def Answered (w : Leeway) (r r' : Answer × Roster) : Prop := r.1 = r'.1 ∧ r.2.Alike w r'.2

/-- A channel that begins is put under its name, and one that does not leaves none there. -/
theorem Opening.enter_matches {roster roster' : Roster} (there : roster.Alike w roster')
    (name : String) {opening opening' : Opening} (alike : opening.Alike w opening') :
    Matches w (do
      match ← (opening.run : Act κ _) with
      | .ok c => return (Answer.begun (.ok (c.fd, c.kind)), roster.put name c)
      | .error e => return (.begun (.error e), roster.strike name))
      (do
      match ← opening'.run with
      | .ok c => return (.begun (.ok (c.fd, c.kind)), roster'.put name c)
      | .error e => return (.begun (.error e), roster'.strike name)) (Answered w) := by
  refine (Opening.run_matches alike).bind fun r r' begun => ?_
  cases begun with
  | failed e => exact matches_pure ⟨rfl, there.strike name⟩
  | opened alike =>
    have left := alike
    obtain ⟨_⟩ := alike
    exact matches_pure ⟨rfl, there.put name left⟩

theorem Command.begin_matches {roster roster' : Roster} (there : roster.Alike w roster')
    (name : String) {opening opening' : Opening} (alike : opening.Alike w opening') :
    Matches w ((Command.begin name opening).run roster : Act κ _)
      ((Command.begin name opening').run roster') (Answered w) := by
  have goOn := Opening.enter_matches (κ := κ) there name alike
  unfold Command.run
  dsimp only
  have named := there.lookup name
  generalize List.lookup name roster = found at *
  generalize List.lookup name roster' = found' at *
  cases named with
  | none => exact goOn
  | some alike => exact (Channel.drop_matches alike).then fun _ => goOn

/-- **Every command** comes to the same answer, and leaves channels that agree. -/
theorem Command.run_matches {roster roster' : Roster} (there : roster.Alike w roster')
    {command command' : Command} (alike : command.Alike w command') :
    Matches w (command.run roster : Act κ _) (command'.run roster') (Answered w) := by
  cases alike with
  | begin name alike => exact Command.begin_matches there name alike
  | operate name operation =>
    unfold Command.run
    dsimp only
    have named := there.lookup name
    generalize List.lookup name roster = found at *
    generalize List.lookup name roster' = found' at *
    cases named with
    | none => exact matches_pure ⟨rfl, there⟩
    | some alike =>
      exact (operation.run_matches alike).bind fun r r' beside =>
        matches_pure ⟨beside.1, there.put name beside.2⟩
  | finish name ending =>
    unfold Command.run
    dsimp only
    have named := there.lookup name
    generalize List.lookup name roster = found at *
    generalize List.lookup name roster' = found' at *
    cases named with
    | none => exact matches_pure ⟨rfl, there⟩
    | some alike =>
      exact (ending.run_matches alike).then fun _ => matches_pure ⟨rfl, there.strike name⟩
  | query alike => exact (Query.run_matches alike).then fun _ => matches_pure ⟨rfl, there⟩
  | dropAll => exact (Roster.dropAll_matches there).then fun _ => matches_pure ⟨rfl, .nil⟩

end BufferedChannels
