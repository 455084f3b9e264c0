import BufferedChannels.Proofs.Openings
import BufferedChannels.Proofs.Shares

/-!
# Proofs/Concatenation — what the copying command leaves behind

The command copies **all shares in order**, whatever fails in between and whatever puts its calls
off, reports each with its count of bytes or its failure, and exits by whether one failed
(`copies_everything`).
-/

namespace BufferedChannels

open Simulation Simulation.Kernel

/-! ## One argument -/

variable {s : System Kernel} {x : Stock} {owners : Scope → Ownership} {src snk : Handle}
  {sink : Channel} {cap : Nat} {share : Except ChannelError Bytes} {out : Bytes} {most : Nat}

open Concatenate

/-- Standard output is owned by the command's channel, and nothing else is owned. -/
def outputOwners : Scope → Ownership :=
  Channel.defaultWaiter.claimed standardOutput fun _ => {}

namespace Concatenate

variable {w : Workspace} {unread : Bool} {left : Nat} {path : String}

/-- **Where an argument is to be copied**: a workspace that is laid, and a channel over standard
output, which takes so much and has room for so many bytes. -/
structure Prepared (w : Workspace) (unread : Bool) (left : Nat) (x : Stock) (snk : Handle)
    (sink : Channel) (cap : Nat) (out : Bytes) (most : Nat) (s : System Kernel) : Prop where
  stocked : s.Stocked x outputOwners
  laid : w.Laid unread left snk x
  environment : s.environment = w.environment
  takes : snk.Takes out most
  pours : sink.Pours standardOutput cap snk.material
  pos : 0 < cap
  small : cap ≤ maxBlock
  length : s.bufferLength = cap

namespace Prepared

variable {fd : Int} {x' : Stock} {source sink' : Channel} {s' : System Kernel} {sent : Bytes}

/-- Fewer openings are to come. -/
theorem mono {fewer : Nat} (h : Prepared w unread left x snk sink cap out most s)
    (le : fewer ≤ left) : Prepared w unread fewer x snk sink cap out most s :=
  { h with laid := h.laid.mono le }

/-- A fresh channel is ready to be copied. -/
theorem ready (h : Prepared w unread left x snk sink cap out most s) {env : Environment}
    (fresh : source.Fresh fd src.material cap env) (has : x'.Has fd src)
    (has' : x'.Has standardOutput snk) (other : fd ≠ standardOutput)
    (apart : src.file.node ≠ snk.file.node) :
    Ready x' fd standardOutput src snk source sink cap out most where
  has := has
  has' := has'
  other := other
  apart := apart
  onto := fresh.toOver
  dry := fresh.dry
  unmarked := fresh.unmarked
  takes := h.takes
  pours := h.pours
  pos := h.pos

/-- What was sent is taken, and the next argument can be copied. -/
theorem next (h : Prepared w unread left x snk sink cap out most s) {unread' : Bool} {fewer : Nat}
    {messages : List (Log.Level × String)} (tells : s.Tells messages s')
    (stocked : s'.Stocked x' outputOwners) (laid : w.Laid unread' fewer (snk.pour sent) x')
    (rewritten : sink.Rewritten sink') :
    Prepared w unread' fewer x' (snk.pour sent) sink' cap (out ++ sent) most s' where
  stocked := stocked
  laid := laid
  environment := tells.environment.trans h.environment
  takes := h.takes.pour sent
  pours := (h.pours.rewritten rewritten).congr (snk.isStored_pour _)
  pos := h.pos
  small := h.small
  length := tells.bufferLength.trans h.length

end Prepared

/-- **What an argument leaves behind**: the result tells its share, standard output has it, and the
rest of the workspace is laid for the arguments that follow. -/
def Delivers (w : Workspace) (unread : Bool) (left : Nat) (snk : Handle) (sink : Channel)
    (share : Except ChannelError Bytes) (r : Except ChannelError Nat × Channel)
    (s' : System Kernel) : Prop :=
  r.1 = share.map List.length ∧ sink.Rewritten r.2 ∧ ∃ x sent,
    w.Laid unread left (snk.pour sent) x ∧
    sent ++ r.2.output.pending = sink.output.pending ++ copied share ∧ s'.Stocked x outputOwners

theorem Delivers.nothing {e : ChannelError} (laid : w.Laid unread left snk x)
    (wf : sink.output.WellFormed) (after : s.Stocked x outputOwners) :
    Delivers w unread left snk sink (.error e) (.error e, sink) s :=
  ⟨rfl, .refl wf, x, [], by rwa [Handle.pour_nil], (List.append_nil _).symm, after⟩

/-- Where nothing was opened, nothing was sent. -/
theorem Prepared.nothing (h : Prepared w unread left x snk sink cap out most s) {e : ChannelError}
    (r : Except ChannelError Nat × Channel) (s' : System Kernel) (_ : s.Tells [] s')
    (refused : r = (.error e, sink) ∧ s'.Stocked x outputOwners) :
    Delivers w unread left snk sink (.error e) r s' := by
  obtain ⟨rfl, after⟩ := refused
  exact .nothing h.laid h.pours.wellFormed after

theorem inputShare_read (w : Workspace) (unread : Bool) :
    (w.inputShare unread).map (fun bytes => bytes.drop (copied (w.inputShare unread)).length) =
      w.inputShare false := by
  unfold Workspace.inputShare
  cases w.input with
  | file bytes => exact congrArg Except.ok List.drop_length
  | stream stream => exact congrArg Except.ok List.drop_length
  | _ => rfl

/-- **Standard input** delivers what it has, and its descriptor has its flags again. -/
theorem copyStandardInput_delivers (prepared : Prepared w unread left x snk sink cap out most s)
    (fits : out.length + sink.output.pending.length + (copied (w.inputShare unread)).length ≤
      most) :
    (copyStandardInput sink).Completes s
      (Delivers w false left snk sink (w.inputShare unread)) := by
  obtain ⟨src, has, here, gives⟩ := prepared.laid.input
  have alone : (outputOwners .shared).contains standardInput = false := by decide
  unfold copyStandardInput
  refine (prepared.stocked.saveFlags has).bind fun saved s₁ tells₁ ⟨is, after⟩ => ?_
  subst is
  have length₁ : s₁.bufferLength = cap := tells₁.bufferLength.trans prepared.length
  refine (Channel.adopt_completes after has alone
    (Nat.le_trans (Nat.le_of_eq length₁) prepared.small)
    (by decide)).bind fun r s₂ tells₂ ⟨source, is, fresh, after⟩ => ?_
  subst is
  rw [length₁] at fresh
  have gives₂ : src.nonblocking.Gives (w.inputShare unread) := gives.withFlags _
  have laid₂ := prepared.laid.putInput gives₂ here
  have apart : src.nonblocking.file.node ≠ snk.file.node := by
    rw [laid₂.there]
    exact here.trans_ne Workspace.inputName_ne_outputName
  have ready : Ready _ _ _ src.nonblocking _ _ _ _ _ _ :=
    prepared.ready fresh (Stock.has_put ..) laid₂.output (by decide) apart
  refine (copyAll_gives ready gives₂ after (tells₂.bufferLength.trans length₁) fits).bind
    fun r s₃ tells₃ ⟨is, reread, rewritten, sent, order, after⟩ => ?_
  obtain ⟨result, source', sink'⟩ := r
  have spent := fresh.spent reread
  rw [← (tells₂.trans tells₃).environment] at spent
  refine (Channel.detach_completes after alone spent).bind fun _ s₄ _ after => ?_
  -- What was read is behind, and what was sent is taken.
  have gives₃ := gives₂.skip (copied (w.inputShare unread)).length
  rw [inputShare_read] at gives₃
  have here₃ := (src.nonblocking.node_skip (copied (w.inputShare unread)).length).trans here
  have laid₃ := (laid₂.putInput gives₃ here₃).putOutput ((snk.node_pour sent).trans laid₂.there)
  have has₃ : (carried (x.put standardInput src.nonblocking) standardInput standardOutput
      src.nonblocking snk (copied (w.inputShare unread)) sent).Has standardInput
        (src.nonblocking.skip (copied (w.inputShare unread)).length) :=
    (Stock.has_put ..).put_other (by decide) (by simpa using apart)
  refine (after.restoreFlags has₃ src.file.flags.status).bind fun _ s₅ _ after => ?_
  exact Act.completes_pure ⟨is, rewritten, _, sent,
    laid₃.putInput (gives₃.withFlags src.file.flags.status) here₃, order, after⟩

/-- A path at which nothing is opened. -/
theorem copyFile_refused {e : ChannelError} {P : System Kernel → Prop}
    (opens : (Channel.openPath path {} 0 : Act Kernel _).Completes s fun r s' =>
      r = .error e ∧ P s') :
    (copyFile path sink).Completes s fun r s' => r = (.error e, sink) ∧ P s' := by
  unfold copyFile
  refine opens.bind fun r s₁ _ ⟨is, after⟩ => ?_
  subst is
  exact Act.completes_pure ⟨rfl, after⟩

/-- **A path that is opened** delivers what it leads to, and is closed. -/
theorem copyFile_opened {m : Material} (prepared : Prepared w unread left x snk sink cap out most s)
    (valid : (Config.ofEnvironment s.environment).validate = .ok ())
    (named : path.toList.contains '\x00' = false) (leads : x.prospects path = .carried m)
    (gives : ∀ flags : Flags, flags.access ≠ .writeOnly → Handle.Gives ⟨⟨path, flags, 0⟩, m⟩ share)
    (stays : ∀ file n, (Handle.skip ⟨file, m⟩ n).material = m)
    (fits : out.length + sink.output.pending.length + (copied share).length ≤ most) :
    (copyFile path sink).Completes s (Delivers w unread left snk sink share) := by
  have alone : (outputOwners .shared).contains 3 = false := by decide
  obtain ⟨notInput, notOutput⟩ := Workspace.apart_of_named named
  unfold copyFile
  refine (Channel.openPath_completes prepared.stocked valid named
    (prepared.length.symm ▸ prepared.small) leads prepared.laid.free alone).bind
    fun r s₁ tells₁ ⟨source, flags, is, fresh, reads, after⟩ => ?_
  subst is
  rw [prepared.length] at fresh
  have apart : path ≠ snk.file.node := by
    rw [prepared.laid.there]
    exact notOutput
  have ready : Ready _ _ _ ⟨⟨path, flags, 0⟩, m⟩ _ _ _ _ _ _ :=
    prepared.ready fresh (Stock.has_put ..)
      (prepared.laid.output.put_other (by decide) apart.symm) (by decide) apart
  have readable : flags.access ≠ .writeOnly := by
    rw [reads]
    decide
  refine (copyAll_gives ready (gives flags readable) after
    (tells₁.bufferLength.trans prepared.length) fits).bind
    fun r s₂ tells₂ ⟨is, reread, rewritten, sent, order, after⟩ => ?_
  obtain ⟨result, source', sink'⟩ := r
  have spent := fresh.spent reread
  rw [← (tells₁.trans tells₂).environment] at spent
  refine (Channel.close_completes after
    ((Stock.has_put ..).put_other (by decide) (by simpa using apart)) alone spent).bind
    fun _ s₃ _ after => ?_
  -- The descriptor is free again, and its node is as it was.
  have back : (carried (x.put 3 ⟨⟨path, flags, 0⟩, m⟩) 3 standardOutput ⟨⟨path, flags, 0⟩, m⟩ snk
      (copied share) sent).drop 3 = x.put standardOutput (snk.pour sent) := by
    have node := Handle.node_skip ⟨⟨path, flags, 0⟩, m⟩ (copied share).length
    unfold carried
    rw [Stock.put_put _ _ node, Stock.drop_put_other _ (by decide),
      Stock.drop_put_self ?_ prepared.laid.free]
    rw [node, leads, stays]
  rw [back] at after
  exact Act.completes_pure ⟨is, rewritten, _, sent,
    prepared.laid.putOutput ((snk.node_pour sent).trans prepared.laid.there), order, after⟩

/-- **A path that can be named** delivers what there is where it leads. -/
theorem copyFile_found (prepared : Prepared w unread (left + 1) x snk sink cap out most s)
    (valid : (Config.ofEnvironment s.environment).validate = .ok ())
    (named : path.toList.contains '\x00' = false)
    (fits : out.length + sink.output.pending.length +
      (copied (Workspace.foundShare (w.entries.lookup path))).length ≤ most) :
    (copyFile path sink).Completes s
      (Delivers w unread left snk sink (Workspace.foundShare (w.entries.lookup path))) := by
  have fewer := prepared.mono (Nat.le_succ left)
  obtain ⟨openings, enough, prospect⟩ := prepared.laid.paths path named
  have nowhere (missing : x.prospects path = .nowhere) : (copyFile path sink).Completes s
      (Delivers w unread left snk sink (.error (.ofErrno .noEntry))) :=
    (copyFile_refused (Channel.openPath_refused prepared.stocked valid named fun wanted only =>
      ⟨_, prepared.stocked.inventory.openPath_nowhere missing only,
        prepared.stocked.inventory⟩)).mono fewer.nothing
  cases leads : w.entries.lookup path with
  | none =>
    rw [leads] at prospect
    exact nowhere prospect
  | some found =>
    rw [leads] at prospect fits
    rcases found with e | entry
    · obtain ⟨more, rfl⟩ := Nat.exists_eq_add_of_le' (Nat.le_trans (Nat.le_add_left 1 left) enough)
      refine (copyFile_refused (Channel.openPath_refused prepared.stocked valid named
        fun wanted _ => prepared.stocked.inventory.openPath_refused prospect wanted)).mono ?_
      rintro _ s' _ ⟨rfl, after⟩
      exact .nothing (prepared.laid.refuse leads named (Nat.le_of_succ_le_succ enough))
        prepared.pours.wellFormed after
    cases entry with
    | file bytes =>
      exact copyFile_opened fewer valid named prospect (fun _ reads => .rest reads)
        (fun _ _ => rfl) fits
    | directory =>
      exact copyFile_opened fewer valid named prospect (fun _ reads => .directory reads)
        (fun _ _ => rfl) fits
    | null =>
      exact copyFile_opened fewer valid named prospect (fun _ reads => .flow reads)
        (fun _ _ => congrArg _ List.drop_nil) fits
    | standardInput => exact nowhere prospect
    | standardOutput => exact nowhere prospect

/-- **A path** delivers what it has. -/
theorem copyFile_delivers (prepared : Prepared w unread (left + 1) x snk sink cap out most s)
    (fits : out.length + sink.output.pending.length + (copied (w.pathShare path)).length ≤ most) :
    (copyFile path sink).Completes s (Delivers w unread left snk sink (w.pathShare path)) := by
  have fewer := prepared.mono (Nat.le_succ left)
  generalize is : w.pathShare path = share at *
  unfold Workspace.pathShare at is
  rw [← prepared.environment] at is
  split at is
  · next e invalid =>
    subst is
    exact (copyFile_refused (Channel.openPath_misconfigured prepared.stocked invalid)).mono
      fewer.nothing
  next valid =>
  split at is
  · next unnamed =>
    subst is
    exact (copyFile_refused (Channel.openPath_unnamed prepared.stocked valid unnamed)).mono
      fewer.nothing
  · next named =>
    subst is
    exact copyFile_found prepared valid (Bool.eq_false_iff.2 named) fits

/-- How many of the names are paths. -/
def pathCount (names : List String) : Nat := names.countP (· ≠ "-")

/-- **One argument** delivers its share. -/
theorem copyOne_delivers (name : String) (rest : List String)
    (prepared : Prepared w unread (pathCount (name :: rest)) x snk sink cap out most s) :
    ∃ share unread',
      w.sharesFrom unread (name :: rest) = ⟨name, share⟩ :: w.sharesFrom unread' rest ∧
      (out.length + sink.output.pending.length + (copied share).length ≤ most →
        (if name = "-" then copyStandardInput sink else copyFile name sink).Completes s
          (Delivers w unread' (pathCount rest) snk sink share)) := by
  rw [Workspace.sharesFrom]
  by_cases dash : name = "-"
  · have same : pathCount (name :: rest) = pathCount rest :=
      List.countP_cons_of_neg (by simpa using dash)
    rw [same] at prepared
    rw [if_pos dash, if_pos dash]
    exact ⟨_, _, rfl, copyStandardInput_delivers prepared⟩
  · have more : pathCount (name :: rest) = pathCount rest + 1 :=
      List.countP_cons_of_pos (by simpa using dash)
    rw [more] at prepared
    rw [if_neg dash, if_neg dash]
    exact ⟨_, _, rfl, copyFile_delivers prepared⟩

/-! ## All arguments -/

/-- **One argument after another**, as a sequence of two parts. -/
theorem copyEach_cons (name : String) (rest : List String) (well : Bool) (sink : Channel) :
    (copyEach (name :: rest) well sink : Act Kernel _) =
      ((if name = "-" then copyStandardInput sink else copyFile name sink) >>= fun r =>
        match r.1 with
        | .ok n => do
          Act.log .info s!"{name}: {n} bytes"
          copyEach rest well r.2
        | .error e => do
          Act.log .error s!"{name}: {e.message}"
          copyEach rest false r.2) := by
  rw [copyEach]
  split
  · rfl
  · rfl

/-- **What arguments leave behind**: whether all went well, and all shares in order. -/
def DeliversAll (shares : List Share) (well : Bool) (snk : Handle) (sink : Channel)
    (r : Bool × Channel) (s' : System Kernel) : Prop :=
  r.1 = (well && allWell shares) ∧ sink.Rewritten r.2 ∧ ∃ x sent,
    x.Has standardOutput (snk.pour sent) ∧
    sent ++ r.2.output.pending = sink.output.pending ++ allCopied shares ∧
    s'.Stocked x outputOwners

theorem DeliversAll.cons {name : String} {shares : List Share} {well : Bool} {sent : Bytes}
    {sink' : Channel} {r : Bool × Channel}
    (all : DeliversAll shares (well && share.isOk) (snk.pour sent) sink' r s)
    (rewritten : sink.Rewritten sink')
    (order : sent ++ sink'.output.pending = sink.output.pending ++ copied share) :
    DeliversAll (⟨name, share⟩ :: shares) well snk sink r s := by
  obtain ⟨is, rewritten', x, more, has, order', after⟩ := all
  rw [Handle.pour_pour] at has
  refine ⟨is.trans (Bool.and_assoc ..), rewritten.trans rewritten', x, sent ++ more, has, ?_, after⟩
  rw [List.append_assoc, order', ← List.append_assoc, order, allCopied_cons, List.append_assoc]

/-- **A share is reported**, and nothing else happens. -/
theorem report_reports (stocked : s.Stocked x owners) (share : Share) :
    (Act.log share.report.1 share.report.2 : Act Kernel Unit).Reports s [share.report]
      fun _ s' => s'.Stocked x owners :=
  (Act.reports_log share.report.1 share.report.2).mono fun _ _ _ ⟨host, same⟩ =>
    ⟨host ▸ stocked.inventory, same.trans stocked.ownership⟩

/-- **All arguments** deliver their shares, in order, and each is reported. -/
theorem copyEach_reports (names : List String) (well : Bool)
    (prepared : Prepared w unread (pathCount names) x snk sink cap out most s)
    (fits : out.length + sink.output.pending.length +
      (allCopied (w.sharesFrom unread names)).length ≤ most) :
    (copyEach names well sink).Reports s ((w.sharesFrom unread names).map Share.report)
      (DeliversAll (w.sharesFrom unread names) well snk sink) := by
  induction names generalizing unread s x snk out sink well with
  | nil =>
    refine Act.completes_pure ⟨(Bool.and_true _).symm, .refl prepared.pours.wellFormed, x, [], ?_,
      (List.append_nil _).symm, prepared.stocked⟩
    rw [Handle.pour_nil]
    exact prepared.laid.output
  | cons name rest ih =>
    obtain ⟨share, unread', first, delivers⟩ := copyOne_delivers name rest prepared
    rw [first] at fits ⊢
    rw [allCopied_cons, List.length_append] at fits
    rw [List.map_cons, copyEach_cons]
    refine (delivers (by omega)).bind
      fun r s₁ tells₁ ⟨is, rewritten, x₁, sent, laid₁, order, after₁⟩ => ?_
    have fits₁ : (out ++ sent).length + r.2.output.pending.length +
        (allCopied (w.sharesFrom unread' rest)).length ≤ most := by
      have lengths := congrArg List.length order
      simp only [List.length_append] at lengths ⊢
      omega
    -- Whatever the share, it is reported and the others follow.
    have later (well' : Bool) (whether : (well && share.isOk) = well') : (do
        Act.log (Share.report ⟨name, share⟩).1 (Share.report ⟨name, share⟩).2
        copyEach rest well' r.2 : Act Kernel _).Reports s₁
          ([Share.report ⟨name, share⟩] ++ (w.sharesFrom unread' rest).map Share.report)
          (DeliversAll (⟨name, share⟩ :: w.sharesFrom unread' rest) well snk sink) := by
      subst whether
      refine (report_reports after₁ _).bind fun _ s₂ tells₂ after₂ => ?_
      exact (ih _ (prepared.next (tells₁.trans tells₂) after₂ laid₁ rewritten) fits₁).mono
        fun _ _ _ all => all.cons rewritten order
    rw [is]
    cases share with
    | ok bytes => exact later well (Bool.and_true well)
    | error e => exact later false (Bool.and_false well)

/-! ## The whole command -/

theorem pathCount_le_length (names : List String) : pathCount names ≤ names.length :=
  List.countP_le_length

/-- **The end of the command**: standard output is given back with its flags. -/
theorem giveBack_completes {flags : Flags} {well : Bool} (stocked : s.Stocked x outputOwners)
    (has : x.Has standardOutput snk) (spent : sink.Spent standardOutput s.environment) :
    (do
      let _ ← sink.detach
      restoreFlags standardOutput (some flags)
      return well : Act Kernel Bool).Completes s fun a s' =>
        a = well ∧ s'.Stocked (x.put standardOutput (snk.withFlags flags)) fun _ => {} := by
  refine (Channel.detach_completes stocked rfl spent).bind fun _ s₁ _ after => ?_
  refine (after.restoreFlags has flags).bind fun _ s₂ _ after => ?_
  exact Act.completes_pure ⟨rfl, after⟩

/-- **The command, once logging is in use**, copies every share and reports it. -/
theorem run_reports {arguments : List String} (pos : 0 < cap) (small : cap ≤ maxBlock)
    (stocked : s.Stocked x fun _ => {}) (laid : w.Laid true (sources arguments).length snk x)
    (environment : s.environment = w.environment) (takes : snk.Takes out most)
    (length : s.bufferLength = cap)
    (fits : out.length + (allCopied (w.shares arguments)).length ≤ most) :
    (run arguments).Reports s ((w.shares arguments).map Share.report) fun well s' =>
      well = allWell (w.shares arguments) ∧
      (Workspace.printed s'.host).toBytes = out ++ allCopied (w.shares arguments) := by
  rw [Workspace.shares_eq] at fits ⊢
  rw [← List.append_nil (List.map ..)]
  unfold run
  refine Act.completes_begin.bind fun _ s₀ _ same => ?_
  subst same
  refine (stocked.saveFlags laid.output).bind fun saved s₁ tells₁ ⟨is, after⟩ => ?_
  subst is
  have length₁ := tells₁.bufferLength.trans length
  refine (Channel.adopt_completes after laid.output rfl (Nat.le_trans (Nat.le_of_eq length₁) small)
    (by decide)).bind fun r s₂ tells₂ ⟨c, is, fresh, after⟩ => ?_
  subst is
  rw [length₁] at fresh
  have tells := tells₁.trans tells₂
  have pours : c.Pours standardOutput cap snk.nonblocking.material := fresh.pours (by decide)
  have takes : snk.nonblocking.Takes out most := takes.withFlags takes.here
  have laid₂ : w.Laid true _ snk.nonblocking _ := laid.putOutput laid.there
  have prepared : Prepared w true (pathCount (sources arguments)) _ snk.nonblocking c cap out most
      s₂ :=
    { stocked := after
      laid := laid₂.mono (pathCount_le_length (sources arguments))
      environment := tells.environment.trans environment
      takes := takes
      pours := pours
      pos := pos
      small := small
      length := tells.bufferLength.trans length }
  have pending : c.output.pending = [] := fresh.pending
  refine (copyEach_reports (sources arguments) true prepared
    (by rwa [pending, List.length_nil, Nat.add_zero])).bind
    fun r s₃ tells₃ ⟨is, rewritten, x₃, sent, has, order, after⟩ => ?_
  obtain ⟨well, sink⟩ := r
  dsimp only at is rewritten order
  rw [pending, List.nil_append] at order
  refine (Channel.flush_completes after has (takes.pour sent)
    ((pours.rewritten rewritten).congr (Handle.isStored_pour ..)) ?_).bind
    fun r s₄ tells₄ ⟨flushed, done, empty, after⟩ => ?_
  · rw [List.length_append, Nat.add_assoc, ← List.length_append, order]
    exact fits
  obtain ⟨result, sink'⟩ := r
  dsimp only at flushed done empty
  subst flushed
  rw [Handle.pour_pour, order] at after
  have spent := fresh.spent_of_rewritten (rewritten.trans done) empty
  rw [← (tells₂.trans (tells₃.trans tells₄)).environment] at spent
  refine (giveBack_completes after (Stock.has_put ..) spent).mono fun a s₅ _ ⟨same, after⟩ => ?_
  refine ⟨same.trans is, Workspace.printed_of_takes after.inventory (Stock.has_put ..) ?_
    ((takes.pour _).withFlags takes.here)⟩
  exact (Handle.node_pour ..).trans laid.there

end Concatenate

namespace Simulation.Workspace

variable {w : Workspace} {arguments : List String} {bufferLength : Nat}

/-- The settings of the log. -/
def settings (w : Workspace) : Log.Settings := .ofEnvironment w.environment 0

/-- **The command runs** to its end, copies every share and reports it. -/
theorem run_start (obliging : w.Obliging (allCopied (w.shares arguments)).length)
    (pos : 0 < bufferLength) (small : bufferLength ≤ maxBlock) :
    ∃ enough s', (∀ budget ≥ enough, ∃ left,
        (run arguments).runOn (w.start arguments budget bufferLength) =
          (.ok (allWell (w.shares arguments)), s'.allowing left)) ∧
      (printed s'.host).toBytes = w.output.before ++ allCopied (w.shares arguments) ∧
      { w.start arguments 0 bufferLength with journal := ⟨some w.settings, []⟩ }.Tells
        ((w.shares arguments).map Share.report) s' := by
  obtain ⟨enough, well, s', tells, ⟨rfl, wrote⟩, ran⟩ := run_reports
    (s := { w.start arguments 0 bufferLength with journal := ⟨some w.settings, []⟩ }) pos small
    ⟨obliging.inventory (sources arguments).length, rfl⟩ (w.laid_stock ..) rfl obliging.takes rfl
    (Nat.le_refl _) rfl
  refine ⟨enough, s', fun budget more => ?_, wrote, tells⟩
  obtain ⟨left, _, ran⟩ := ran budget more
  -- The first use of logging reads the settings; beginning again changes nothing.
  have begun : (run arguments).runOn (w.start arguments budget bufferLength) = (run arguments).runOn
      { w.start arguments budget bufferLength with journal := ⟨some w.settings, []⟩ } := rfl
  exact ⟨left, begun.trans ran⟩

/-- **The command in a workspace** leaves the bytes of all shares on standard output. -/
theorem execute_output (obliging : w.Obliging (allCopied (w.shares arguments)).length) :
    ∃ enough, ∀ budget ≥ enough,
      (w.execute arguments budget).output.toBytes =
        w.output.before ++ allCopied (w.shares arguments) ∧
      (w.execute arguments budget).exitStatus = exitStatus (allWell (w.shares arguments)) := by
  obtain ⟨enough, s', ran, wrote, _⟩ := run_start obliging (by decide : 0 < 4096) (by decide)
  refine ⟨enough, fun budget more => ?_⟩
  obtain ⟨left, ran⟩ := ran budget more
  unfold execute
  rw [ran]
  exact ⟨wrote, rfl⟩

/-- **The command copies everything, in order.**  Let paths lead to files, directories or the empty
device, or nowhere.  Whatever delays, interrupts or cuts short its calls and whatever they have to
wait for, if standard input comes to its end and standard output takes what there is to copy, then
the command comes to its end, for buffers of any length and as soon as it may make enough exchanges:

* standard output has the bytes of all shares, one after another, behind what it had;
* the command fails exactly if a share did;
* each share is reported, as far as the level of the log shows it, in order, and a log that shows no
  more than information and no beginnings and endings has no other lines. -/
theorem copies_everything (w : Workspace) (arguments : List String) (bufferLength : Nat)
    (obliging : w.Obliging (allCopied (w.shares arguments)).length) (pos : 0 < bufferLength)
    (small : bufferLength ≤ maxBlock) :
    ∃ (enough : Nat) (well : Bool) (s' : System Kernel) (lines : List Log.Piece),
      (∀ budget ≥ enough, ∃ left, (run arguments).runOn (w.start arguments budget bufferLength) =
        (.ok well, s'.allowing left)) ∧
      (printed s'.host).toBytes = w.output.before ++ allCopied (w.shares arguments) ∧
      (exitStatus well = 1 ↔ ∃ share ∈ w.shares arguments, ∃ e, share.bytes = .error e) ∧
      w.settings.Shows ((w.shares arguments).map Share.report) lines ∧
      lines.Sublist s'.journal.pieces.reverse ∧
      (w.settings.level.rank ≤ Log.Level.info.rank →
        w.environment.flag "GVF_LOG_LIFECYCLE" false = false →
        s'.journal.pieces.reverse = lines) := by
  obtain ⟨enough, s', ran, wrote, tells⟩ := run_start obliging pos small
  obtain ⟨new, lines, grows, stand, shows, only⟩ := tells.pieces
  have grows : s'.journal.pieces.reverse = new := grows
  refine ⟨enough, _, s', lines, ran, wrote, ?_, shows _ rfl, grows ▸ stand, fun level quiet => ?_⟩
  · rw [← allWell_eq_false_iff]
    cases allWell (w.shares arguments) <;> decide
  · rw [grows, only ⟨w.settings, rfl, level, quiet⟩]

/-- A workspace in which everything comes in pieces.  Standard input is a pipe that gets two of its
three bytes later, and standard output a pipe that has room for four of seven; calls are delayed,
interrupted, told to wait and cut short. -/
def shelf : Workspace where
  entries := [("note", .ok (.file [104, 105])), ("blank", .ok (.file [])), ("void", .ok .null),
    ("box", .ok .directory), ("vault", .error ⟨13⟩)]
  input := .stream { unread := [1] }
  output := .stream { room? := some 4 }
  scripts := [("note", [(.read, { errno? := some .interrupted }), (.read, { max? := some 1 })]),
    (inputName, [(.read, { delay := 3, errno? := some .wouldBlock })]),
    (outputName, [(.write, { max? := some 1 }), (.write, { errno? := some .wouldBlock }),
      (.poll, { errno? := some .interrupted })])]
  events := [(5, { node := inputName, push := [2, 3] }),
    (7, { node := outputName, room? := some 1 }), (9, { node := inputName, hangsUp := true }),
    (20, { node := outputName, room? := some 2 })]

theorem script_shelf (name : String) : Mild (shelf.script name) := by
  unfold script shelf
  dsimp only
  rw [Ownership.lookup_cons_eq, Ownership.lookup_cons_eq, Ownership.lookup_cons_eq]
  split
  · decide
  split
  · decide
  split
  · decide
  · exact nofun

/-- A copy of the shelf through buffers of two bytes, with standard input named twice and failures
between the files. -/
theorem copies_everything_shelf : ∃ (enough : Nat) (well : Bool) (s' : System Kernel),
    (∀ budget ≥ enough, ∃ left,
      (run ["note", "-", "lost", "box", "vault", "-", "blank", "void", "note"]).runOn
        (shelf.start ["note", "-", "lost", "box", "vault", "-", "blank", "void", "note"] budget 2) =
          (.ok well, s'.allowing left)) ∧
    (printed s'.host).toBytes = [104, 105, 1, 2, 3, 104, 105] ∧ exitStatus well = 1 ∧
    s'.journal.pieces.reverse = [.line "[INFO]  gvfile: note: 2 bytes",
      .line "[INFO]  gvfile: -: 3 bytes", .line "[ERROR] gvfile: lost: OS error: errno 2",
      .line "[ERROR] gvfile: box: OS error: errno 21",
      .line "[ERROR] gvfile: vault: OS error: errno 13", .line "[INFO]  gvfile: -: 0 bytes",
      .line "[INFO]  gvfile: blank: 0 bytes", .line "[INFO]  gvfile: void: 0 bytes",
      .line "[INFO]  gvfile: note: 2 bytes"] := by
  have ends : shelf.input.ComesToEnd (shelf.befalling inputName) :=
    ⟨rfl, by decide +kernel, nofun, nofun, rfl⟩
  have takes : shelf.output.TakesAll (shelf.befalling outputName) (allCopied (shelf.shares
      ["note", "-", "lost", "box", "vault", "-", "blank", "void", "note"])).length :=
    ⟨rfl, by decide +kernel, .inr (by decide +kernel)⟩
  obtain ⟨enough, well, s', lines, ran, wrote, status, shows, _, only⟩ := copies_everything shelf
    ["note", "-", "lost", "box", "vault", "-", "blank", "void", "note"] 2
    ⟨stored_of_all (by decide), script_shelf, by decide +kernel, ends, takes⟩
    (by decide) (by decide)
  have failed : allWell (shelf.shares
      ["note", "-", "lost", "box", "vault", "-", "blank", "void", "note"]) = false := by
    decide +kernel
  have lines := (only (by decide +kernel) (by decide +kernel)).trans
    (shows.eq_of_untimed (by decide +kernel))
  exact ⟨enough, well, s', ran, wrote.trans (by decide +kernel),
    status.2 ((allWell_eq_false_iff _).1 failed), lines.trans (by decide +kernel)⟩

end Simulation.Workspace

end BufferedChannels
