import BufferedChannels.Proofs.Copying
import BufferedChannels.Simulation.Workspace

/-!
# Proofs/Shares — what there is to copy, and where it can be copied

Each argument has its `Share`: the bytes that are to be copied for it, or why there are none.
Standard input has all its bytes at the first `-` and none at a later one.  A workspace is
`Obliging` to so many bytes if standard input comes to its end and standard output takes them, now
or later; then the kernel that the command starts on has the shares **in stock**
(`Obliging.inventory`, `laid_stock`).
-/

namespace BufferedChannels

open Simulation Simulation.Kernel

/-! ## What there is to copy -/

namespace Concatenate

/-- **What an argument comes to**: its bytes, or why it has none. -/
structure Share where
  name : String
  bytes : Except ChannelError Bytes

/-- **What is reported** of a share: the count of its bytes, or the failure. -/
def Share.report (share : Share) : Log.Level × String :=
  match share.bytes with
  | .ok bytes => (.info, s!"{share.name}: {bytes.length} bytes")
  | .error e => (.error, s!"{share.name}: {e.message}")

/-- **The bytes of all shares**, in order. -/
def allCopied (shares : List Share) : Bytes := shares.flatMap fun share => copied share.bytes

/-- Whether no share failed. -/
def allWell (shares : List Share) : Bool := shares.all fun share => share.bytes.isOk

theorem allWell_eq_false_iff (shares : List Share) :
    allWell shares = false ↔ ∃ share ∈ shares, ∃ e, share.bytes = .error e := by
  rw [allWell, List.all_eq_false]
  refine exists_congr fun share => and_congr_right fun _ => ?_
  cases share.bytes with
  | ok bytes => exact ⟨fun no => absurd rfl no, nofun⟩
  | error e => exact ⟨fun _ => ⟨e, rfl⟩, fun _ => Bool.false_ne_true⟩

theorem allCopied_cons (name : String) (share : Except ChannelError Bytes) (shares : List Share) :
    allCopied (⟨name, share⟩ :: shares) = copied share ++ allCopied shares := List.flatMap_cons ..

end Concatenate

namespace Simulation

/-- Whether a path leads to a file, a directory or the empty device, or nowhere. -/
def leadsToStored : Except Errno Entry → Bool
  | .ok (.file _) | .ok .directory | .ok .null | .error _ => true
  | _ => false

namespace Workspace

open Concatenate

variable (w : Workspace)

/-- **A workspace of files and directories**, and the empty device: its paths lead nowhere else. -/
def Stored : Prop :=
  ∀ path found, w.entries.lookup path = some found → leadsToStored found = true

theorem stored_of_all {w : Workspace}
    (all : (w.entries.all fun entry => leadsToStored entry.2) = true) : w.Stored := by
  unfold Stored
  revert all
  induction w.entries with
  | nil => exact fun _ _ _ => nofun
  | cons entry rest ih =>
    intro all path found leads
    obtain ⟨first, others⟩ := Bool.and_eq_true_iff.1 (List.all_cons .. ▸ all)
    obtain ⟨key, value⟩ := entry
    rw [Ownership.lookup_cons_eq] at leads
    split at leads
    · exact Option.some.inj leads ▸ first
    · exact ih others path found leads

/-- What there is where a path leads: the whole of a file. -/
def foundShare : Option (Except Errno Entry) → Except ChannelError Bytes
  | some (.ok (.file bytes)) => .ok bytes
  | some (.ok .null) => .ok []
  | some (.ok .directory) => .error (.ofErrno .isDirectory)
  | some (.error e) => .error (.ofErrno e.recognized)
  | _ => .error (.ofErrno .noEntry)

/-- **What a path has**, if it can be opened at all. -/
def pathShare (path : String) : Except ChannelError Bytes :=
  match (Config.ofEnvironment w.environment).validate with
  | .error e => .error e.toChannelError
  | .ok _ =>
    if path.toList.contains '\x00' then .error (.ofErrno .invalid)
    else foundShare (w.entries.lookup path)

/-- What is to befall a node. -/
def befalling (name : String) : List Stimulus := about name w.events

/-- **What standard input has**, unread or after it was read to its end.  A stream has the bytes
that wait there and those that are to come. -/
def inputShare (unread : Bool) : Except ChannelError Bytes :=
  match w.input with
  | .file bytes => .ok (if unread then bytes else [])
  | .writeOnly _ => .error (.ofErrno .badDescriptor)
  | .directory => .error (.ofErrno .isDirectory)
  | .stream stream => .ok (if unread then
      stream.unread ++ (w.befalling inputName).flatMap Stimulus.push else [])

/-- The shares of names, with standard input unread or read to its end. -/
def sharesFrom : Bool → List String → List Share
  | _, [] => []
  | unread, name :: rest =>
    if name = "-" then ⟨name, w.inputShare unread⟩ :: sharesFrom false rest
    else ⟨name, w.pathShare name⟩ :: sharesFrom unread rest

/-- **The shares of a command line.**  Without arguments it is a single `-`. -/
def shares : List String → List Share
  | [] => w.sharesFrom true ["-"]
  | arguments => w.sharesFrom true arguments

theorem shares_eq (arguments : List String) :
    w.shares arguments = w.sharesFrom true (sources arguments) := by
  cases arguments <;> rfl

end Workspace

/-! ## Surroundings in which a copy can be made -/

/-- **Standard input comes to its end**: a stream does not break, and it hangs up. -/
def InputKind.ComesToEnd (coming : List Stimulus) : InputKind → Prop
  | .stream flow =>
    flow.broken = false ∧ (∀ s ∈ coming, s.breaks = false) ∧ Ends flow.hungUp coming
  | _ => ∀ s ∈ coming, s.push = []

/-- What standard output has before the command writes to it. -/
def OutputKind.before : OutputKind → Bytes
  | .stream flow => flow.written.toBytes
  | _ => []

/-- **Writing to standard output never fails**, for so many bytes: a file is written by nobody else,
and a stream does not break and has room for them, now or later. -/
def OutputKind.TakesAll (coming : List Stimulus) (total : Nat) : OutputKind → Prop
  | .file => total ≤ Descriptor.maxOffset ∧ ∀ s ∈ coming, s.push = []
  | .full | .readOnly => False
  | .stream flow =>
    flow.broken = false ∧ (∀ s ∈ coming, s.breaks = false) ∧
      (flow.room? = none ∧ (∀ s ∈ coming, s.room? = none) ∨
        total ≤ flow.room?.getD 0 + (coming.map fun s => s.room?.getD 0).sum)

/-- **Surroundings in which so many bytes can be copied.**  Calls may be delayed, interrupted, told
to wait or cut short; bytes may come to standard input, and room be made in standard output, at any
time. -/
structure Workspace.Obliging (w : Workspace) (total : Nat) : Prop where
  stored : w.Stored
  scripts : ∀ name, Mild (w.script name)
  events : ∀ event ∈ w.events,
    event.2.node = Workspace.inputName ∨ event.2.node = Workspace.outputName
  input : w.input.ComesToEnd (w.befalling Workspace.inputName)
  output : w.output.TakesAll (w.befalling Workspace.outputName) total

end Simulation

variable {x : Stock} {src snk : Handle} {out : Bytes} {most : Nat}

/-! ## Workspaces that are being copied -/

namespace Simulation.Workspace

variable {w : Workspace} {unread : Bool} {left : Nat} {path : String}

/-- What is to be found at a path that leads somewhere, for so many openings. -/
def found (openings : Nat) : Except Errno Entry → Prospect
  | .ok (.file bytes) => .carried (.file bytes)
  | .ok .directory => .carried .directory
  | .ok .null => .carried (.inflow [])
  | .ok _ => .nowhere
  | .error e => .refused e openings

/-- **A workspace with a part of it copied**: standard input is unread or was read to its end, a
descriptor stands on standard output, and each path leads where it did, if need be so many times. -/
structure Laid (w : Workspace) (unread : Bool) (left : Nat) (snk : Handle) (x : Stock) : Prop where
  input : ∃ src, x.Has standardInput src ∧ src.file.node = inputName ∧
    src.Gives (w.inputShare unread)
  output : x.Has standardOutput snk
  there : snk.file.node = outputName
  paths : ∀ path : String, path.toList.contains '\x00' = false → ∃ openings ≥ left,
    x.prospects path = ((w.entries.lookup path).map (found openings)).getD .nowhere
  free : x.files 3 = none

theorem apart_of_named (named : path.toList.contains '\x00' = false) :
    path ≠ inputName ∧ path ≠ outputName :=
  ⟨fun same => absurd (same ▸ named) (by decide), fun same => absurd (same ▸ named) (by decide)⟩

theorem inputName_ne_outputName : inputName ≠ outputName := by decide

namespace Laid

/-- Fewer openings are to come. -/
theorem mono {fewer : Nat} (laid : w.Laid unread left snk x) (le : fewer ≤ left) :
    w.Laid unread fewer snk x where
  input := laid.input
  output := laid.output
  there := laid.there
  paths := by
    intro path named
    obtain ⟨openings, enough, leads⟩ := laid.paths path named
    exact ⟨openings, Nat.le_trans le enough, leads⟩
  free := laid.free

/-- **Standard input** changes its place or its flags. -/
theorem putInput (laid : w.Laid unread left snk x) {unread' : Bool}
    (gives : src.Gives (w.inputShare unread')) (here : src.file.node = inputName) :
    w.Laid unread' left snk (x.put standardInput src) where
  input := ⟨src, Stock.has_put .., here, gives⟩
  output := laid.output.put_other (by decide)
    (by rw [here, laid.there]; exact inputName_ne_outputName.symm)
  there := laid.there
  paths := by
    intro path named
    obtain ⟨openings, enough, leads⟩ := laid.paths path named
    refine ⟨openings, enough, ?_⟩
    rw [Stock.prospects_put, here, if_neg (apart_of_named named).1, leads]
  free := by
    rw [Stock.files_put, if_neg (by decide), laid.free]

/-- **Standard output** takes bytes or changes its flags. -/
theorem putOutput (laid : w.Laid unread left snk x) {snk' : Handle}
    (there : snk'.file.node = outputName) :
    w.Laid unread left snk' (x.put standardOutput snk') where
  input := by
    obtain ⟨src, has, here, gives⟩ := laid.input
    exact ⟨src, has.put_other (by decide) (by rw [here, there]; exact inputName_ne_outputName),
      here, gives⟩
  output := Stock.has_put ..
  there := there
  paths := by
    intro path named
    obtain ⟨openings, enough, leads⟩ := laid.paths path named
    refine ⟨openings, enough, ?_⟩
    rw [Stock.prospects_put, there, if_neg (apart_of_named named).2, leads]
  free := by
    rw [Stock.files_put, if_neg (by decide), laid.free]

/-- **A path was refused** once. -/
theorem refuse {e : Errno} {openings : Nat} (laid : w.Laid unread (left + 1) snk x)
    (leads : w.entries.lookup path = some (.error e)) (named : path.toList.contains '\x00' = false)
    (enough : left ≤ openings) : w.Laid unread left snk (x.expect path (.refused e openings)) where
  input := by
    obtain ⟨src, has, here, gives⟩ := laid.input
    refine ⟨src, ⟨has.opened, ?_⟩, here, gives⟩
    rw [Stock.prospects_expect, here, if_neg (apart_of_named named).1.symm, ← here, has.carried]
  output := by
    refine ⟨laid.output.opened, ?_⟩
    rw [Stock.prospects_expect, laid.there, if_neg (apart_of_named named).2.symm, ← laid.there,
      laid.output.carried]
  there := laid.there
  paths := by
    intro other named'
    rw [Stock.prospects_expect]
    split
    · next here =>
      rw [here, leads]
      exact ⟨openings, enough, rfl⟩
    · obtain ⟨openings', enough', leads'⟩ := laid.paths other named'
      exact ⟨openings', Nat.le_of_succ_le enough', leads'⟩
  free := laid.free

end Laid

/-! ## The kernel that the command starts on -/

/-- What standard input is made of, with what is to come to it. -/
def inputMaterial (w : Workspace) : Material :=
  match w.input with
  | .file bytes | .writeOnly bytes => .file bytes
  | .directory => .directory
  | .stream stream => .inflow (stream.unread ++ (w.befalling inputName).flatMap Stimulus.push)

/-- What standard output is made of, if it takes so many bytes. -/
def outputMaterial (w : Workspace) (total : Nat) : Material :=
  match w.output with
  | .stream stream => .outflow stream.written.toBytes (stream.written.toBytes.length + total)
  | _ => .file []

/-- **What there is to be had** when the command starts. -/
def stock (w : Workspace) (openings total : Nat) : Stock where
  prospects name :=
    if name = inputName then .carried w.inputMaterial
    else if name = outputName then .carried (w.outputMaterial total)
    else ((w.entries.lookup name).map (found openings)).getD .nowhere
  files fd := (w.kernel openings).descriptors.lookup fd

theorem prospects_stock (w : Workspace) (openings total : Nat) (name : String) :
    (w.stock openings total).prospects name =
      if name = inputName then .carried w.inputMaterial
      else if name = outputName then .carried (w.outputMaterial total)
      else ((w.entries.lookup name).map (found openings)).getD .nowhere := rfl

/-- Standard output, as the command finds it. -/
def outputHandle (w : Workspace) (total : Nat) : Handle :=
  ⟨{ node := outputName, flags := { access := w.output.access } }, w.outputMaterial total⟩

theorem lookup_nodes (w : Workspace) (openings : Nat) (path : String) :
    (w.entries.map fun entry => (entry.1, w.entryNode openings entry.1 entry.2)).lookup path =
      (w.entries.lookup path).map (w.entryNode openings path) := by
  induction w.entries with
  | nil => rfl
  | cons entry rest ih =>
    obtain ⟨key, value⟩ := entry
    rw [List.map_cons, Ownership.lookup_cons_eq, Ownership.lookup_cons_eq, ih]
    split
    · next here => rw [here]; rfl
    · rfl

namespace Obliging

variable {total : Nat}

/-- Nothing befalls what a path leads to. -/
theorem upcoming_path (obliging : w.Obliging total) (openings : Nat) (notInput : path ≠ inputName)
    (notOutput : path ≠ outputName) : (w.kernel openings).upcoming path = [] := by
  refine List.map_eq_nil_iff.2 (List.filter_eq_nil_iff.2 fun event mem here => ?_)
  obtain is | is := obliging.events event mem
  · exact notInput ((of_decide_eq_true here).symm.trans is)
  · exact notOutput ((of_decide_eq_true here).symm.trans is)

theorem input_fits (obliging : w.Obliging total) :
    w.inputMaterial.Fits w.input.body (w.befalling inputName) := by
  have ends := obliging.input
  unfold inputMaterial
  generalize w.befalling inputName = coming at *
  cases is : w.input with
  | file bytes =>
    rw [is] at ends
    exact .file (Contents.toBytes_ofBytes bytes) ends
  | writeOnly bytes =>
    rw [is] at ends
    exact .file (Contents.toBytes_ofBytes bytes) ends
  | directory => exact .directory
  | stream stream =>
    rw [is] at ends
    obtain ⟨whole, unbroken, ends⟩ := ends
    exact .inflow ⟨whole, unbroken, rfl, ends⟩

theorem output_fits (obliging : w.Obliging total) :
    (w.outputMaterial total).Fits w.output.body (w.befalling outputName) := by
  have takes := obliging.output
  unfold outputMaterial
  generalize w.befalling outputName = coming at *
  cases is : w.output with
  | file =>
    rw [is] at takes
    exact .file rfl takes.2
  | full => exact (is ▸ takes).elim
  | readOnly => exact (is ▸ takes).elim
  | stream stream =>
    rw [is] at takes
    obtain ⟨whole, unbroken, room⟩ := takes
    refine .outflow ⟨whole, unbroken, rfl, room.imp_right fun enough => ?_⟩
    omega

theorem script_output (obliging : w.Obliging total) (sources : Nat) :
    w.outputScript sources = w.script outputName := by
  have takes := obliging.output
  unfold outputScript
  cases is : w.output with
  | full => exact (is ▸ takes).elim
  | _ => rfl

/-- **The kernel that the command starts on** has the workspace in stock. -/
theorem inventory (obliging : w.Obliging total) (openings : Nat) :
    (w.kernel openings).Inventory (w.stock openings total) where
  allocates := rfl
  largest := rfl
  files _ := rfl
  names := by
    intro name
    rw [prospects_stock]
    by_cases isInput : name = inputName
    · rw [if_pos isInput, isInput]
      exact ⟨_, rfl, obliging.scripts _, obliging.input_fits⟩
    by_cases isOutput : name = outputName
    · rw [if_neg isInput, if_pos isOutput, isOutput]
      exact ⟨⟨_, w.outputScript openings⟩, rfl, obliging.script_output openings ▸
        obliging.scripts _, obliging.output_fits⟩
    rw [if_neg isInput, if_neg isOutput]
    have there : (w.kernel openings).node? name =
        (w.entries.lookup name).map (w.entryNode openings name) := by
      rw [node?, kernel, Ownership.lookup_cons_eq, if_neg isInput, Ownership.lookup_cons_eq,
        if_neg isOutput, lookup_nodes]
    have calm := obliging.upcoming_path openings isInput isOutput
    have carries {m : Material} {body : Body} (fits : m.Fits body [])
        (is : (w.kernel openings).node? name = some ⟨body, w.script name⟩) :
        (w.kernel openings).Carries name m :=
      ⟨_, is, obliging.scripts name, calm ▸ fits⟩
    cases leads : w.entries.lookup name with
    | none =>
      rw [leads] at there
      exact there
    | some found =>
      rw [leads] at there
      rcases found with e | entry
      · exact ⟨_, there⟩
      have stored := obliging.stored _ _ leads
      cases entry with
      | file bytes =>
        exact carries (.file (Contents.toBytes_ofBytes bytes) (List.forall_mem_nil _)) there
      | directory => exact carries .directory there
      | null =>
        refine carries ?_ there
        exact .inflow ⟨rfl, List.forall_mem_nil _, rfl, rfl⟩
      | _ => cases stored

/-- **Standard output takes** so many bytes behind what it has. -/
theorem takes (obliging : w.Obliging total) :
    (w.outputHandle total).Takes w.output.before (w.output.before.length + total) := by
  have takes := obliging.output
  unfold outputHandle outputMaterial
  cases is : w.output with
  | file =>
    rw [is] at takes
    exact ⟨nofun, rfl, .inl ⟨rfl, rfl, (Nat.zero_add total).trans_le takes.1⟩⟩
  | full => exact (is ▸ takes).elim
  | readOnly => exact (is ▸ takes).elim
  | stream stream => exact ⟨nofun, rfl, .inr rfl⟩

end Obliging

/-- **Everything is laid** when the command starts. -/
theorem laid_stock (w : Workspace) (openings total : Nat) :
    w.Laid true openings (w.outputHandle total) (w.stock openings total) where
  input := by
    refine ⟨⟨⟨inputName, { access := w.input.access }, 0⟩, w.inputMaterial⟩,
      ⟨rfl, by rw [prospects_stock, if_pos rfl]⟩, rfl, ?_⟩
    unfold inputShare inputMaterial
    cases w.input with
    | file bytes => exact .rest nofun
    | writeOnly bytes => exact .closed rfl
    | directory => exact .directory nofun
    | stream stream => exact .flow nofun
  output := by
    refine ⟨rfl, ?_⟩
    rw [prospects_stock]
    exact (if_neg inputName_ne_outputName.symm).trans (if_pos rfl)
  there := rfl
  paths path named := by
    obtain ⟨notInput, notOutput⟩ := apart_of_named named
    exact ⟨openings, Nat.le_refl _, by rw [prospects_stock, if_neg notInput, if_neg notOutput]⟩
  free := rfl

/-- **What is printed** is what standard output took. -/
theorem printed_of_takes {k : Kernel} (h : k.Inventory x) (has : x.Has standardOutput snk)
    (there : snk.file.node = outputName) (takes : snk.Takes out most) :
    (printed k).toBytes = out := by
  obtain ⟨⟨body, script⟩, found, _, fits⟩ := h.carries has
  rw [there] at found
  unfold printed
  rw [found]
  obtain ⟨is, _⟩ | is := takes.kept
  · rw [is] at fits
    cases fits with
    | file stored => exact stored
  · rw [is] at fits
    cases fits with
    | outflow flows => exact flows.written

end Simulation.Workspace

end BufferedChannels
