import BufferedChannels.Concatenate
import BufferedChannels.Session.Run
import BufferedChannels.Simulation.Kernel
import BufferedChannels.Simulation.Lookup

/-!
# Simulation/Workspace — the surroundings of a command

A workspace is what a command finds when it starts: what the paths lead to that it may open, its
standard descriptors, its environment, and what befalls its calls and its streams while it runs.
`execute` runs the copying command there and tells what it printed and how it exited.
-/

namespace BufferedChannels.Simulation

/-- What standard input is. -/
inductive InputKind where
  | file (bytes : Bytes)
  /-- A file that is open for writing only. -/
  | writeOnly (bytes : Bytes)
  | directory
  /-- A pipe, a terminal or a socket. -/
  | stream (stream : Stream)

/-- What standard output is. -/
inductive OutputKind where
  | file
  /-- A file without room for a single byte. -/
  | full
  /-- A file that is open for reading only. -/
  | readOnly
  /-- A pipe, a terminal or a socket. -/
  | stream (stream : Stream)

/-- What standard input reads from. -/
def InputKind.body : InputKind → Body
  | .file bytes | .writeOnly bytes => .file (.ofBytes bytes)
  | .directory => .directory {}
  | .stream s => .stream s

/-- How standard input is open. -/
def InputKind.access : InputKind → Access
  | .writeOnly _ => .writeOnly
  | _ => .readOnly

/-- What standard output writes to. -/
def OutputKind.body : OutputKind → Body
  | .stream s => .stream s
  | _ => .file {}

/-- How standard output is open. -/
def OutputKind.access : OutputKind → Access
  | .readOnly => .readOnly
  | _ => .writeOnly

/-- **A workspace.** -/
structure Workspace where
  /-- What paths lead to, or why they lead nowhere. -/
  entries : List (String × Except Errno Entry) := []
  input : InputKind := .file []
  output : OutputKind := .file
  environment : Environment := {}
  /-- Adjustments of the calls on what paths lead to, and on the standard descriptors. -/
  scripts : List (String × List (CallKind × Adjustment)) := []
  /-- What befalls standard input and output, in the order of the times in nanoseconds. -/
  events : List (Nat × Stimulus) := []

/-! ## Running the command -/

namespace Workspace

/-- The node of standard input; no path can name it. -/
def inputName : String := "\x00input"
/-- The node of standard output; no path can name it. -/
def outputName : String := "\x00output"

/-- The adjustments of the calls on a node. -/
def script (w : Workspace) (name : String) : List (CallKind × Adjustment) :=
  (w.scripts.lookup name).getD []

/-- What an entry is, opened anew. -/
def entryBody (w : Workspace) : Entry → Body
  | .file bytes => .file (.ofBytes bytes)
  | .directory => .directory {}
  | .null => .stream { kind := .character, hungUp := true }
  | .standardInput => w.input.body
  | .standardOutput => w.output.body

/-- The node under a path, for so many openings; one that leads nowhere fails them all. -/
def entryNode (w : Workspace) (openings : Nat) (path : String) : Except Errno Entry → Node
  | .ok entry => { body := w.entryBody entry, script := w.script path }
  | .error e =>
    { body := .file {}, script := List.replicate openings (.openPath, { errno? := some e }) }

/-- The adjustments of the calls on standard output, for so many sources.  Where there is no room
every write fails, at most one for each source and one at the end. -/
def outputScript (w : Workspace) (sources : Nat) : List (CallKind × Adjustment) :=
  match w.output with
  | .full => List.replicate (sources + 1) (.write, { errno? := some .noSpace })
  | _ => w.script outputName

/-- **The kernel that the command starts on.** -/
def kernel (w : Workspace) (sources : Nat) : Kernel where
  nodes :=
    (inputName, { body := w.input.body, script := w.script inputName })
      :: (outputName, { body := w.output.body, script := w.outputScript sources })
      :: w.entries.map fun entry => (entry.1, w.entryNode sources entry.1 entry.2)
  descriptors :=
    [(standardInput, { node := inputName, flags := { access := w.input.access } }),
      (standardOutput, { node := outputName, flags := { access := w.output.access } })]
  events := w.events
  largestFile := 0x7fffffffffffffff

/-- **What a command leaves behind.** -/
structure Result where
  exitStatus : UInt8
  output : Contents
  /-- The lines on standard error. -/
  lines : List String

/-- The status of a process that was aborted. -/
def abortStatus : UInt8 := 134

/-- What a kernel has on standard output. -/
def printed (k : Kernel) : Contents :=
  match k.node? outputName with
  | some { body := .file contents, .. } => contents
  | some { body := .stream stream, .. } => stream.written
  | _ => {}

/-- **What the command starts on**, with so many exchanges to make and buffers of a length. -/
def start (w : Workspace) (arguments : List String) (budget bufferLength : Nat) :
    System Kernel where
  host := w.kernel (Concatenate.sources arguments).length
  budget := budget
  environment := w.environment
  bufferLength := bufferLength

/-- **Runs the copying command**, which may make so many exchanges. -/
def execute (w : Workspace) (arguments : List String) (budget : Nat) : Result :=
  let (outcome, system) := (Concatenate.run arguments).runOn (w.start arguments budget 4096)
  { exitStatus := match outcome with
      | .ok well => Concatenate.exitStatus well
      | .error _ => abortStatus
    output := printed system.host
    lines := system.journal.lines }

end Workspace

end BufferedChannels.Simulation
