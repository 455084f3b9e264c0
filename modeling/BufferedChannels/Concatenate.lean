import BufferedChannels.Channel.Lifecycle
import BufferedChannels.Channel.Read
import BufferedChannels.Channel.Write

/-!
# Concatenate — a command that copies files to standard output

Each argument names a file, and `-` names standard input; without arguments standard input alone is
copied.  A file that cannot be copied is reported, and the others are copied all the same.  Standard
descriptors belong to the process: they are given back with the flags they had.
-/

namespace BufferedChannels.Concatenate

variable {κ : Type} [Host κ]

/-- The flags of a descriptor, to be put back later; none if they cannot be had. -/
def saveFlags (fd : Int) : Act κ (Option Flags) := do
  match ← Act.call (.getFlags fd) with
  | .ok flags => return some flags.status
  | .error _ => return none

/-- Puts flags back. -/
def restoreFlags (fd : Int) : Option Flags → Act κ Unit
  | none => return ()
  | some flags => do
    match ← Act.call (.setFlags fd flags) with
    | .ok _ => return ()
    | .error e => Act.log .warn s!"restoring flags on fd {fd}: {e.recognized.describe}"

/-- **The state of a copy**: bytes copied, source and destination. -/
structure Copy where
  total : Nat := 0
  source : Channel
  sink : Channel

/-- **One turn of a copy**: what arrives, at least one byte, is written out. -/
def copyTurn (high : Nat) (copy : Copy) :
    Act κ (Copy ⊕ (Except ChannelError Nat × Channel × Channel)) := do
  if copy.source.ended then return .inr (.ok copy.total, copy.source, copy.sink)
  let (reading, source) ← copy.source.readBetween high 1 high .never
  match reading.error? with
  | some e => return .inr (.error e, source, copy.sink)
  | none =>
    match ← copy.sink.write reading.bytes .never with
    | (.error e, sink) => return .inr (.error e, source, sink)
    | (.ok _, sink) => return .inl { total := copy.total + reading.bytes.length, source, sink }

/-- **Copies a channel** to its end: the count of bytes or the failure, and both channels. -/
def copyAll (source sink : Channel) : Act κ (Except ChannelError Nat × Channel × Channel) := do
  Act.loop (copyTurn (← get).bufferLength) { source, sink }

/-- Copies standard input. -/
def copyStandardInput (sink : Channel) : Act κ (Except ChannelError Nat × Channel) := do
  let flags ← saveFlags standardInput
  match ← Channel.adopt standardInput with
  | .error e =>
    restoreFlags standardInput flags
    return (.error e, sink)
  | .ok source =>
    let (result, source, sink) ← copyAll source sink
    let _ ← source.detach
    restoreFlags standardInput flags
    return (result, sink)

/-- Copies a file. -/
def copyFile (path : String) (sink : Channel) : Act κ (Except ChannelError Nat × Channel) := do
  match ← Channel.openPath path {} 0 with
  | .error e => return (.error e, sink)
  | .ok source =>
    let (result, source, sink) ← copyAll source sink
    source.close
    return (result, sink)

/-- **Copies what the arguments name**, one after another, and tells whether all went well. -/
def copyEach : List String → Bool → Channel → Act κ (Bool × Channel)
  | [], well, sink => return (well, sink)
  | name :: rest, well, sink => do
    let (result, sink) ← if name = "-" then copyStandardInput sink else copyFile name sink
    match result with
    | .ok n =>
      Act.log .info s!"{name}: {n} bytes"
      copyEach rest well sink
    | .error e =>
      Act.log .error s!"{name}: {e.message}"
      copyEach rest false sink

/-- The arguments that a command line stands for. -/
def sources (arguments : List String) : List String :=
  if arguments.isEmpty then ["-"] else arguments

/-- **The command**: whether every argument was copied and standard output took everything. -/
def run (arguments : List String) : Act κ Bool := do
  Act.journal Log.Journal.begin
  let flags ← saveFlags standardOutput
  match ← Channel.adopt standardOutput with
  | .error e =>
    Act.log .error s!"stdout: {e.message}"
    restoreFlags standardOutput flags
    return false
  | .ok sink =>
    let (well, sink) ← copyEach (sources arguments) true sink
    let (flushed, sink) ← sink.flush .never
    let well ← match flushed with
      | .ok _ => pure well
      | .error e =>
        Act.log .error s!"stdout: {e.message}"
        pure false
    let _ ← sink.detach
    restoreFlags standardOutput flags
    return well

/-- The exit status of the command. -/
def exitStatus (well : Bool) : UInt8 := if well then 0 else 1

end BufferedChannels.Concatenate
