import BufferedChannels.Environment
import BufferedChannels.Deadline
import BufferedChannels.Log.Level
import BufferedChannels.Text.Utf8

/-!
# Log/Journal — what a process has put on standard error, and its logging settings

Settings are read from the environment at the **first use** of logging and never again; what a
program sets later overrides them.  The instant of first use is the epoch that time stamps count
from.  Lines of the log go to standard error, and so do the bytes that a channel over it sends: they
stand **in the order in which they were written**.
-/

namespace BufferedChannels.Log

/-- **The settings in force** once logging is in use. -/
structure Settings where
  level : Level := .info
  /-- Whether lines begin with a time stamp. -/
  timed : Bool := false
  /-- Whether every line is flushed. -/
  flushed : Bool := false
  /-- The instant of first use. -/
  epoch : Nat
  deriving DecidableEq

/-- The settings that the environment asks for at an instant. -/
def Settings.ofEnvironment (env : Environment) (now : Nat) : Settings where
  level := match env.text? "GVF_LOG_LEVEL" with
    | some text => (Level.parse? text).getD .info
    | none => .info
  timed := env.flag "GVF_LOG_TIME" false
  flushed := env.flag "GVF_FLUSH_EPRINT" false
  epoch := now

/-- **A piece of what stands on standard error.** -/
inductive Piece where
  /-- A line of the log, which a newline ends. -/
  | line (text : String)
  /-- Bytes as they were sent. -/
  | raw (bytes : Bytes)
  deriving DecidableEq

/-- The bytes of a piece. -/
def Piece.bytes : Piece → Bytes
  | .line text => Bytes.ofText text ++ Bytes.ofText "\n"
  | .raw bytes => bytes

/-- **A journal**: its settings, if logging was ever used, and its pieces, newest first. -/
structure Journal where
  settings? : Option Settings := none
  pieces : List Piece := []
  deriving DecidableEq

namespace Journal

/-- The settings in force, which are read now if this is the first use. -/
def settings (j : Journal) (env : Environment) (now : Nat) : Settings :=
  j.settings?.getD (.ofEnvironment env now)

/-- **First use**: takes the settings from the environment unless they are there. -/
def begin (j : Journal) (env : Environment) (now : Nat) : Journal :=
  { j with settings? := some (j.settings env now) }

/-- Changes the settings in force. -/
def adjust (j : Journal) (env : Environment) (now : Nat) (change : Settings → Settings) : Journal :=
  { j with settings? := some (change (j.settings env now)) }

/-- Appends a line as it is. -/
def write (j : Journal) (line : String) : Journal := { j with pieces := .line line :: j.pieces }

/-- Appends bytes that were sent to standard error; none leave no piece. -/
def receive (j : Journal) (bytes : Bytes) : Journal :=
  if bytes.isEmpty then j else { j with pieces := .raw bytes :: j.pieces }

/-- The journal without its pieces. -/
def emptied (j : Journal) : Journal := { j with pieces := [] }

/-- A time stamp: milliseconds since the epoch, eight columns wide. -/
def stamp (epoch now : Nat) : String :=
  String.ofList (Text.padLeft 8 ' ' (toString ((now - epoch) / Deadline.millisecond)).toList)
    ++ "ms "

/-- The line of a message. -/
def line (s : Settings) (now : Nat) (level : Level) (message : String) : String :=
  (if s.timed then stamp s.epoch now else "") ++ level.label ++ " gvfile: " ++ message

/-- **Logs a message** if its level is enabled. -/
def log (j : Journal) (env : Environment) (now : Nat) (level : Level) (message : String) :
    Journal :=
  if level = .off then j
  else
    let s := j.settings env now
    let j := j.begin env now
    if level.shownAt s.level then j.write (line s now level message) else j

/-- Writes a line at any level. -/
def print (j : Journal) (env : Environment) (now : Nat) (message : String) : Journal :=
  (j.write message).begin env now

/-- The line that a process ends with; it has no time stamp and reads no settings. -/
def fatal (j : Journal) (message : String) : Journal :=
  j.write (Level.error.label ++ " gvfile: fatal: " ++ message)

/-- **The bytes of all pieces**, oldest first. -/
def bytes (j : Journal) : Bytes := j.pieces.reverse.flatMap Piece.bytes

/-- **The lines that stand on standard error.**  A newline at the very end begins no line. -/
def lines (j : Journal) : List String :=
  let shown := Text.decode j.bytes
  let shown := if shown.getLast? = some '\n' then shown.dropLast else shown
  if j.pieces.isEmpty then [] else (String.ofList shown).splitOn "\n"

end Journal

end BufferedChannels.Log
