import BufferedChannels.Environment
import BufferedChannels.Error

/-!
# Config — how channels are opened

Defaults of the library, overridden by environment variables, overridden by the caller.  The length
of the buffers is not here: it is fixed when the library is built (`Capacity`).
-/

namespace BufferedChannels

/-- The largest set of permission bits. -/
def maxPermissions : Nat := 0o7777

/-- Permission bits without the bits that are none. -/
def permissionBits (bits : Nat) : Nat := bits &&& maxPermissions

/-- **The configuration of channels.** -/
structure Config where
  /-- Permission bits of files that are created. -/
  openMode : Nat := 0o644
  /-- Whether descriptors are closed when another program is started. -/
  cloexec : Bool := true
  /-- Whether openings and endings are logged at level `info`. -/
  logLifecycle : Bool := false
  deriving DecidableEq

/-- **A broken rule of the configuration.** -/
inductive ConfigError where
  | invalidValue (rule : String)
  deriving DecidableEq

/-- The wording of a configuration error. -/
def ConfigError.message : ConfigError → String
  | .invalidValue rule => "Invalid config: " ++ rule

/-- A configuration error as the failure of an opening. -/
def ConfigError.toChannelError : ConfigError → ChannelError
  | .invalidValue rule => .invalidArgument rule

namespace Config

/-- The defaults of the library. -/
def library : Config := {}

/-- **The configuration of a process**: the defaults with what its environment overrides. -/
def ofEnvironment (env : Environment) : Config where
  openMode := env.octal "GVF_OPEN_MODE" library.openMode
  cloexec := env.flag "GVF_CLOEXEC" library.cloexec
  logLifecycle := env.flag "GVF_LOG_LIFECYCLE" library.logLifecycle

/-- **The rule of a configuration**: its mode has permission bits only. -/
def validate (c : Config) : Except ConfigError Unit :=
  if c.openMode ≤ maxPermissions then .ok ()
  else .error (.invalidValue "open_mode must be <= 0o7777")

/-- The lines that show a configuration and the length of the buffers. -/
def describe (c : Config) (bufferLength : Nat) : List String :=
  ["gvfile configuration:",
    s!"  buffer capacity:  {bufferLength}",
    "  open_mode:        " ++ Text.octalMarked c.openMode,
    s!"  cloexec:          {c.cloexec}",
    s!"  log_lifecycle:    {c.logLifecycle}"]

end Config

/-- **A recipe for a configuration**: where to start and what the caller sets. -/
structure ConfigSource where
  /-- Whether the environment is asked. -/
  fromEnvironment : Bool := false
  openMode? : Option Nat := none
  cloexec? : Option Bool := none
  logLifecycle? : Option Bool := none
  deriving DecidableEq

/-- Follows a recipe. -/
def ConfigSource.resolve (source : ConfigSource) (env : Environment) : Config :=
  let start := if source.fromEnvironment then .ofEnvironment env else Config.library
  { openMode := source.openMode?.getD start.openMode
    cloexec := source.cloexec?.getD start.cloexec
    logLifecycle := source.logLifecycle?.getD start.logLifecycle }

end BufferedChannels
