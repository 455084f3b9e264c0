/-!
# Host/Flags — how a path is opened and what a descriptor remembers of it

A descriptor remembers its access, whether it appends and whether it never blocks; the other flags
matter at the opening only.
-/

namespace BufferedChannels

/-- The directions that a descriptor is open for. -/
inductive Access where
  | readOnly | writeOnly | readWrite
  deriving DecidableEq

/-- The name of an access mode. -/
def Access.name : Access → String
  | .readOnly => "RDONLY"
  | .writeOnly => "WRONLY"
  | .readWrite => "RDWR"

/-- **Flags** of an opening or of a descriptor. -/
structure Flags where
  access : Access := .readOnly
  /-- Create the file if it is missing. -/
  create : Bool := false
  /-- Refuse a path that exists. -/
  exclusive : Bool := false
  /-- Empty the file. -/
  truncate : Bool := false
  /-- Write at the end. -/
  append : Bool := false
  /-- Never block. -/
  nonblock : Bool := false
  /-- Refuse what is not a directory. -/
  directory : Bool := false
  /-- Close when another program is started. -/
  cloexec : Bool := false
  deriving DecidableEq

namespace Flags

/-- What a descriptor remembers. -/
def status (f : Flags) : Flags := { access := f.access, append := f.append, nonblock := f.nonblock }

/-- The names of the flags that are set, access first. -/
def names (f : Flags) : List String :=
  f.access.name ::
    ([(f.create, "CREAT"), (f.exclusive, "EXCL"), (f.truncate, "TRUNC"), (f.append, "APPEND"),
      (f.nonblock, "NONBLOCK"), (f.directory, "DIRECTORY"), (f.cloexec, "CLOEXEC")].filterMap
        fun (isSet, name) => if isSet then some name else none)

/-- **The text of a set of flags.** -/
def describe (f : Flags) : String := "|".intercalate f.names

/-- The flags with the given names; a name that is none is passed over. -/
def ofNames (names : List String) : Flags where
  access := if names.contains "RDWR" then .readWrite
    else if names.contains "WRONLY" then .writeOnly else .readOnly
  create := names.contains "CREAT"
  exclusive := names.contains "EXCL"
  truncate := names.contains "TRUNC"
  append := names.contains "APPEND"
  nonblock := names.contains "NONBLOCK"
  directory := names.contains "DIRECTORY"
  cloexec := names.contains "CLOEXEC"

end Flags

end BufferedChannels
