import BufferedChannels.Errno
import BufferedChannels.Simulation.Node

/-!
# Simulation/Lookup — what a path leads to

A path is walked part by part, from the root or from the working directory, and **every part but the
last must lead to a directory**.  The working directory lies deep in the tree of a plain machine,
which has the usual directories, an empty device and names for the standard descriptors.
-/

namespace BufferedChannels.Simulation

/-- **A place in the tree**: the names that lead to it from the root. -/
abbrev Place := List String

/-- **What stands at a place.** -/
inductive Entry where
  | file (bytes : Bytes)
  | directory
  /-- The device from which nothing is read. -/
  | null
  /-- What standard input reads from. -/
  | standardInput
  /-- What standard output writes to. -/
  | standardOutput

/-- The parts of a path that name something. -/
def namedParts (path : String) : List String :=
  (path.splitOn "/").filter fun part => part ≠ "" && part ≠ "."

/-! ## The machine -/

/-- The directories of the machine, as paths. -/
def machineDirectories : List String :=
  ["/", "/bin", "/boot", "/dev", "/dev/fd", "/dev/pts", "/dev/shm", "/etc", "/home", "/lib",
    "/lib64", "/media", "/mnt", "/opt", "/proc", "/proc/self", "/proc/self/fd", "/root", "/run",
    "/sbin", "/srv", "/sys", "/tmp", "/usr", "/usr/bin", "/usr/lib", "/usr/local", "/usr/share",
    "/var", "/var/lib", "/var/log", "/var/tmp"]

/-- What else the machine has, under paths. -/
def machineEntries : List (String × Entry) :=
  [("/dev/null", .null), ("/dev/stdin", .standardInput), ("/dev/fd/0", .standardInput),
    ("/proc/self/fd/0", .standardInput), ("/dev/stdout", .standardOutput),
    ("/dev/fd/1", .standardOutput), ("/proc/self/fd/1", .standardOutput)]

/-- What the machine has at a place. -/
def machine? (place : Place) : Option Entry :=
  if machineDirectories.any fun path => namedParts path = place then some .directory
  else (machineEntries.find? fun entry => namedParts entry.1 = place).map Prod.snd

/-! ## The working directory -/

/-- **A working directory** of files and directories, under paths that begin in it. -/
structure WorkingDirectory where
  files : List (String × Bytes) := []
  directories : List String := []

namespace WorkingDirectory

/-- The place of the working directory.  Two of its names hold a NUL, which no path can: what lies
above is known, and no path leads from there into the working directory. -/
def home : Place := ["tmp", "\x00", "\x00"]

/-- What the working directory has at a place that is counted from it.  A path of several parts
makes directories of the places on its way. -/
def listed? (w : WorkingDirectory) (place : Place) : Option Entry :=
  match w.files.find? fun file => namedParts file.1 = place with
  | some file => some (.file file.2)
  | none =>
    if (w.directories ++ w.files.map Prod.fst).any fun path => place.isPrefixOf (namedParts path)
    then some .directory else none

/-- **What stands at a place.** -/
def entry? (w : WorkingDirectory) (place : Place) : Option Entry :=
  if place.isPrefixOf home then some .directory
  else if home.isPrefixOf place then w.listed? (place.drop home.length)
  else machine? place

/-- The longest name, in bytes. -/
def maxName : Nat := 255
/-- The longest path, in bytes. -/
def maxPath : Nat := 4095

/-- **Walks along the parts of a path** from the place of a directory.  An empty part and `.` stay,
and `..` goes up; the root is above itself. -/
def walk (w : WorkingDirectory) : Place → List String → Except Errno Entry
  | _, [] => .ok .directory
  | place, part :: rest =>
    if part = "" ∨ part = "." then w.walk place rest
    else if part = ".." then w.walk place.dropLast rest
    else if part.utf8ByteSize > maxName then .error .nameTooLong
    else match w.entry? (place ++ [part]) with
      | none => .error .noEntry
      | some .directory => w.walk (place ++ [part]) rest
      | some entry => if rest.isEmpty then .ok entry else .error .notDirectory

/-- **What a path leads to.**  The empty path leads nowhere. -/
def resolve (w : WorkingDirectory) (path : String) : Except Errno Entry :=
  if path.isEmpty then .error .noEntry
  else if path.utf8ByteSize > maxPath then .error .nameTooLong
  else w.walk (if path.startsWith "/" then [] else home) (path.splitOn "/")

end WorkingDirectory

end BufferedChannels.Simulation
