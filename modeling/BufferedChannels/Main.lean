import BufferedChannels.Simulation.Workspace

/-!
# Main — the copying command on the files of the machine

The files that the arguments name are read into a workspace, the command runs there, and what it
printed is printed.
-/

namespace BufferedChannels.Main

open Simulation

/-- What a path of the machine leads to. -/
def entryAt (path : String) : IO (Except Errno Entry) := do
  try
    let bytes ← IO.FS.readBinFile path
    return .ok (.file bytes.toList)
  catch
    | .inappropriateType _ _ _ => return .ok .directory
    | .permissionDenied _ code _ => return .error ⟨code.toNat⟩
    | _ => return .error .noEntry

/-- The variables of the environment that the library reads. -/
def environment : IO Environment := do
  let names := ["GVF_LOG_LEVEL", "GVF_LOG_TIME", "GVF_FLUSH_EPRINT", "GVF_OPEN_MODE", "GVF_CLOEXEC",
    "GVF_LOG_LIFECYCLE"]
  let found ← names.filterMapM fun name => do
    return (← IO.getEnv name).map fun value => (name, Bytes.ofText value)
  return ⟨found⟩

/-- The exchanges that the command may make. -/
def exchangeBudget : Nat := 1000000000000

/-- The workspace of a command line. -/
def workspace (arguments : List String) : IO Workspace := do
  let paths := (Concatenate.sources arguments).filter (· ≠ "-")
  let entries ← paths.mapM fun path => return (path, ← entryAt path)
  let input ← if (Concatenate.sources arguments).contains "-" then do
      pure (InputKind.file (← (← IO.getStdin).readBinToEnd).toList)
    else pure (InputKind.file [])
  return { entries, input, environment := ← environment }

end BufferedChannels.Main

/-- The copying command. -/
def main (arguments : List String) : IO UInt32 := do
  let result := (← BufferedChannels.Main.workspace arguments).execute arguments
    BufferedChannels.Main.exchangeBudget
  let out ← IO.getStdout
  out.write result.output.packed
  out.flush
  for line in result.lines do
    IO.eprintln line
  return result.exitStatus.toUInt32
