import BufferedChannels.System

/-!
# Channel/Notices — what a channel logs about its life

Beginnings and endings are logged, and so is **every byte that is thrown away** with them.
-/

namespace BufferedChannels.Channel

variable {κ : Type} [Host κ]

/-- Logs what an ending or a repositioning throws away. -/
def logLoss (c : Channel) (operation : String) : Act κ Unit := do
  if !c.output.isEmpty then
    Act.log .warn s!"fd {c.fd}: {operation} discarded {c.pendingCount} unflushed bytes"
  if !c.input.isEmpty then
    Act.log .debug s!"fd {c.fd}: {operation} dropped {c.liveCount} read-ahead bytes"

/-- Logs a beginning or an ending. -/
def logLifecycle (verbose : Bool) (message : String) : Act κ Unit :=
  Act.log (if verbose then .info else .debug) message

end BufferedChannels.Channel
