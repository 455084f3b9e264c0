import BufferedChannels.Host.Request
import BufferedChannels.Text.Numeral

/-!
# Host/Transcript — exchanges as text

One line per exchange: the request as a call, an equals sign, and the result as a number, a set of
flags, or minus an error number.
-/

namespace BufferedChannels

/-- The name of a starting point of a position. -/
def Whence.name : Whence → String
  | .start => "SET"
  | .current => "CUR"
  | .finish => "END"

/-- The name of a direction in a poll. -/
def Direction.event : Direction → String
  | .readable => "IN"
  | .writable => "OUT"

/-- The text of a result: the value's own, or minus the error number. -/
def Errno.resultText {α : Type} (text : α → String) : Except Errno α → String
  | .ok a => text a
  | .error e => toString (-e.code)

namespace Exchange

/-- **The text of an exchange.** -/
def describe : Exchange → String
  | ⟨.openPath path flags mode, reply⟩ =>
    "open(" ++ path ++ "," ++ flags.describe ++ "," ++ Text.octal4 mode ++ ")="
      ++ Errno.resultText toString reply
  | ⟨.read fd len, reply⟩ =>
    s!"read({fd},{len})=" ++ Errno.resultText (fun (b : Bytes) => toString b.length) reply
  | ⟨.write fd data, reply⟩ => s!"write({fd},{data.length})=" ++ Errno.resultText toString reply
  | ⟨.seek fd offset whence, reply⟩ =>
    s!"lseek({fd},{offset},{whence.name})=" ++ Errno.resultText toString reply
  | ⟨.stat fd, reply⟩ => s!"fstat({fd})=" ++ Errno.resultText (fun (_ : Nat) => "0") reply
  | ⟨.close fd, reply⟩ => s!"close({fd})=" ++ Errno.resultText (fun (_ : Unit) => "0") reply
  | ⟨.getFlags fd, reply⟩ => s!"getfl({fd})=" ++ Errno.resultText Flags.describe reply
  | ⟨.setFlags fd flags, reply⟩ =>
    s!"setfl({fd},{flags.describe})=" ++ Errno.resultText (fun (_ : Unit) => "0") reply
  | ⟨.poll fd direction timeout, reply⟩ =>
    let limit := (timeout.map toString).getD "-1"
    let result := match (reply : Polled) with
      | .ready => "1"
      | .timedOut => "0"
      | .failed e => toString (-e.code)
      | .never => "hang"
    s!"poll({fd},{direction.event},{limit})=" ++ result
  | ⟨.claim fd, _⟩ => s!"register({fd})"
  | ⟨.release fd, _⟩ => s!"unregister({fd})"
  | ⟨.wait fd direction left, reply⟩ =>
    let time := (left.map toString).getD "-"
    let result := match (reply : WaitOutcome) with
      | .timedOut => "timeout"
      | .ready got => if got = direction then "ready" else "wrong"
    s!"wait({fd},{direction.name},{time})=" ++ result

end Exchange

end BufferedChannels
