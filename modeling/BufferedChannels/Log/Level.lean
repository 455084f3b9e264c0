import BufferedChannels.Text.Blank
import BufferedChannels.Text.Word

/-!
# Log/Level — how much is logged

Six levels from nothing to everything.  A line is written when its level is not `off` and is at most
the level in force.
-/

namespace BufferedChannels.Log

/-- **A log level.** -/
inductive Level where
  | off | error | warn | info | debug | trace
  deriving DecidableEq

namespace Level

/-- The place of a level in the order. -/
def rank : Level → Nat
  | .off => 0
  | .error => 1
  | .warn => 2
  | .info => 3
  | .debug => 4
  | .trace => 5

/-- The level at a place; everything above is `trace`. -/
def ofRank : Nat → Level
  | 0 => .off
  | 1 => .error
  | 2 => .warn
  | 3 => .info
  | 4 => .debug
  | _ => .trace

/-- The level of a byte-sized number: its low 8 bits count. -/
def ofByte (n : Int) : Level := ofRank (n % 256).toNat

/-- The name of a level. -/
def name : Level → String
  | .off => "Off"
  | .error => "Error"
  | .warn => "Warn"
  | .info => "Info"
  | .debug => "Debug"
  | .trace => "Trace"

/-- What a line of the level begins with; all are of one width. -/
def label : Level → String
  | .off => ""
  | .error => "[ERROR]"
  | .warn => "[WARN] "
  | .info => "[INFO] "
  | .debug => "[DEBUG]"
  | .trace => "[TRACE]"

/-- Name in lower case and digit of each level. -/
def words : List (String × Level) :=
  [("off", .off), ("0", .off), ("error", .error), ("1", .error), ("warn", .warn), ("2", .warn),
    ("info", .info), ("3", .info), ("debug", .debug), ("4", .debug), ("trace", .trace),
    ("5", .trace)]

/-- **The level that a text names**, by name in any case or by digit, with blanks around. -/
def parse? (text : String) : Option Level :=
  words.lookup (String.ofList (Text.fold (Text.trim text.toList)))

/-- Whether a line of level `l` is written when `limit` is in force. -/
def shownAt (l limit : Level) : Bool := l ≠ .off && l.rank ≤ limit.rank

@[simp] theorem ofRank_rank (l : Level) : ofRank l.rank = l := by cases l <;> rfl

end Level

end BufferedChannels.Log
