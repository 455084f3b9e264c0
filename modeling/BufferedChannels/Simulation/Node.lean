import BufferedChannels.Errno
import BufferedChannels.Direction
import BufferedChannels.Simulation.Contents

/-!
# Simulation/Node — what a descriptor of the simulated kernel stands for

A node is a file, a directory or a stream with its two directions, such as a pipe, a socket or a
terminal.  It may carry a **script**: adjustments that befall the coming calls on it, one each.
-/

namespace BufferedChannels.Simulation

/-- The calls that a script can adjust. -/
inductive CallKind where
  | openPath | read | write | seek | stat | close | getFlags | setFlags | poll
  deriving DecidableEq

/-- **An adjustment** of one call. -/
structure Adjustment where
  /-- Nanoseconds that pass before the call. -/
  delay : Nat := 0
  /-- The error that the call fails with. -/
  errno? : Option Errno := none
  /-- The most bytes that the call moves. -/
  max? : Option Nat := none
  deriving DecidableEq

/-- The first adjustment for a kind of call, and the script without it. -/
def takeAdjustment (kind : CallKind) :
    List (CallKind × Adjustment) → Adjustment × List (CallKind × Adjustment)
  | [] => ({}, [])
  | (k, adjustment) :: rest =>
    if k = kind then (adjustment, rest)
    else
      let taken := takeAdjustment kind rest
      (taken.1, (k, adjustment) :: taken.2)

/-- The kinds of stream. -/
inductive StreamKind where
  | fifo | character | socket
  deriving DecidableEq

/-- **A stream**: bytes that wait to be read, and bytes that were written. -/
structure Stream where
  kind : StreamKind := .fifo
  unread : Bytes := []
  written : Contents := {}
  /-- Whether no more bytes come once those unread are read. -/
  hungUp : Bool := false
  /-- Whether writing fails. -/
  broken : Bool := false
  /-- How many bytes can be written; without a number, any. -/
  room? : Option Nat := none

/-- **What a node is.**  Files and directories have positions, which reads and writes move, and
streams have none.  A device that answers a seek although nothing moves its position is no node of
this kernel. -/
inductive Body where
  | file (contents : Contents)
  /-- A directory; what is written to it is kept but cannot be read. -/
  | directory (contents : Contents)
  | stream (stream : Stream)

/-- **A node.** -/
structure Node where
  body : Body
  script : List (CallKind × Adjustment) := []

namespace Body

/-- The file mode: type bits and permission bits. -/
def mode : Body → Nat
  | .file _ => 0o100644
  | .directory _ => 0o040755
  | .stream s => match s.kind with
    | .fifo => 0o010600
    | .character => 0o020600
    | .socket => 0o140600

/-- Whether a node is a directory. -/
def isDirectory : Body → Bool
  | .directory _ => true
  | _ => false

/-- **Whether a node is ready for a direction.**  Only streams ever are not. -/
def isReady (direction : Direction) : Body → Bool
  | .stream s =>
    s.broken || match direction with
      | .readable => s.hungUp || !s.unread.isEmpty
      | .writable => s.room? ≠ some 0
  | _ => true

/-- The size that positions are counted from; streams have none. -/
def extent? : Body → Option Nat
  | .file contents => some contents.size
  | .directory _ => some 0
  | .stream _ => none

end Body

/-- **Something that befalls a node** from outside. -/
structure Stimulus where
  node : String
  /-- Bytes that arrive. -/
  push : Bytes := []
  /-- Room that is made. -/
  room? : Option Nat := none
  /-- The other end hangs up. -/
  hangsUp : Bool := false
  /-- The stream breaks. -/
  breaks : Bool := false

/-- A node after a stimulus. -/
def Stimulus.apply (s : Stimulus) (node : Node) : Node :=
  { node with
    body := match node.body with
      | .file contents => .file (contents.append s.push)
      | .directory contents => .directory (contents.append s.push)
      | .stream stream => .stream
        { stream with
          unread := stream.unread ++ s.push
          room? := match s.room? with
            | some more => some (stream.room?.getD 0 + more)
            | none => stream.room?
          hungUp := stream.hungUp || s.hangsUp
          broken := stream.broken || s.breaks } }

end BufferedChannels.Simulation
