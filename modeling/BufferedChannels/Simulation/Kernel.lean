import BufferedChannels.Host.Request
import BufferedChannels.Deadline
import BufferedChannels.Simulation.Node

/-!
# Simulation/Kernel — a kernel in memory

Nodes under names, descriptors with a position each, a clock that only waiting and scripts move, and
events that befall nodes when their time comes.  The kernel is a `Host`, so every operation on
channels can be run on it.
-/

namespace BufferedChannels.Simulation

/-- **An open descriptor.** -/
structure OpenFile where
  node : String
  flags : Flags
  offset : Nat := 0

/-- The reply that a scripted scheduler gives to one wait. -/
inductive Wake where
  /-- Ready for the direction that was asked for. -/
  | asked
  | timedOut
  /-- Ready for the other direction. -/
  | wrong
  deriving DecidableEq

/-- **The state of the kernel**, with the scheduler's replies to come. -/
structure Kernel where
  /-- Nanoseconds. -/
  clock : Nat := 0
  nodes : List (String × Node) := []
  descriptors : List (Int × OpenFile) := []
  /-- Events to come, in the order of their times in nanoseconds. -/
  events : List (Nat × Stimulus) := []
  /-- The scheduler's replies, and the nanoseconds that each takes. -/
  wakes : List (Wake × Nat) := []
  /-- Which of the coming allocations fails, counted from one. -/
  failingAllocation : Nat := 0
  /-- The greatest size of a file. -/
  largestFile : Nat := 16 * 1024 * 1024

/-- The value of a key, replaced or added at the end. -/
def assign {α β : Type} [DecidableEq α] (key : α) (value : β) : List (α × β) → List (α × β)
  | [] => [(key, value)]
  | (k, v) :: rest => if k = key then (key, value) :: rest else (k, v) :: assign key value rest

namespace Kernel

/-- The node under a name. -/
def node? (k : Kernel) (name : String) : Option Node := k.nodes.lookup name

/-- Puts a node under a name. -/
def setNode (k : Kernel) (name : String) (node : Node) : Kernel :=
  { k with nodes := assign name node k.nodes }

/-- Puts a body into a node that is there. -/
def setBody (k : Kernel) (name : String) (body : Body) : Kernel :=
  match k.node? name with
  | some node => k.setNode name { node with body }
  | none => k

/-- Puts a descriptor in place. -/
def setDescriptor (k : Kernel) (fd : Int) (file : OpenFile) : Kernel :=
  { k with descriptors := assign fd file k.descriptors }

/-- The node of an event undergoes it; an unknown node is passed over. -/
def befall (k : Kernel) (s : Stimulus) : Kernel :=
  match k.node? s.node with
  | some node => k.setNode s.node (s.apply node)
  | none => k

/-- **Moves the clock** forward to an instant; every event that is due by then happens. -/
def advanceTo (k : Kernel) (instant : Nat) : Kernel :=
  let clock := max k.clock instant
  let due := k.events.takeWhile fun event => event.1 ≤ clock
  let later := k.events.dropWhile fun event => event.1 ≤ clock
  due.foldl (fun k event => k.befall event.2) { k with clock, events := later }

/-- Lets time pass. -/
def sleep (k : Kernel) (duration : Nat) : Kernel := k.advanceTo (k.clock + duration)

/-- **The script's word on a call**: the adjustment that befalls it, after its delay. -/
def consult (k : Kernel) (name : String) (kind : CallKind) : Adjustment × Kernel :=
  match k.node? name with
  | none => ({}, k)
  | some node =>
    let taken := takeAdjustment kind node.script
    (taken.1, (k.setNode name { node with script := taken.2 }).sleep taken.1.delay)

/-- **A call on a descriptor**: an unknown one is refused, then the script has its word, and then
the call does what it does. -/
def onDescriptor {α : Type} (k : Kernel) (fd : Int) (kind : CallKind)
    (act : Kernel → OpenFile → Body → Option Nat → Except Errno α × Kernel) :
    Except Errno α × Kernel :=
  match k.descriptors.lookup fd with
  | none => (.error .badDescriptor, k)
  | some file =>
    let consulted := k.consult file.node kind
    match consulted.1.errno? with
    | some e => (.error e, consulted.2)
    | none =>
      match consulted.2.node? file.node with
      | none => (.error .badDescriptor, consulted.2)
      | some node => act consulted.2 file node.body consulted.1.max?

/-- The lowest number from `n` on that is no descriptor; `fuel` bounds the search. -/
def freeFrom (k : Kernel) : Nat → Nat → Nat
  | 0, n => n
  | fuel + 1, n =>
    if (k.descriptors.lookup (n : Int)).isSome then k.freeFrom fuel (n + 1) else n

/-- The lowest free descriptor from three on. -/
def freeDescriptor (k : Kernel) : Nat := k.freeFrom k.descriptors.length 3

/-- A new descriptor for a node. -/
def newDescriptor (k : Kernel) (name : String) (flags : Flags) : Except Errno Int × Kernel :=
  let fd : Int := k.freeDescriptor
  (.ok fd, k.setDescriptor fd { node := name, flags := flags.status })

/-- Opening a path. -/
def openPath (k : Kernel) (path : String) (flags : Flags) : Except Errno Int × Kernel :=
  let consulted := k.consult path .openPath
  let k := consulted.2
  match consulted.1.errno? with
  | some e => (.error e, k)
  | none =>
    match k.node? path with
    | none =>
      if flags.create && !path.isEmpty then
        (k.setNode path { body := .file {} }).newDescriptor path flags
      else (.error .noEntry, k)
    | some node =>
      if flags.create && flags.exclusive then (.error .alreadyExists, k)
      else if node.body.isDirectory && (flags.access ≠ .readOnly || flags.create) then
        (.error .isDirectory, k)
      else if flags.directory && !node.body.isDirectory then (.error .notDirectory, k)
      else
        let k := match node.body with
          | .file _ => if flags.truncate then k.setBody path (.file {}) else k
          | _ => k
        k.newDescriptor path flags

/-- The number of bytes that a call moves at most. -/
def limited (len : Nat) (max? : Option Nat) : Nat := min len (max?.getD len)

/-- Reading. -/
def read (k : Kernel) (fd : Int) (len : Nat) : Except Errno Bytes × Kernel :=
  k.onDescriptor fd .read fun k file body max? =>
    let want := limited len max?
    if file.flags.access = .writeOnly then (.error .badDescriptor, k)
    else match body with
      | .directory _ => (.error .isDirectory, k)
      | .file contents =>
        let bytes := contents.read file.offset want
        (.ok bytes, k.setDescriptor fd { file with offset := file.offset + bytes.length })
      | .stream s =>
        if want > 0 && s.unread.isEmpty then
          if s.hungUp then (.ok [], k) else (.error .wouldBlock, k)
        else
          (.ok (s.unread.take want),
            k.setBody file.node (.stream { s with unread := s.unread.drop want }))

/-- Writing to a file or directory: its contents afterwards, unless it would grow too large. -/
def writeAt (k : Kernel) (fd : Int) (file : OpenFile) (contents : Contents)
    (rebuild : Contents → Body) (data : Bytes) : Except Errno Nat × Kernel :=
  let offset := if file.flags.append then contents.size else file.offset
  if data.isEmpty then (.ok 0, k.setDescriptor fd { file with offset })
  else if offset + data.length > k.largestFile then
    (.error .tooLarge, k.setDescriptor fd { file with offset })
  else
    (.ok data.length,
      (k.setBody file.node (rebuild (contents.write offset data))).setDescriptor fd
        { file with offset := offset + data.length })

/-- Writing to what stands behind a descriptor. -/
def writeNode (k : Kernel) (fd : Int) (data : Bytes) : Except Errno Nat × Kernel :=
  k.onDescriptor fd .write fun k file body max? =>
    let want := data.take (limited data.length max?)
    if file.flags.access = .readOnly then (.error .badDescriptor, k)
    else match body with
      | .file contents => k.writeAt fd file contents .file want
      | .directory contents => k.writeAt fd file contents .directory want
      | .stream s =>
        if s.broken then (.error .brokenPipe, k)
        else if s.room? = some 0 && !want.isEmpty then (.error .wouldBlock, k)
        else
          let sent := want.take (s.room?.getD want.length)
          (.ok sent.length, k.setBody file.node (.stream
            { s with
              written := s.written.append sent
              room? := s.room?.map (· - sent.length) }))

/-- **Writing.**  Standard error takes everything and keeps nothing; no node stands behind it. -/
def write (k : Kernel) (fd : Int) (data : Bytes) : Except Errno Nat × Kernel :=
  if fd = standardError then (.ok data.length, k) else k.writeNode fd data

/-- Moving the position. -/
def seek (k : Kernel) (fd : Int) (offset : Int) (whence : Whence) : Except Errno Nat × Kernel :=
  k.onDescriptor fd .seek fun k file body _ =>
    match body.extent? with
    | none => (.error .notSeekable, k)
    | some size =>
      let base : Int := match whence with
        | .start => 0
        | .current => file.offset
        | .finish => size
      let target := base + offset
      if target < 0 || target > 0x7fffffffffffffff then (.error .invalid, k)
      else (.ok target.toNat, k.setDescriptor fd { file with offset := target.toNat })

/-- Closing; the descriptor is free afterwards even if the script has the call fail. -/
def close (k : Kernel) (fd : Int) : Except Errno Unit × Kernel :=
  match k.descriptors.lookup fd with
  | none => (.error .badDescriptor, k)
  | some file =>
    let consulted := k.consult file.node .close
    let k := { consulted.2 with
      descriptors := consulted.2.descriptors.filter fun entry => entry.1 ≠ fd }
    match consulted.1.errno? with
    | some e => (.error e, k)
    | none => (.ok (), k)

/-- The end of a wait that nothing ended before its limit. -/
def expire (k : Kernel) (limit? : Option Nat) : Polled × Kernel :=
  match limit? with
  | some limit => (.timedOut, k.advanceTo limit)
  | none => (.never, k)

/-- Waits from event to event until a node is ready; `fuel` is the number of events to come. -/
def awaitNode (name : String) (direction : Direction) (limit? : Option Nat) :
    Nat → Kernel → Polled × Kernel
  | fuel, k =>
    if (k.node? name).all fun node => node.body.isReady direction then (.ready, k)
    else
      match fuel, k.events with
      | fuel + 1, (time, _) :: _ =>
        if limit?.all fun limit => time ≤ limit then
          awaitNode name direction limit? fuel (k.advanceTo time)
        else k.expire limit?
      | _, _ => k.expire limit?

/-- **Polling** one descriptor; an unknown one has something to report. -/
def poll (k : Kernel) (fd : Int) (direction : Direction) (timeout : Option Nat) : Polled × Kernel :=
  match k.descriptors.lookup fd with
  | none => (.ready, k)
  | some file =>
    let consulted := k.consult file.node .poll
    let k := consulted.2
    match consulted.1.errno? with
    | some e => (.failed e, k)
    | none =>
      let limit? := timeout.map fun ms => k.clock + ms * Deadline.millisecond
      awaitNode file.node direction limit? k.events.length k

/-- The scheduler's reply to a wait; without one left, the deadline passes at once. -/
def wait (k : Kernel) (direction : Direction) : WaitOutcome × Kernel :=
  match k.wakes with
  | [] => (.timedOut, k)
  | (wake, duration) :: rest =>
    let outcome := match wake with
      | .asked => .ready direction
      | .timedOut => .timedOut
      | .wrong => .ready direction.flip
    (outcome, { k with wakes := rest }.sleep duration)

/-- **The reply to a request.** -/
def answer (k : Kernel) : (r : Request) → r.Reply × Kernel
  | .openPath path flags _ => k.openPath path flags
  | .read fd len => k.read fd len
  | .write fd data => k.write fd data
  | .seek fd offset whence => k.seek fd offset whence
  | .stat fd => k.onDescriptor fd .stat fun k _ body _ => (.ok body.mode, k)
  | .close fd => k.close fd
  | .getFlags fd => k.onDescriptor fd .getFlags fun k file _ _ => (.ok file.flags, k)
  | .setFlags fd flags => k.onDescriptor fd .setFlags fun k file _ _ =>
    (.ok (), k.setDescriptor fd { file with
      flags := { file.flags with append := flags.append, nonblock := flags.nonblock } })
  | .poll fd direction timeout => k.poll fd direction timeout
  | .claim _ => ((), k)
  | .release _ => ((), k)
  | .wait _ direction _ => k.wait direction

/-- Whether the next allocation succeeds. -/
def allocate (k : Kernel) : Bool × Kernel :=
  (k.failingAllocation ≠ 1, { k with failingAllocation := k.failingAllocation - 1 })

/-- **A kernel that begins**: its events in the order of their times, and those that are due
done. -/
def start (k : Kernel) : Kernel :=
  { k with events := k.events.mergeSort fun a b => a.1 ≤ b.1 }.advanceTo k.clock

/-- The bytes written to a stream, which are then gone. -/
def takeWritten (k : Kernel) (name : String) : Contents × Kernel :=
  match k.node? name with
  | some { body := .stream s, .. } => (s.written, k.setBody name (.stream { s with written := {} }))
  | _ => ({}, k)

instance : Host Kernel where
  answer := answer
  now k := k.clock
  allocate := allocate

end Kernel

end BufferedChannels.Simulation
