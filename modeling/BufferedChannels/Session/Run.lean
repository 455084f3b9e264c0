import BufferedChannels.Session.Command

/-!
# Session/Run — running commands one after another

A `Session` is a system with its channels under their names.  `step` runs one command and reports
what came of it; a broken rule ends the command only, and an abort or an endless wait ends the run.
-/

namespace BufferedChannels

/-- **Channels under their names**, in the order of the names. -/
abbrev Roster := List (String × Channel)

/-- **A system with its channels**, and how many exchanges one step may make before it counts as
endless. -/
structure Session (κ : Type) where
  system : System κ
  channels : Roster := []
  allowance : Nat

namespace Roster

/-- Puts a channel in its place among the names. -/
def put (name : String) (channel : Channel) : Roster → Roster
  | [] => [(name, channel)]
  | (n, c) :: rest =>
    if name = n then (name, channel) :: rest
    else if name < n then (name, channel) :: (n, c) :: rest
    else (n, c) :: put name channel rest

/-- Takes a channel out. -/
def strike (name : String) (roster : Roster) : Roster := roster.filter fun entry => entry.1 ≠ name

end Roster

section

variable {κ : Type} [Host κ]

/-- Makes a deadline. -/
def DeadlineSource.resolve : DeadlineSource → Act κ Deadline
  | .never => return .never
  | .after duration => return .after (← Act.now) duration
  | .ofInstant instant => return .ofInstant instant

/-- A configuration made from its recipe. -/
def ConfigSource.build (source : ConfigSource) : Act κ Config :=
  return source.resolve (← get).environment

/-- **Begins a channel.** -/
def Opening.run : Opening → Act κ (Except ChannelError Channel)
  | .openPath path flags mode => Channel.openPath path flags (permissionBits mode)
  | .create path => Channel.create path
  | .openConfigured path flags mode config waiter => do
    Channel.openConfigured path flags (permissionBits mode) (← config.build) waiter
  | .adopt fd => Channel.adopt fd
  | .adoptConfigured fd config waiter => do Channel.adoptConfigured fd (← config.build) waiter

/-- **Operates on a channel.** -/
def Operation.run (c : Channel) : Operation → Act κ (Answer × Channel)
  | .read len deadline => do
    let (reading, c) ← c.read len (← deadline.resolve)
    return (.reading reading, c)
  | .readBetween len low high deadline => do
    let (reading, c) ← c.readBetween len low high (← deadline.resolve)
    return (.reading reading, c)
  | .write data deadline => do
    let (result, c) ← c.write data (← deadline.resolve)
    return (.count result, c)
  | .flush deadline => do
    let (result, c) ← c.flush (← deadline.resolve)
    return (.finished result, c)
  | .seek target => do
    let (result, c) ← c.seek target
    return (.count result, c)
  | .tell => return (.count (← c.tell), c)
  | .size => return (.count (← c.size), c)
  | .info => return (.info c.fd c.kind c.capacity c.ended, c)
  | .readSome len => do
    let (result, c) ← c.readSome len
    return (.streamBytes result, c)
  | .writeAll data => do
    let (result, c) ← c.writeAll data
    return (.streamCount result, c)
  | .flushAll => do
    let (result, c) ← c.flushAll
    return (.streamDone result, c)
  | .reposition target => do
    let (result, c) ← c.reposition target
    return (.streamCount result, c)

/-- **Ends a channel.** -/
def Ending.run (c : Channel) : Ending → Act κ Answer
  | .close => do
    c.close
    return .closed
  | .detach => return .detached (← c.detach)
  | .drop => do
    c.drop
    return .dropped

/-- Asks about owners or changes them. -/
def OwnershipQuery.run (query : OwnershipQuery) (fd : Int) (scope : Scope) : Act κ Answer := do
  match query with
  | .claim => return .truth (← Act.claimIn scope fd)
  | .release => return .truth (← Act.releaseIn scope fd)
  | .contains => return .truth (((← get).ownership scope).contains fd)
  | .owners => return .number (((← get).ownership scope).owners fd)
  | .size =>
    let owned := (← get).ownership scope
    return .extent owned.size owned.isEmpty

/-- **Runs a command that is about no channel.** -/
def Query.run : Query → Act κ Answer
  | .wait fd direction deadline scope => do
    return .waited (← (Waiter.polling scope).wait fd direction (← deadline.resolve))
  | .ownership question fd scope => question.run fd scope
  | .openPath path flags mode => do
    return .descriptor (← Descriptor.openPath path flags (permissionBits mode))
  | .read fd len => return .transferred (← Descriptor.read fd len)
  | .write fd data => return .sent (← Descriptor.write fd data)
  | .close fd => return .closing (← Descriptor.close fd)
  | .seekTo fd target => return .count (← Descriptor.seekTo fd target)
  | .position fd => return .count (← Descriptor.position fd)
  | .seekEnd fd => return .count (← Descriptor.seekEnd fd)
  | .kindOf fd => return .kind (← Descriptor.kindOf fd)
  | .neverBlocks fd => return .truth (← Descriptor.neverBlocks fd)
  | .makeNonblocking fd => do
    Descriptor.makeNonblocking fd
    return .ok
  | .setLogLevel level => do
    Act.adjustLog fun s => { s with level }
    return .ok
  | .setLogTime enabled => do
    Act.adjustLog fun s => { s with timed := enabled }
    return .ok
  | .printConfig config => do
    Act.printConfig (← config.build)
    return .ok

/-- Drops channels one after another. -/
def Roster.dropAll : Roster → Act κ Unit
  | [] => return ()
  | (_, c) :: rest => do
    c.drop
    Roster.dropAll rest

/-- **Runs a command** on the channels that are there. -/
def Command.run (roster : Roster) : Command → Act κ (Answer × Roster)
  | .begin name opening => do
    if let some c := roster.lookup name then c.drop
    match ← opening.run with
    | .ok c => return (.begun (.ok (c.fd, c.kind)), roster.put name c)
    | .error e => return (.begun (.error e), roster.strike name)
  | .operate name operation => do
    match roster.lookup name with
    | none => return (.noChannel, roster)
    | some c =>
      let (answer, c) ← operation.run c
      return (answer, roster.put name c)
  | .finish name ending => do
    match roster.lookup name with
    | none => return (.noChannel, roster)
    | some c => return (← ending.run c, roster.strike name)
  | .query question => return (← question.run, roster)
  | .dropAll => do
    Roster.dropAll roster
    return (.ok, [])

end

/-- The name of the channel that a command is about. -/
def Command.subject? : Command → Option String
  | .begin name _ | .operate name _ | .finish name _ => some name
  | _ => none

/-- **What came of a step.** -/
structure Report where
  outcome : Except Halt Answer
  /-- The channel that the command was about, as it is after an answer. -/
  channel? : Option Channel
  /-- The exchanges made, oldest first, but for those whose bytes stand among the lines. -/
  calls : List Exchange
  /-- The lines on standard error. -/
  lines : List String

namespace Session

variable {κ : Type}

/-- **Runs a computation** with a fresh account of exchanges and lines. -/
def observe {α : Type} (allowance : Nat) (act : Act κ α) (s : System κ) :
    Except Halt α × System κ :=
  act.runOn { s with budget := allowance, trace := [], journal := s.journal.emptied }

/-- **The channels after a halt**: as they were, but for the one that the halt left changed. -/
def afterHalt (roster : Roster) (subject? : Option String) : Halt → Roster
  | .faulted _ (some left) => subject?.elim roster fun name => roster.put name left
  | _ => roster

variable [Host κ]

/-- **Runs one command.** -/
def step (s : Session κ) (c : Command) : Report × Session κ :=
  let (outcome, system) := observe s.allowance (c.run s.channels) s.system
  let calls := (system.trace.filter fun e => !e.isToStandardError).reverse
  match outcome with
  | .ok (answer, channels) =>
    let channel? := c.subject?.bind fun name => channels.lookup name
    ({ outcome := .ok answer, channel?, calls, lines := system.journal.lines },
      { s with system, channels })
  | .error halt =>
    ({ outcome := .error halt, channel? := none, calls, lines := system.journal.lines },
      { s with system, channels := afterHalt s.channels c.subject? halt })

/-- Whether a run goes on after a step. -/
def goesOn : Except Halt Answer → Bool
  | .error .aborted | .error .endless => false
  | _ => true

/-- **A step of a run**: a command, or something that happens outside. -/
inductive Step (κ : Type) where
  /-- A command, after the host was arranged for it. -/
  | command (arrange : κ → κ) (command : Command)
  /-- Something that happens to the host. -/
  | outside (change : κ → Answer × κ)

/-- Runs one step. -/
def perform (s : Session κ) : Step κ → Report × Session κ
  | .command arrange c =>
    { s with system := { s.system with host := arrange s.system.host } }.step c
  | .outside change =>
    let changed := change s.system.host
    ({ outcome := .ok changed.1, channel? := none, calls := [], lines := [] },
      { s with system := { s.system with host := changed.2 } })

/-- **Runs steps** until one halts the run. -/
def run (s : Session κ) : List (Step κ) → List Report × Session κ
  | [] => ([], s)
  | first :: rest =>
    let (report, s) := s.perform first
    if goesOn report.outcome then
      let (reports, s) := s.run rest
      (report :: reports, s)
    else ([report], s)

/-- Whether a run came to its end. -/
def completed (reports : List Report) : Bool := reports.all fun report => goesOn report.outcome

/-- **Runs steps to the end**, and then drops the channels that are left, in one more step. -/
def runToEnd (s : Session κ) (steps : List (Step κ)) : List Report × Option Report × Session κ :=
  let (reports, s) := s.run steps
  if completed reports && !s.channels.isEmpty then
    let (last, s) := s.step .dropAll
    (reports, some last, s)
  else (reports, none, s)

end Session

end BufferedChannels
