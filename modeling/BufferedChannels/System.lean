import BufferedChannels.Channel.Basic
import BufferedChannels.Config
import BufferedChannels.Host.Request
import BufferedChannels.Log.Journal

/-!
# System — what an operation sees and changes outside its channel

A `System` is a host together with what the process keeps: the exchanges made with the host, the
journal, the environment and the ownership of descriptors.  An `Act` is a computation over it.  It
may **halt**: by a broken rule of the program, by aborting the process, or by never coming to an
end.  A broken rule ends an operation in the middle, and the halt says how it left its channel.  A
loop of exchanges is bounded by the number of exchanges that a system may still make.
-/

namespace BufferedChannels

/-- **The surroundings of a channel.** -/
structure System (κ : Type) where
  host : κ
  /-- How many exchanges may still be made; with none left, the next one never returns. -/
  budget : Nat
  /-- The exchanges made, newest first. -/
  trace : List Exchange := []
  environment : Environment := {}
  journal : Log.Journal := {}
  /-- Who owns which descriptor, in each registry. -/
  ownership : Scope → Ownership := fun _ => {}
  /-- The length of a channel's buffers. -/
  bufferLength : Nat := 4096

/-- **Why a computation comes to no value.** -/
inductive Halt where
  /-- A rule was broken that the program relies on; the process may go on, with the channel at hand
  as the operation left it. -/
  | faulted (message : String) (channel? : Option Channel)
  /-- The process was aborted. -/
  | aborted
  /-- The computation never ends. -/
  | endless
  deriving DecidableEq

/-- A halt in an operation that leaves a channel as given, unless the halt says otherwise. -/
def Halt.leaving (c : Channel) : Halt → Halt
  | .faulted message none => .faulted message (some c)
  | halt => halt

/-- **A computation** over a system. -/
abbrev Act (κ : Type) := ExceptT Halt (StateM (System κ))

namespace Act

variable {κ : Type} {α β σ : Type}

/-- The outcome of a computation, and the system after it. -/
def runOn (act : Act κ α) (s : System κ) : Except Halt α × System κ := ExceptT.run act s

/-- Stops for ever. -/
def endless : Act κ α := throw .endless

/-- Stops at a broken rule. -/
def fault (message : String) : Act κ α := throw (.faulted message none)

/-- A computation on a channel, in which a broken rule **leaves the channel as given**. -/
def leaving (c : Channel) (act : Act κ α) : Act κ α :=
  tryCatch act fun halt => throw (halt.leaving c)

/-- A buffer operation whose rule must hold. -/
def check : Except BufferFault α → Act κ α
  | .ok a => return a
  | .error broken => fault broken.message

/-- **Turns until one gives a value**, for so many turns at most. -/
def turns (turn : σ → Act κ (σ ⊕ α)) : Nat → σ → Act κ α
  | 0, _ => endless
  | n + 1, s => do
    match ← turn s with
    | .inl s => turns turn n s
    | .inr a => return a

/-- **Turns until one gives a value.**  Each turn makes an exchange, so a system's budget bounds
their number. -/
def loop (turn : σ → Act κ (σ ⊕ α)) (s : σ) : Act κ α := do
  turns turn ((← get).budget + 1) s

section

variable [Host κ]

/-- **Makes a request** and notes the exchange; what standard error takes stands in the journal. -/
def call (r : Request) : Act κ r.Reply := do
  let s ← get
  match s.budget with
  | 0 => endless
  | left + 1 =>
    let answered := Host.answer s.host r
    let exchange : Exchange := ⟨r, answered.1⟩
    set { s with
      host := answered.2
      budget := left
      trace := exchange :: s.trace
      journal := s.journal.receive exchange.standardErrorBytes }
    return answered.1

/-- The clock. -/
def now : Act κ Nat := return Host.now (← get).host

/-- **Asks for the two buffers** of a channel. -/
def allocateBuffers : Act κ (Except ChannelError (ReadAhead × WriteBehind)) := do
  let s ← get
  let first := Host.allocate s.host
  set { s with host := first.2 }
  if !first.1 then return .error .outOfMemory
  match ReadAhead.new s.bufferLength with
  | .error e => return .error e
  | .ok input =>
    let second := Host.allocate first.2
    set { s with host := second.2 }
    if !second.1 then return .error .outOfMemory
    return (WriteBehind.new s.bufferLength).map fun output => (input, output)

/-- Changes the journal. -/
def journal (change : Log.Journal → Environment → Nat → Log.Journal) : Act κ Unit :=
  modify fun s => { s with journal := change s.journal s.environment (Host.now s.host) }

/-- **Logs a message** at a level. -/
def log (level : Log.Level) (message : String) : Act κ Unit :=
  journal fun j env now => j.log env now level message

/-- Writes a line at any level. -/
def print (message : String) : Act κ Unit := journal fun j env now => j.print env now message

/-- Logs the last line of the process and **aborts** it. -/
def abort (message : String) : Act κ α := do
  journal fun j _ _ => j.fatal message
  throw .aborted

/-- Aborts the process unless a condition holds. -/
def require (condition : Bool) (message : String) : Act κ Unit :=
  if condition then return () else abort message

/-- The settings of logging, which are read now if this is the first use. -/
def logSettings : Act κ Log.Settings := do
  journal Log.Journal.begin
  let s ← get
  return s.journal.settings s.environment (Host.now s.host)

/-- Changes the settings of logging. -/
def adjustLog (change : Log.Settings → Log.Settings) : Act κ Unit :=
  journal fun j env now => j.adjust env now change

/-- Whether a line of a level would be written; asking about `off` is no use of logging. -/
def isLogged (level : Log.Level) : Act κ Bool := do
  if level = .off then return false
  return level.shownAt (← logSettings).level

/-- Writes lines one after another, at any level. -/
def printAll : List String → Act κ Unit
  | [] => return ()
  | line :: rest => do
    print line
    printAll rest

/-- Shows a configuration. -/
def printConfig (config : Config) : Act κ Unit := do
  printAll (config.describe (← get).bufferLength)

/-! ## Owners of descriptors -/

/-- Notes an owner of a descriptor, and whether it is the only one. -/
def claimIn (scope : Scope) (fd : Int) : Act κ Bool := do
  let s ← get
  let owned := (s.ownership scope).claim fd
  set { s with ownership := fun other => if other = scope then owned else s.ownership other }
  let count := owned.owners fd
  if count > 1 then log .warn s!"fd {fd} registered twice ({count} owners)"
  return count == 1

/-- Strikes an owner of a descriptor, and tells whether there was one. -/
def releaseIn (scope : Scope) (fd : Int) : Act κ Bool := do
  let s ← get
  let known := (s.ownership scope).contains fd
  let owned := (s.ownership scope).release fd
  set { s with ownership := fun other => if other = scope then owned else s.ownership other }
  if !known then log .warn s!"fd {fd} unregistered but not known"
  return known

/-! ## How computations run -/

/-- **A request runs** by taking one exchange from the budget and asking the host. -/
theorem runOn_call (r : Request) (s : System κ) :
    (call r : Act κ r.Reply).runOn s = match s.budget with
      | 0 => (.error .endless, s)
      | left + 1 => (.ok (Host.answer s.host r).1,
          { s with
            host := (Host.answer s.host r).2
            budget := left
            trace := ⟨r, (Host.answer s.host r).1⟩ :: s.trace
            journal := s.journal.receive
              (Exchange.standardErrorBytes ⟨r, (Host.answer s.host r).1⟩) }) := by
  obtain ⟨host, budget, trace, environment, journal, ownership, bufferLength⟩ := s
  cases budget <;> rfl

end

@[simp] theorem runOn_pure (a : α) (s : System κ) : (pure a : Act κ α).runOn s = (.ok a, s) := rfl

@[simp] theorem runOn_throw (h : Halt) (s : System κ) :
    (throw h : Act κ α).runOn s = (.error h, s) := rfl

@[simp] theorem runOn_get (s : System κ) : (get : Act κ (System κ)).runOn s = (.ok s, s) := rfl

/-- **A sequence runs** its second part from where the first ended, unless that halted. -/
theorem runOn_bind (act : Act κ α) (next : α → Act κ β) (s : System κ) :
    (act >>= next).runOn s = match act.runOn s with
      | (.ok a, s) => (next a).runOn s
      | (.error h, s) => (.error h, s) := by
  simp only [runOn, ExceptT.run_bind]
  show (StateT.bind _ _ : StateM (System κ) _) s = _
  simp only [StateT.bind]
  rcases ExceptT.run act s with ⟨outcome, after⟩
  cases outcome <;> rfl

/-- **A computation that leaves a channel** runs as without it, but for what its halt says. -/
theorem runOn_leaving (c : Channel) (act : Act κ α) (s : System κ) :
    (leaving c act).runOn s = ((act.runOn s).1.mapError (Halt.leaving c), (act.runOn s).2) := by
  simp only [leaving, runOn, ExceptT.run_tryCatch]
  show (StateT.bind _ _ : StateM (System κ) _) s = _
  simp only [StateT.bind]
  rcases ExceptT.run act s with ⟨outcome, after⟩
  cases outcome <;> rfl

theorem runOn_leaving_ok {act : Act κ α} {a : α} {s s' : System κ} (c : Channel)
    (run : act.runOn s = (.ok a, s')) : (leaving c act).runOn s = (.ok a, s') := by
  rw [runOn_leaving, run]
  rfl

theorem runOn_leaving_error {act : Act κ α} {h : Halt} {s s' : System κ} (c : Channel)
    (run : act.runOn s = (.error h, s')) :
    (leaving c act).runOn s = (.error (h.leaving c), s') := by
  rw [runOn_leaving, run]
  rfl

/-- A rule that holds is stepped over. -/
theorem runOn_check (b : β) (next : β → Act κ α) (s : System κ) :
    (check (.ok b) >>= next).runOn s = (next b).runOn s := rfl

end Act

end BufferedChannels
