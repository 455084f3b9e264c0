import Mathlib
import BufferedChannels.Proofs.Lifecycle
import BufferedChannels.Proofs.Numerals
import BufferedChannels.Simulation.Kernel

/-!
# Proofs/OpenMode — permission bits from the environment to the kernel

The permission bits of a file that is created come from a text.  What the texts are, the grammar of
`Text.octal?_eq_some_iff` says; what stands for a number is read back, and so is the text that a
configuration shows of itself.  A value that is missing or no such text leaves the default, one that
has more than permission bits is refused **before the kernel is asked for anything**, and any other
reaches the kernel as it is, in the first request.
-/

namespace BufferedChannels

namespace Text

/-- **Octal permission bits as text** are a word of octal digits between blanks, perhaps after `0o`
and perhaps after `+`. -/
theorem octal?_eq_some_iff {text : String} {value : Nat} :
    octal? text = some value ↔ value < 2 ^ 32 ∧
      ∃ mark ∈ [[], ['0', 'o']], ∃ sign ∈ [[], ['+']], ∃ digits,
        Around (mark ++ sign ++ digits) text.toList ∧ Spells 8 digits value := by
  have small : 8 ≤ 10 := by decide
  constructor
  · intro read
    have around := around_trim text.toList
    unfold octal? at read
    split at read
    · next rest trimmed =>
      rw [trimmed] at around
      obtain ⟨bound, sign, signs, digits, rfl, spells⟩ := (unsigned?_eq_some_iff small).1 read
      exact ⟨bound, ['0', 'o'], by simp, sign, signs, digits, around, spells⟩
    · obtain ⟨bound, sign, signs, digits, trimmed, spells⟩ := (unsigned?_eq_some_iff small).1 read
      exact ⟨bound, [], by simp, sign, signs, digits, trimmed ▸ around, spells⟩
  · rintro ⟨bound, mark, marks, sign, signs, digits, around, spells⟩
    have read := (unsigned?_eq_some_iff small).2 ⟨bound, sign, signs, digits, rfl, spells⟩
    have plain := spells.signed_solid small signs
    have marked : ∀ c ∈ mark, isBlank c = false := by
      rcases List.mem_pair.1 marks with rfl | rfl
      · exact List.forall_mem_nil _
      · exact List.forall_mem_cons.2 ⟨rfl, List.forall_mem_singleton.2 rfl⟩
    rw [List.append_assoc] at around
    have trimmed := (trim_eq_iff (List.forall_mem_append.2
      ⟨marked, fun c mem => (plain c mem).1⟩)).2 around
    unfold octal?
    rw [trimmed]
    rcases List.mem_pair.1 marks with rfl | rfl
    · rw [List.nil_append]
      split
      · next rest same => exact absurd rfl (plain 'o' (by simp [same])).2.1
      · exact read
    · exact read

/-- **A number between blanks** is read back, with leading zeros or without. -/
theorem octal?_of_around {n zeros : Nat} (bound : n < 2 ^ 32) {text : String}
    (around : Around (List.replicate zeros '0' ++ digitsOf 8 n) text.toList) :
    octal? text = some n := by
  refine octal?_eq_some_iff.2 ⟨bound, [], by simp, [], by simp, _, around, ?_⟩
  exact (spells_digitsOf (by decide) n).zeros zeros

/-- **What is shown of a number is read back.** -/
theorem octal?_octalMarked {n : Nat} (bound : n < 2 ^ 32) : octal? (octalMarked n) = some n := by
  refine octal?_eq_some_iff.2 ⟨bound, ['0', 'o'], by simp, [], by simp, digitsOf 8 n,
    ⟨[], [], nofun, ?_⟩, spells_digitsOf (by decide) n⟩
  simp [octalMarked]

end Text

/-! ## What a configuration asks for -/

/-- Permission bits that are only that are kept. -/
theorem permissionBits_of_le {bits : Nat} (le : bits ≤ maxPermissions) :
    permissionBits bits = bits := by
  rw [permissionBits, show maxPermissions = 2 ^ 12 - 1 from rfl, Nat.and_two_pow_sub_one_eq_mod]
  exact Nat.mod_eq_of_lt (Nat.lt_succ_of_le le)

variable {κ : Type} [Host κ]

/-- **The exchange** that a request to a host comes to. -/
def Host.exchange (k : κ) (r : Request) : Exchange := ⟨r, (Host.answer k r).1⟩

namespace Channel

/-- **A configuration with more than permission bits** is refused, and nothing happens. -/
theorem openConfigured_refused (path : String) {config : Config}
    (high : maxPermissions < config.openMode) (flags : Flags) (mode : Nat) (waiter : Waiter)
    (s : System κ) : (openConfigured path flags mode config waiter).runOn s =
      (.ok (.error (.invalidArgument "open_mode must be <= 0o7777")), s) := by
  have refused : config.validate = .error (.invalidValue "open_mode must be <= 0o7777") :=
    if_neg high.not_ge
  rw [openConfigured, refused]
  rfl

/-- **What an opening asks for first**: with a configuration that is in order it is the path, with
its flags and its mode. -/
theorem openConfigured_asks {path : String} (named : '\x00' ∉ path.toList) {config : Config}
    (valid : config.openMode ≤ maxPermissions) (flags : Flags) (mode : Nat) (waiter : Waiter)
    (s : System κ) :
    let first := Host.exchange s.host (.openPath path (openFlags flags config) mode)
    (openConfigured path flags mode config waiter).Ensures s
      (fun es _ _ => ∃ later, es = first :: later)
      (fun es h s' => (s.budget = 0 ∧ h = .endless ∧ s' = s) ∨ ∃ later, es = first :: later) := by
  intro first
  have inOrder : config.validate = .ok () := if_pos valid
  have whole : path.toList.contains '\x00' = false := by simpa using named
  rw [openConfigured, inOrder]
  dsimp only
  refine Act.ensures_bind (M := fun es _ _ => es = [first]) ?_ fun es r t _ asked => ?_
  · rw [Descriptor.openPath, if_neg (by rw [whole]; decide)]
    exact Act.ensures_bind (M := fun es _ _ => es = [first])
      (Act.ensures_call _ (fun _ _ => rfl) fun spent => .inl ⟨spent, rfl, rfl⟩)
      fun es r t _ asked => Act.ensures_pure (by rw [asked]; rfl)
  subst asked
  -- What follows the first exchange matters only in that it keeps the trace.
  suffices onward : Act.Ensures _ t (fun _ _ _ => True) fun _ _ _ => True from
    onward.mono (fun es _ _ _ _ => ⟨es, rfl⟩) fun es _ _ _ _ => .inr ⟨es, rfl⟩
  rcases r with e | fd
  · exact Act.ensures_pure trivial
  refine Act.ensures_bind (waiter.claim_ensures fd t).onward fun _ _ _ _ _ =>
    Act.ensures_bind (prepare_ensures fd _).onward fun _ r _ _ _ => ?_
  rcases r with e | ⟨kind, input, output⟩
  · exact Act.ensures_bind (waiter.release_ensures fd _).onward fun _ _ _ _ _ =>
      Act.ensures_bind (Descriptor.closeQuietly_ensures fd _ _).onward fun _ _ _ _ _ =>
        Act.ensures_pure trivial
  · exact Act.ensures_log _ _ fun j => Act.ensures_pure trivial

/-- **An opening runs from its first exchange on**, unless not even that comes back. -/
theorem runOn_openConfigured {path : String} (named : '\x00' ∉ path.toList) {config : Config}
    (valid : config.openMode ≤ maxPermissions) (flags : Flags) (mode : Nat) (waiter : Waiter)
    (s : System κ) :
    let first := Host.exchange s.host (.openPath path (openFlags flags config) mode)
    let opening := openConfigured path flags mode config waiter
    if s.budget = 0 then opening.runOn s = (.error .endless, s)
    else ∃ outcome s' later, opening.runOn s = (outcome, s') ∧
      s'.trace = later ++ first :: s.trace := by
  intro first opening
  obtain ⟨es, outcome, s', run, reaches, post⟩ :=
    openConfigured_asks named valid flags mode waiter s
  rw [run]
  split
  · next spent =>
    have silent : es = [] := List.length_eq_zero_iff.1 (by have := reaches.budget; omega)
    subst silent
    rcases outcome with h | r
    · obtain ⟨-, rfl, rfl⟩ | ⟨later, no⟩ := post
      · rfl
      · cases no
    · obtain ⟨later, no⟩ := post
      cases no
  · next budget =>
    have asked : ∃ later, es = first :: later := by
      rcases outcome with h | r
      · exact post.resolve_left fun stuck => budget stuck.1
      · exact post
    obtain ⟨later, rfl⟩ := asked
    exact ⟨outcome, s', later.reverse, rfl, by rw [reaches.trace]; simp⟩

/-- The flags with which a file is created. -/
theorem openFlags_ofEnvironment (env : Environment) :
    openFlags { access := .writeOnly, create := true, truncate := true } (.ofEnvironment env) =
      { access := .writeOnly, create := true, truncate := true, nonblock := true
        cloexec := (env.text? "GVF_CLOEXEC").all Text.isTruthy } := by
  have cloexec : (Config.ofEnvironment env).cloexec =
      (env.text? "GVF_CLOEXEC").all Text.isTruthy := by
    rw [Config.ofEnvironment, Environment.flag]
    cases env.text? "GVF_CLOEXEC" <;> rfl
  rw [openFlags, cloexec]
  rfl

/-- **Creating a file** opens it with the configuration of the environment. -/
theorem runOn_create (path : String) (s : System κ) :
    (create path).runOn s = (openConfigured path
      { access := .writeOnly, create := true, truncate := true }
      (permissionBits (Config.ofEnvironment s.environment).openMode)
      (.ofEnvironment s.environment) defaultWaiter).runOn s := by
  have asked : (environmentConfig : Act κ Config).runOn s =
      (.ok (.ofEnvironment s.environment), s) := rfl
  rw [create, Act.runOn_bind, asked]

end Channel

theorem Config.openMode_ofEnvironment (env : Environment) : (ofEnvironment env).openMode =
    ((env.text? "GVF_OPEN_MODE").bind Text.octal?).getD 0o644 := rfl

/-- **The permission bits of the environment, from text to kernel.**  An octal word is a text of
the grammar and no other, and every number of 32 bits is read back from its digits, between blanks
and after zeros, and from what a configuration shows of it.  A file is created with the number that
the variable names, or with `0o644` if it is not set, is no text or names none.  More than
permission bits is invalid, and nothing happens; else **the first request opens the path with that
mode**, for writing only, to be created or emptied and never to block, and closed for other programs
unless its variable is a text that does not say yes.  (Only an exchange that never comes back is not
seen.) -/
theorem create_opens_with_mode {path : String} (named : '\x00' ∉ path.toList) (s : System κ) :
    let mode := ((s.environment.text? "GVF_OPEN_MODE").bind Text.octal?).getD 0o644
    let cloexec := (s.environment.text? "GVF_CLOEXEC").all Text.isTruthy
    let first := Host.exchange s.host (.openPath path
      { access := .writeOnly, create := true, truncate := true, nonblock := true, cloexec } mode)
    (∀ text value, Text.octal? text = some value ↔ value < 2 ^ 32 ∧
      ∃ mark ∈ [[], ['0', 'o']], ∃ sign ∈ [[], ['+']], ∃ digits,
        Text.Around (mark ++ sign ++ digits) text.toList ∧ Text.Spells 8 digits value) ∧
    (∀ m < 2 ^ 32,
      (∀ zeros text, Text.Around (List.replicate zeros '0' ++ Text.digitsOf 8 m) text.toList →
        Text.octal? text = some m) ∧
      ∀ (config : Config) (bufferLength : Nat), config.openMode = m → ∃ shown,
        "  open_mode:        " ++ shown ∈ config.describe bufferLength ∧
          Text.octal? shown = some m) ∧
    if 0o7777 < mode then
      (Channel.create path).runOn s =
        (.ok (.error (.invalidArgument "open_mode must be <= 0o7777")), s)
    else if s.budget = 0 then (Channel.create path).runOn s = (.error .endless, s)
    else ∃ outcome s' later, (Channel.create path).runOn s = (outcome, s') ∧
      s'.trace = later ++ first :: s.trace := by
  intro mode cloexec first
  refine ⟨fun _ _ => Text.octal?_eq_some_iff, fun m bound =>
    ⟨fun _ _ => Text.octal?_of_around bound, ?_⟩, ?_⟩
  · rintro config bufferLength rfl
    exact ⟨Text.octalMarked config.openMode,
      List.mem_cons_of_mem _ (List.mem_cons_of_mem _ List.mem_cons_self),
      Text.octal?_octalMarked bound⟩
  have openMode : (Config.ofEnvironment s.environment).openMode = mode :=
    Config.openMode_ofEnvironment s.environment
  rw [Channel.runOn_create, openMode]
  split
  · next high => exact Channel.openConfigured_refused path (openMode ▸ high) ..
  · next low =>
    have le : mode ≤ maxPermissions := Nat.le_of_not_lt low
    have opens := Channel.runOn_openConfigured named (openMode ▸ le)
      { access := .writeOnly, create := true, truncate := true } mode Channel.defaultWaiter s
    rw [permissionBits_of_le le]
    rwa [Channel.openFlags_ofEnvironment] at opens

/-- A process that creates files for their owner alone, and keeps them open for other programs. -/
def discreet : System Simulation.Kernel where
  host := {}
  budget := 9
  environment :=
    ⟨[("GVF_OPEN_MODE", Bytes.ofText " 0o600\n"), ("GVF_CLOEXEC", Bytes.ofText "No")]⟩

theorem create_opens_with_mode_discreet : '\x00' ∉ "log".toList ∧
    ∃ outcome s' later, (Channel.create "log").runOn discreet = (outcome, s') ∧
      s'.trace = later ++ [Host.exchange discreet.host (.openPath "log"
        { access := .writeOnly, create := true, truncate := true, nonblock := true } 0o600)] := by
  have named : '\x00' ∉ "log".toList := by decide
  have mode : (discreet.environment.text? "GVF_OPEN_MODE").bind Text.octal? = some 0o600 := by cbv
  have cloexec : (discreet.environment.text? "GVF_CLOEXEC").all Text.isTruthy = false := by cbv
  obtain ⟨-, -, run⟩ := create_opens_with_mode named discreet
  rw [mode, cloexec] at run
  exact ⟨named, run⟩

end BufferedChannels
