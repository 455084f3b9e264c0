import Mathlib
import BufferedChannels.Capacity
import BufferedChannels.Proofs.FixedLength
import BufferedChannels.Proofs.Numerals
import BufferedChannels.Simulation.Kernel

/-!
# Proofs/BuildLength — the length that a build settles on

The length of a channel's buffers comes from a text of the build environment.  What the texts are,
the grammar of `Capacity.parse?_eq_some_iff` says.  Blanks are cut off **before** underscores are
deleted, so that a blank between underscores spoils a text; zeros and underscores may make a text
as long as one likes.  Whatever the environment holds, the length that is built in is at least one
and at most the greatest, and so is the capacity of every channel.
-/

namespace BufferedChannels

/-! ## Marks inside a text -/

namespace Text

/-- **A text with marks inserted** into a core, at any positions. -/
inductive Punctuated (mark : Char) : List Char → List Char → Prop
  | nil : Punctuated mark [] []
  | char (c : Char) {core cs : List Char} : Punctuated mark core cs →
      Punctuated mark (c :: core) (c :: cs)
  | mark {core cs : List Char} : Punctuated mark core cs → Punctuated mark core (mark :: cs)

variable {mark : Char} {core cs : List Char}

/-- Every text is what is left without its marks, with them inserted. -/
theorem punctuated_filter (mark : Char) (cs : List Char) :
    Punctuated mark (cs.filter (· ≠ mark)) cs := by
  induction cs with
  | nil => exact .nil
  | cons c cs ih =>
    rcases eq_or_ne c mark with rfl | other
    · rw [List.filter_cons_of_neg (by simp)]
      exact ih.mark
    · rw [List.filter_cons_of_pos (by simpa using other)]
      exact ih.char c

namespace Punctuated

/-- **Deleting the marks** that were inserted leaves the core, if it has none of its own. -/
theorem filter_eq (h : Punctuated mark core cs) (none : mark ∉ core) :
    cs.filter (· ≠ mark) = core := by
  induction h with
  | nil => rfl
  | char c _ ih =>
    obtain ⟨other, rest⟩ := not_or.1 (List.mem_cons.not.1 none)
    rw [List.filter_cons_of_pos (by simpa using Ne.symm other), ih rest]
  | mark _ ih => rw [List.filter_cons_of_neg (by simp), ih none]

/-- What holds of the core and of the mark holds of the text. -/
theorem forall_mem (h : Punctuated mark core cs) {p : Char → Prop} (ofMark : p mark)
    (ofCore : ∀ c ∈ core, p c) : ∀ c ∈ cs, p c := by
  induction h with
  | nil => exact ofCore
  | char c _ ih =>
    obtain ⟨first, rest⟩ := List.forall_mem_cons.1 ofCore
    exact List.forall_mem_cons.2 ⟨first, ih rest⟩
  | mark _ ih => exact List.forall_mem_cons.2 ⟨ofMark, ih ofCore⟩

end Punctuated

end Text

/-! ## The length -/

namespace Capacity

open Text

/-- **A length as text** is a decimal word with underscores inserted, between blanks, whose value is
a length. -/
theorem parse?_eq_some_iff {text : String} {value : Nat} :
    parse? text = some value ↔ (1 ≤ value ∧ value ≤ greatest) ∧
      ∃ sign ∈ [[], ['+']], ∃ digits written, Around written text.toList ∧
        Punctuated '_' (sign ++ digits) written ∧ Spells 10 digits value := by
  have small : 10 ≤ 10 := le_rfl
  rw [parse?, Option.filter_eq_some_iff, unsigned?_eq_some_iff small, decide_eq_true_iff,
    ← Nat.pos_iff_ne_zero]
  constructor
  · rintro ⟨⟨-, sign, signs, digits, left, spells⟩, bounds⟩
    exact ⟨bounds, sign, signs, digits, trim text.toList, around_trim _,
      left ▸ punctuated_filter '_' _, spells⟩
  · rintro ⟨bounds, sign, signs, digits, written, around, punctuated, spells⟩
    have plain := spells.signed_solid small signs
    have solid : ∀ c ∈ written, isBlank c = false :=
      punctuated.forall_mem rfl fun c mem => (plain c mem).1
    have narrow : value < 2 ^ 64 := bounds.2.trans_lt (by decide)
    rw [(trim_eq_iff solid).2 around, punctuated.filter_eq fun mem => (plain '_' mem).2.2 rfl]
    exact ⟨⟨narrow, sign, signs, digits, rfl, spells⟩, bounds⟩

example : parse? " _1_6\n" = some 16 ∧ parse? "_ 16" = none ∧ parse? "+_016" = some 16 := by cbv

/-- **The decimal text of a length** is read back, with underscores anywhere and between blanks. -/
theorem parse?_of_punctuated {value : Nat} (positive : 1 ≤ value) (le : value ≤ greatest)
    {text : String} {written : List Char} (punctuated : Punctuated '_' (digitsOf 10 value) written)
    (around : Around written text.toList) : parse? text = some value :=
  parse?_eq_some_iff.2 ⟨⟨positive, le⟩, [], List.mem_cons_self, digitsOf 10 value, written, around,
    punctuated, spells_digitsOf (by decide) value⟩

/-- **The choice** is the length that is set, if it is one, and else that of the flavour. -/
theorem length_choose (setting? : Option String) (largeFlavour : Bool) :
    (choose setting? largeFlavour).length =
      (setting?.bind parse?).getD (if largeFlavour then large else standard) := by
  rcases setting? with _ | text
  · rfl
  · rw [choose, Option.bind_some]
    cases parse? text <;> rfl

/-- **Every choice is a length**, whatever is set. -/
theorem length_choose_bounds (setting? : Option String) (largeFlavour : Bool) :
    1 ≤ (choose setting? largeFlavour).length ∧
      (choose setting? largeFlavour).length ≤ greatest := by
  rw [length_choose]
  cases chosen : setting?.bind parse? with
  | none => cases largeFlavour <;> decide
  | some value =>
    obtain ⟨text, -, read⟩ := Option.bind_eq_some_iff.1 chosen
    exact (parse?_eq_some_iff.1 read).1

/-- The source carries the length in decimal. -/
theorem Choice.source_spells (choice : Choice) : ∃ shown,
    "pub const BUF_LEN: usize = " ++ shown ++ ";" ∈ choice.source ∧
      Spells 10 shown.toList choice.length := by
  refine ⟨toString choice.length, List.mem_cons_of_mem _ List.mem_cons_self, ?_⟩
  rw [show toString choice.length = String.ofList (digitsOf 10 choice.length) from rfl,
    String.toList_ofList]
  exact spells_digitsOf (by decide) choice.length

/-- **The length of buffers, from the build environment to channels.**  A length as text is a text
of the grammar and no other, and every length is read back from its digits, with underscores
anywhere and between blanks.  What is built in is the length that the variable names, or that of the
flavour if the variable is not set, is no text or names none.  So it is **a length in every
environment**: it is at least one and at most the greatest, and where buffers are made with it, all
channels that a program can get hold of have buffers of this length, which is never zero. -/
theorem length_settled (κ : Type) [Host κ] (env : Environment) :
    let flavour := if (env.text? "CARGO_FEATURE_LARGE_BUFFERS").isSome then 65536 else 4096
    let choice := Choice.ofEnvironment env
    (∀ text value, parse? text = some value ↔ (1 ≤ value ∧ value ≤ 16777216) ∧
      ∃ sign ∈ [[], ['+']], ∃ digits written, Around written text.toList ∧
        Punctuated '_' (sign ++ digits) written ∧ Spells 10 digits value) ∧
    (∀ value, 1 ≤ value → value ≤ 16777216 → ∀ written text,
      Punctuated '_' (digitsOf 10 value) written → Around written text.toList →
        parse? text = some value) ∧
    choice.length = ((env.text? "GVF_FILE_BUFLEN").bind parse?).getD flavour ∧
    (∃ shown, "pub const BUF_LEN: usize = " ++ shown ++ ";" ∈ choice.source ∧
      Spells 10 shown.toList choice.length) ∧
    (1 ≤ choice.length ∧ choice.length ≤ 16777216) ∧
    ∀ c : Channel, c.ReachableAt κ choice.length →
      c.input.capacity = choice.length ∧ c.capacity = choice.length ∧ c.capacity ≠ 0 := by
  intro flavour choice
  have bounds := length_choose_bounds (env.text? "GVF_FILE_BUFLEN")
    (env.text? "CARGO_FEATURE_LARGE_BUFFERS").isSome
  refine ⟨fun _ _ => parse?_eq_some_iff, fun _ positive le _ _ => parse?_of_punctuated positive le,
    length_choose _ _, choice.source_spells, bounds, fun c reachable => ?_⟩
  have spans := reachable.spans
  have capacity : c.capacity = choice.length := spans.output
  exact ⟨spans.input, capacity, capacity ▸ Nat.one_le_iff_ne_zero.1 bounds.1⟩

/-! A build for buffers of sixteen bytes, and a pipe that is adopted and read from. -/

/-- The build environment. -/
def sparing : Environment := ⟨[("GVF_FILE_BUFLEN", Bytes.ofText " _1_6\n")]⟩

/-- The host of the pipe, and a program of that build. -/
def sparingPipe : System Simulation.Kernel where
  host :=
    { nodes := [("p", { body := .stream {} })]
      descriptors := [(3, { node := "p", flags := { access := .readWrite } })] }
  budget := 9
  bufferLength := 16

/-- The channel that adopted the pipe. -/
def sparingChannel : Channel :=
  { fd := 3, kind := .unasked, input := ⟨List.replicate 16 0, 0, 0⟩,
    output := ⟨List.replicate 16 0, 0⟩, verbose := false, waiter := .polling .shared }

theorem reachableAt_sparing : sparingChannel.ReachableAt Simulation.Kernel 16 :=
  .begun rfl (show (Opening.adopt 3).run.runOn sparingPipe = (.ok (.ok sparingChannel), _) from rfl)

theorem length_settled_sparing :
    (Punctuated '_' (digitsOf 10 16) ['_', '1', '_', '6'] ∧
      Around ['_', '1', '_', '6'] " _1_6\n".toList ∧ parse? " _1_6\n" = some 16) ∧
    (Choice.ofEnvironment sparing).length = 16 ∧
    sparingChannel.ReachableAt Simulation.Kernel (Choice.ofEnvironment sparing).length ∧
    sparingChannel.capacity = 16 ∧ sparingChannel.capacity ≠ 0 := by
  have punctuated : Punctuated '_' (digitsOf 10 16) ['_', '1', '_', '6'] :=
    .mark (.char '1' (.mark (.char '6' .nil)))
  have around : Around ['_', '1', '_', '6'] " _1_6\n".toList :=
    ⟨[' '], ['\n'], List.forall_mem_cons.2 ⟨rfl, List.forall_mem_singleton.2 rfl⟩, by simp⟩
  have setting : (sparing.text? "GVF_FILE_BUFLEN").bind parse? = some 16 := by cbv
  obtain ⟨-, read, length, -, -, channels⟩ := length_settled Simulation.Kernel sparing
  have chosen : (Choice.ofEnvironment sparing).length = 16 := by rw [length, setting]; rfl
  have reachable : sparingChannel.ReachableAt Simulation.Kernel
      (Choice.ofEnvironment sparing).length := chosen ▸ reachableAt_sparing
  obtain ⟨-, capacity, some⟩ := channels sparingChannel reachable
  exact ⟨⟨punctuated, around, read 16 (by decide) (by decide) _ _ punctuated around⟩, chosen,
    reachable, capacity.trans chosen, some⟩

end Capacity

end BufferedChannels
