import BufferedChannels.Environment
import BufferedChannels.Text.Quoted

/-!
# Capacity — the length of a channel's buffers

The length is fixed at build time: a variable of the build environment if it holds a valid length,
else the length of the chosen flavour.
-/

namespace BufferedChannels.Capacity

/-- The usual length. -/
def standard : Nat := 4096
/-- The length of the large flavour. -/
def large : Nat := 64 * 1024
/-- The greatest length. -/
def greatest : Nat := 16 * 1024 * 1024

/-- **A length as text**: a decimal word with blanks around and underscores anywhere, from 1 to the
greatest length. -/
def parse? (text : String) : Option Nat :=
  (Text.unsigned? 10 64 ((Text.trim text.toList).filter (· ≠ '_'))).filter fun n =>
    n ≠ 0 ∧ n ≤ greatest

/-- **What a build settles on.** -/
structure Choice where
  /-- The length of the buffers. -/
  length : Nat
  /-- What the build prints. -/
  notices : List String

/-- **The choice of a build**, from the variable if it is set and from the flavour. -/
def choose (setting? : Option String) (largeFlavour : Bool) : Choice :=
  let default := if largeFlavour then large else standard
  let watch := "cargo:rerun-if-env-changed=GVF_FILE_BUFLEN"
  match setting? with
  | none => ⟨default, [watch]⟩
  | some text =>
    match parse? text with
    | some n => ⟨n, [watch, s!"cargo:warning=Using GVF_FILE_BUFLEN={n}"]⟩
    | none => ⟨default, [watch, "cargo:warning=Ignoring GVF_FILE_BUFLEN=" ++ Text.quote text
        ++ s!" (must be 1..={greatest})"]⟩

/-- **The choice of a build environment**: one variable holds the length, and another makes the
flavour the large one when it is set, to whatever text. -/
def Choice.ofEnvironment (env : Environment) : Choice :=
  choose (env.text? "GVF_FILE_BUFLEN") (env.text? "CARGO_FEATURE_LARGE_BUFFERS").isSome

/-- The source lines that carry the choice into the library. -/
def Choice.source (c : Choice) : List String :=
  ["// Auto-generated by build.rs - do not edit", s!"pub const BUF_LEN: usize = {c.length};"]

end BufferedChannels.Capacity
