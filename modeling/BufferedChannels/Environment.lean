import BufferedChannels.Bytes
import BufferedChannels.Text.Numeral
import BufferedChannels.Text.Word

/-!
# Environment — settings from environment variables

A variable holds bytes.  One that is not UTF-8 counts as unset, and one that does not parse leaves
the default in place.
-/

namespace BufferedChannels

/-- **The environment variables** of a process. -/
structure Environment where
  entries : List (String × Bytes) := []
  deriving DecidableEq

namespace Environment

/-- The value of a variable as text, if it is set and is text. -/
def text? (env : Environment) (name : String) : Option String :=
  (env.entries.lookup name).bind fun bytes => String.fromUTF8? ⟨bytes.toArray⟩

/-- **A variable read by a parser**, after the blanks around it were cut. -/
def parsed? {α : Type} (env : Environment) (parse : List Char → Option α) (name : String) :
    Option α :=
  (env.text? name).bind fun text => parse (Text.trim text.toList)

/-- A flag: a word for yes is true, any other value false. -/
def flag (env : Environment) (name : String) (default : Bool) : Bool :=
  match env.text? name with
  | some text => Text.isTruthy text
  | none => default

/-- Permission bits in octal. -/
def octal (env : Environment) (name : String) (default : Nat) : Nat :=
  ((env.text? name).bind Text.octal?).getD default

end Environment

/-- The literal words for truth values, without other spellings. -/
def Text.boolean? (cs : List Char) : Option Bool :=
  if cs = ['t', 'r', 'u', 'e'] then some true
  else if cs = ['f', 'a', 'l', 's', 'e'] then some false
  else none

/-- A text of one character. -/
def Text.single? : List Char → Option Char
  | [c] => some c
  | _ => none

end BufferedChannels
