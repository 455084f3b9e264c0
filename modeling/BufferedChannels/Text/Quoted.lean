import BufferedChannels.Text.Invisible

/-!
# Text/Quoted — a text between quotation marks

`quote` writes a text so that it can be told apart from what stands around it: quotation marks and
backslashes are escaped, and what has no visible form is written by name or by number.
-/

namespace BufferedChannels.Text

/-- The number of a character in lower-case hexadecimal. -/
def hexOf (n : Nat) : List Char := Nat.toDigits 16 n

/-- **One character inside quotation marks.** -/
def escapeChar (c : Char) : List Char :=
  if c = '"' then ['\\', '"']
  else if c = '\\' then ['\\', '\\']
  else if c = '\n' then ['\\', 'n']
  else if c = '\r' then ['\\', 'r']
  else if c = '\t' then ['\\', 't']
  else if c = '\x00' then ['\\', '0']
  else if c.toNat < 0x20 ∨ c.toNat = 0x7f ∨ isInvisible c then
    ['\\', 'u', '\x7b'] ++ hexOf c.toNat ++ ['\x7d']
  else [c]

/-- **A quoted text.** -/
def quote (text : String) : String :=
  String.ofList ('"' :: text.toList.flatMap escapeChar ++ ['"'])

end BufferedChannels.Text
