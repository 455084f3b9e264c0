import BufferedChannels.Text.Blank

/-!
# Text/Numeral — integers as text

Digits of a base, with an optional sign, read into an exact number and then held against the range
of a machine word.  A sign alone, an empty text and a value out of range are not numerals.
-/

namespace BufferedChannels.Text

/-- The value of a decimal digit, if the character is a digit of the base. -/
def digit? (base : Nat) (c : Char) : Option Nat :=
  if '0' ≤ c ∧ c ≤ '9' ∧ c.toNat - '0'.toNat < base then some (c.toNat - '0'.toNat) else none

/-- Digits read from the most significant on, after the value `acc` read so far. -/
def digitsFrom? (base : Nat) : Nat → List Char → Option Nat
  | acc, [] => some acc
  | acc, c :: cs => (digit? base c).bind fun d => digitsFrom? base (acc * base + d) cs

/-- **A digit string**: one digit or more, of a base up to ten. -/
def digits? (base : Nat) : List Char → Option Nat
  | [] => none
  | c :: cs => digitsFrom? base 0 (c :: cs)

/-- A word of `bits` bits without sign; one `+` may stand before the digits. -/
def unsigned? (base bits : Nat) (cs : List Char) : Option Nat :=
  let value := match cs with
    | '+' :: rest => digits? base rest
    | _ => digits? base cs
  value.filter (· < 1 <<< bits)

/-- A word of `bits` bits in two's complement; one `+` or `-` may stand before the digits. -/
def signed? (bits : Nat) (cs : List Char) : Option Int :=
  let value : Option Int := match cs with
    | '+' :: rest => (digits? 10 rest).map (fun n => (n : Int))
    | '-' :: rest => (digits? 10 rest).map (fun n => -(n : Int))
    | _ => (digits? 10 cs).map (fun n => (n : Int))
  value.filter fun v => -(1 <<< (bits - 1) : Nat) ≤ v ∧ v < (1 <<< (bits - 1) : Nat)

/-- Digits of a number in a base up to ten, at least one. -/
def digitsOf (base n : Nat) : List Char := Nat.toDigits base n

/-- A text filled up with `fill` on the left to a least width. -/
def padLeft (width : Nat) (fill : Char) (cs : List Char) : List Char :=
  List.replicate (width - cs.length) fill ++ cs

/-- **Permission bits in octal**, marked with `0o`. -/
def octalMarked (n : Nat) : String := "0o" ++ String.ofList (digitsOf 8 n)

/-- Octal with at least four digits. -/
def octal4 (n : Nat) : String := String.ofList (padLeft 4 '0' (digitsOf 8 n))

/-- **Octal permission bits as text**: blanks around, an optional `0o`, then a 32-bit octal word. -/
def octal? (text : String) : Option Nat :=
  match trim text.toList with
  | '0' :: 'o' :: rest => unsigned? 8 32 rest
  | cs => unsigned? 8 32 cs

end BufferedChannels.Text
