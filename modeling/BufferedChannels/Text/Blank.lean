/-!
# Text/Blank — white space and trimming

A blank is a character with the Unicode property `White_Space`.  `trim` cuts blanks off both ends
of a text and leaves those inside.
-/

namespace BufferedChannels.Text

/-- **The `White_Space` property**: 25 characters, tabulated as ranges. -/
def isBlank (c : Char) : Bool :=
  let n := c.toNat
  (0x09 ≤ n && n ≤ 0x0d) || n == 0x20 || n == 0x85 || n == 0xa0 || n == 0x1680 ||
    (0x2000 ≤ n && n ≤ 0x200a) || n == 0x2028 || n == 0x2029 || n == 0x202f || n == 0x205f ||
    n == 0x3000

/-- Characters without the blanks before the first other one. -/
def trimLeft (cs : List Char) : List Char := cs.dropWhile isBlank

/-- Characters without the blanks after the last other one. -/
def trimRight (cs : List Char) : List Char := (cs.reverse.dropWhile isBlank).reverse

/-- **Trimming** drops the blanks at both ends. -/
def trim (cs : List Char) : List Char := trimRight (trimLeft cs)

end BufferedChannels.Text
