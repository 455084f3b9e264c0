/-!
# Text/Word — words compared without regard to case

Only the letters `A` to `Z` are folded.  That decides equality with an ASCII word without `k`
exactly: the one character outside ASCII whose lower case is an ASCII letter is the Kelvin sign.
-/

namespace BufferedChannels.Text

/-- The lower case of the ASCII letters. -/
def fold (cs : List Char) : List Char := cs.map Char.toLower

/-- **The words for yes**: `1`, `true`, `yes` and `on` in any case.  Blanks around are not cut. -/
def isTruthy (text : String) : Bool :=
  ["1", "true", "yes", "on"].contains (String.ofList (fold text.toList))

end BufferedChannels.Text
