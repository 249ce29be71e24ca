import SealingProxy.Text.Ranges
/-! # White space

The characters with the Unicode property `White_Space`. Trimming removes them from both ends. -/

namespace SealingProxy.Text

/-- The ranges of code points that are white space, both ends included. -/
def blankRanges : List (Nat × Nat) :=
  [(0x09, 0x0D), (0x20, 0x20), (0x85, 0x85), (0xA0, 0xA0), (0x1680, 0x1680), (0x2000, 0x200A),
    (0x2028, 0x2029), (0x202F, 0x202F), (0x205F, 0x205F), (0x3000, 0x3000)]

def isBlank (c : Char) : Bool :=
  isIn blankRanges c

def trimStart (s : List Char) : List Char :=
  s.dropWhile isBlank

def dropEndWhile (p : Char → Bool) (s : List Char) : List Char :=
  (s.reverse.dropWhile p).reverse

def trim (s : List Char) : List Char :=
  dropEndWhile isBlank (trimStart s)

end SealingProxy.Text
