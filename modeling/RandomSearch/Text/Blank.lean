import RandomSearch.Text
import RandomSearch.Text.Ranges

/-!
# Blank characters

The blanks are the characters of Unicode's white space and of its separators between blocks of text.
Trimming takes them off both ends of a text.
-/

namespace RandomSearch.Text

def blankRanges : List (Nat × Nat) :=
  [(0x9, 0xd), (0x1c, 0x20), (0x85, 0x85), (0xa0, 0xa0), (0x1680, 0x1680),
   (0x2000, 0x200a), (0x2028, 0x2029), (0x202f, 0x202f), (0x205f, 0x205f), (0x3000, 0x3000)]

def isBlank (c : Char) : Bool :=
  inRanges blankRanges c.toNat

def trim (text : Text) : Text :=
  let isBlankPoint := CodePoint.isChar isBlank
  (((text.dropWhile isBlankPoint).reverse).dropWhile isBlankPoint).reverse

end RandomSearch.Text
