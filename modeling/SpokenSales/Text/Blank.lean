import SpokenSales.Text.Ranges

/-!
# Blank characters

White space is more than the space bar: line breaks, the no-break spaces, the ideographic
space.  A text is blank when nothing is left of it after trimming.
-/

namespace SpokenSales
namespace Text

def blankRanges : List (Nat × Nat) :=
  [(0x9, 0xD), (0x20, 0x20), (0x85, 0x85), (0xA0, 0xA0), (0x1680, 0x1680), (0x2000, 0x200A),
   (0x2028, 0x2029), (0x202F, 0x202F), (0x205F, 0x205F), (0x3000, 0x3000)]

def isBlank (c : Char) : Bool :=
  within c.toNat blankRanges

def trim (text : List Char) : List Char :=
  ((text.dropWhile isBlank).reverse.dropWhile isBlank).reverse

def isBlankText (text : List Char) : Bool :=
  text.all isBlank

end Text
end SpokenSales
