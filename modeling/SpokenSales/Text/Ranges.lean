/-!
# Ranges of code points

A character class is given by a list of ranges that do not overlap and ascend, so that looking
a code point up can stop at the first range that begins beyond it.
-/

namespace SpokenSales
namespace Text

def within (n : Nat) : List (Nat × Nat) → Bool
  | [] => false
  | (first, last) :: rest =>
      if n < first then false
      else if n ≤ last then true
      else within n rest

end Text
end SpokenSales
