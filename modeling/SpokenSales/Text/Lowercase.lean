import SpokenSales.Text.Cased
import SpokenSales.Text.LowerMap

/-!
# Lowercase texts

Lowercasing is letter by letter with two exceptions.  The dotted capital I becomes two
characters.  Capital sigma becomes final sigma at the end of a word, which is decided by the
nearest characters on both sides that case rules do not skip.
-/

namespace SpokenSales
namespace Text

def startsCased (text : List Char) : Bool :=
  match text.dropWhile isCaseIgnorable with
  | [] => false
  | c :: _ => isCased c

def lowerSigma (before after : List Char) : Char :=
  if startsCased before && !startsCased after then 'ς' else 'σ'

/-- The lowercase form of `text` when it follows the characters `before`, nearest first. -/
def lowercaseAfter (before : List Char) : List Char → List Char
  | [] => []
  | c :: rest =>
      if c = 'Σ' then lowerSigma before rest :: lowercaseAfter (c :: before) rest
      else if c = 'İ' then 'i' :: '\u0307' :: lowercaseAfter (c :: before) rest
      else lowerChar c :: lowercaseAfter (c :: before) rest

def lowercase (text : List Char) : List Char :=
  lowercaseAfter [] text

end Text
end SpokenSales
