/-!
# Lines of bytes

Input arrives as bytes.  A line ends at a line feed, which is not part of it, nor is a carriage
return right before the line feed.  A last line may lack its line feed.  Each line is decoded on
its own, so that a line that is no text leaves the earlier lines usable.
-/

namespace SpokenSales
namespace Text

def decode? (bytes : List UInt8) : Option String :=
  String.fromUTF8? (ByteArray.mk bytes.toArray)

def withoutReturn (line : List UInt8) : List UInt8 :=
  if line.getLast? = some 13 then line.dropLast else line

/-- The lines of the bytes that follow an unfinished line, which is kept in reverse. -/
def linesAfter (unfinished : List UInt8) : List UInt8 → List (List UInt8)
  | [] => if unfinished.isEmpty then [] else [unfinished.reverse]
  | byte :: rest =>
      if byte = 10 then withoutReturn unfinished.reverse :: linesAfter [] rest
      else linesAfter (byte :: unfinished) rest

def lines (bytes : List UInt8) : List (List UInt8) :=
  linesAfter [] bytes

end Text
end SpokenSales
