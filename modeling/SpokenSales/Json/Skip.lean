import SpokenSales.Json.Numeral
import SpokenSales.Json.Quoted

/-!
# Skipping a value

A value that nobody asks for is skipped, however deeply it is nested.  The open lists and objects
are kept on a stack, innermost first, so that the reader only has to know where in the innermost
one it stands.  Every step takes at least one character, hence the length of the text bounds
their number.
-/

namespace SpokenSales
namespace Json

open Text

def isSpace (c : Char) : Bool :=
  c = ' ' || c = '\t' || c = '\n' || c = '\r'

def skipSpace (text : List Char) : List Char :=
  text.dropWhile isSpace

def skipLetters : List Char → List Char → Except Fault (List Char)
  | [], text => .ok text
  | _ :: _, [] => .error .truncated
  | letter :: more, c :: rest => if c = letter then skipLetters more rest else .error .malformed

def skipColon (text : List Char) : Except Fault (List Char) :=
  match skipSpace text with
  | ':' :: rest => .ok rest
  | [] => .error .truncated
  | _ => .error .malformed

def skipScalar : List Char → Except Fault (List Char)
  | 'n' :: rest => skipLetters "ull".toList rest
  | 't' :: rest => skipLetters "rue".toList rest
  | 'f' :: rest => skipLetters "alse".toList rest
  | '"' :: rest => Quoted.skip rest
  | c :: rest => if Numeral.startsNumber c then Numeral.skip (c :: rest) else .error .malformed
  | [] => .error .truncated

inductive Container
  | list
  | object
deriving DecidableEq, Repr

namespace Container

def closing : Container → Char
  | list => ']'
  | object => '}'

end Container

inductive Place
  | value
  | key
  | opened
  | done
deriving DecidableEq, Repr

def Container.element : Container → Place
  | .list => .value
  | .object => .key

/-- Skips what is left of the open containers, from a place in the innermost one. -/
def skipFrom : Nat → Place → List Container → List Char → Except Fault (List Char)
  | 0, _, _, _ => .error .truncated
  | _ + 1, .done, [], text => .ok text
  | fuel + 1, .done, inner :: outer, text =>
      match skipSpace text with
      | [] => .error .truncated
      | c :: rest =>
          if c = ',' then skipFrom fuel inner.element (inner :: outer) rest
          else if c = inner.closing then skipFrom fuel .done outer rest
          else .error .malformed
  | _ + 1, .opened, [], _ => .error .malformed
  | fuel + 1, .opened, inner :: outer, text =>
      match skipSpace text with
      | [] => .error .truncated
      | c :: rest =>
          if c = inner.closing then skipFrom fuel .done outer rest
          else skipFrom fuel inner.element (inner :: outer) (c :: rest)
  | fuel + 1, .key, stack, text =>
      match skipSpace text with
      | [] => .error .truncated
      | '"' :: rest =>
          match (Quoted.skip rest).bind skipColon with
          | .error fault => .error fault
          | .ok rest => skipFrom fuel .value stack rest
      | _ => .error .malformed
  | fuel + 1, .value, stack, text =>
      match skipSpace text with
      | '[' :: rest => skipFrom fuel .opened (.list :: stack) rest
      | '{' :: rest => skipFrom fuel .opened (.object :: stack) rest
      | other =>
          match skipScalar other with
          | .error fault => .error fault
          | .ok rest => skipFrom fuel .done stack rest

def skipValue (text : List Char) : Except Fault (List Char) :=
  skipFrom (2 * text.length + 2) .value [] text

end Json
end SpokenSales
