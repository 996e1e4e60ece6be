import SpokenSales.Json.Fault
import SpokenSales.Text.Hexadecimal

/-!
# JSON strings

A string is written between quotes.  Quotes, backslashes and control characters are escaped,
and on reading any character may be written as one or two UTF-16 units in hexadecimal.

A string can also be skipped.  Skipping checks the form of the escapes but not that surrogates
come in pairs.
-/

namespace SpokenSales
namespace Json
namespace Quoted

open Text

def escape? : Char → Option Char
  | '"' => some '"'
  | '\\' => some '\\'
  | '/' => some '/'
  | 'b' => some '\x08'
  | 'f' => some '\x0c'
  | 'n' => some '\n'
  | 'r' => some '\r'
  | 't' => some '\t'
  | _ => none

def isPlain (c : Char) : Bool :=
  0x20 ≤ c.toNat

def isLeading (unit : Nat) : Bool :=
  0xD800 ≤ unit && unit ≤ 0xDBFF

def isTrailing (unit : Nat) : Bool :=
  0xDC00 ≤ unit && unit ≤ 0xDFFF

def paired (leading trailing : Nat) : Char :=
  Char.ofNat (0x10000 + (leading - 0xD800) * 0x400 + (trailing - 0xDC00))

/-- The fault of a text that should begin with four hexadecimal digits and does not.  The digits
are four bytes: fewer than four bytes are a text that ends too early. -/
def hexFault (text : List Char) : Fault :=
  if (String.ofList text).utf8ByteSize < 4 then .truncated else .malformed

/-- The fault of a text that should begin with the escape of a second half and does not. -/
def pairFault : List Char → Fault
  | [] => .truncated
  | ['\\'] => .truncated
  | '\\' :: 'u' :: rest => hexFault rest
  | _ => .malformed

def prepend (c : Char) :
    Except Fault (List Char × List Char) → Except Fault (List Char × List Char)
  | .ok (read, rest) => .ok (c :: read, rest)
  | .error fault => .error fault

def read : List Char → Except Fault (List Char × List Char)
  | [] => .error .truncated
  | '"' :: rest => .ok ([], rest)
  | '\\' :: 'u' :: rest =>
      match rest with
      | a :: b :: c :: d :: tail =>
          match readHex? [a, b, c, d] with
          | none => .error (hexFault (a :: b :: c :: d :: tail))
          | some unit =>
              if isTrailing unit then .error .malformed
              else if isLeading unit then
                match tail with
                | '\\' :: 'u' :: e :: f :: g :: h :: more =>
                    match readHex? [e, f, g, h] with
                    | none => .error (hexFault (e :: f :: g :: h :: more))
                    | some second =>
                        if isTrailing second then prepend (paired unit second) (read more)
                        else .error .malformed
                | other => .error (pairFault other)
              else prepend (Char.ofNat unit) (read tail)
      | short => .error (hexFault short)
  | '\\' :: e :: rest =>
      match escape? e with
      | some c => prepend c (read rest)
      | none => .error .malformed
  | ['\\'] => .error .truncated
  | c :: rest => if isPlain c then prepend c (read rest) else .error .malformed

def skip : List Char → Except Fault (List Char)
  | [] => .error .truncated
  | '"' :: rest => .ok rest
  | '\\' :: 'u' :: rest =>
      match rest with
      | a :: b :: c :: d :: tail =>
          match readHex? [a, b, c, d] with
          | none => .error (hexFault (a :: b :: c :: d :: tail))
          | some _ => skip tail
      | short => .error (hexFault short)
  | '\\' :: e :: rest =>
      match escape? e with
      | some _ => skip rest
      | none => .error .malformed
  | ['\\'] => .error .truncated
  | c :: rest => if isPlain c then skip rest else .error .malformed

def escaped (c : Char) : List Char :=
  if c = '"' then ['\\', '"']
  else if c = '\\' then ['\\', '\\']
  else if c = '\x08' then ['\\', 'b']
  else if c = '\x0c' then ['\\', 'f']
  else if c = '\n' then ['\\', 'n']
  else if c = '\r' then ['\\', 'r']
  else if c = '\t' then ['\\', 't']
  else if isPlain c then [c]
  else '\\' :: 'u' :: fixedHex 4 c.toNat

def write (text : List Char) : List Char :=
  '"' :: (text.flatMap escaped ++ ['"'])

end Quoted
end Json
end SpokenSales
