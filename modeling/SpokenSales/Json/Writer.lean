import SpokenSales.Json.Quoted

/-!
# Writing JSON

The compact form: no spaces, one line.  Values are put together from the texts of their parts.
-/

namespace SpokenSales
namespace Json

def null : List Char := "null".toList

def string (text : List Char) : List Char :=
  Quoted.write text

def commaSeparated : List (List Char) → List Char
  | [] => []
  | [text] => text
  | text :: rest => text ++ ',' :: commaSeparated rest

def array (values : List (List Char)) : List Char :=
  '[' :: (commaSeparated values ++ [']'])

def member (entry : String × List Char) : List Char :=
  string entry.1.toList ++ ':' :: entry.2

def object (members : List (String × List Char)) : List Char :=
  '{' :: (commaSeparated (members.map member) ++ ['}'])

end Json
end SpokenSales
