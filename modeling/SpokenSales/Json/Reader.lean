import SpokenSales.Json.Skip

/-!
# Readers

A reader takes a value of a certain shape off the beginning of a text.  It reports the first
fault from the left: a value of the wrong shape is only reported once it is known to be well
formed as far as a reader has to look at it.
-/

namespace SpokenSales
namespace Json

open Text

/-- Takes a value off the beginning of a text, and leaves the rest. -/
abbrev Reader (α : Type) : Type :=
  List Char → Except Fault (α × List Char)

def wrongShape (text : List Char) : Fault :=
  match text with
  | [] => .truncated
  | '[' :: _ => .mismatch .invalidType
  | '{' :: _ => .mismatch .invalidType
  | '"' :: rest =>
      match Quoted.read rest with
      | .error fault => fault
      | .ok _ => .mismatch .invalidType
  | c :: rest =>
      if Numeral.startsNumber c then
        match readNumber (c :: rest) with
        | .error fault => fault
        | .ok _ => .mismatch .invalidType
      else
        match skipScalar (c :: rest) with
        | .error fault => fault
        | .ok _ => .mismatch .invalidType

def readString : Reader (List Char) := fun text =>
  match skipSpace text with
  | '"' :: rest => Quoted.read rest
  | other => .error (wrongShape other)

def readWritten (value? : List Char → Option α) (reason : Mismatch) : Reader α := fun text =>
  match readString text with
  | .error fault => .error fault
  | .ok (found, rest) =>
      match value? found with
      | some value => .ok (value, rest)
      | none => .error (.mismatch reason)

def Number.integer? : Number → Option Int
  | natural n => some n
  | negative n => some (-n)
  | double => none

def readInteger (low high : Int) : Reader Int := fun text =>
  match skipSpace text with
  | [] => .error .truncated
  | c :: rest =>
      if Numeral.startsNumber c then
        match readNumber (c :: rest) with
        | .error fault => .error fault
        | .ok (number, rest) =>
            match number.integer? with
            | none => .error (.mismatch .invalidType)
            | some n =>
                if low ≤ n ∧ n ≤ high then .ok (n, rest) else .error (.mismatch .invalidValue)
      else .error (wrongShape (c :: rest))

def readOptional (reader : Reader α) : Reader (Option α) := fun text =>
  match skipSpace text with
  | 'n' :: rest =>
      match skipLetters "ull".toList rest with
      | .error fault => .error fault
      | .ok rest => .ok (none, rest)
  | other =>
      match reader other with
      | .error fault => .error fault
      | .ok (value, rest) => .ok (some value, rest)

def readNull (text : List Char) : Except Fault (List Char) :=
  match skipSpace text with
  | 'n' :: rest => skipLetters "ull".toList rest
  | other => .error (wrongShape other)

/-! ## Lists -/

/-- Looks for the next element of a list whose bracket has been read: the text at the element, or
nothing if the list is about to close. -/
def nextElement? (first : Bool) (text : List Char) : Except Fault (Option (List Char)) :=
  match skipSpace text with
  | [] => .error .truncated
  | ']' :: _ => .ok none
  | c :: rest =>
      if first then .ok (some (c :: rest))
      else if c = ',' then
        match skipSpace rest with
        | [] => .error .truncated
        | ']' :: _ => .error .malformed
        | other => .ok (some other)
      else .error .malformed

def closeList (text : List Char) : Except Fault (List Char) :=
  match skipSpace text with
  | [] => .error .truncated
  | ']' :: rest => .ok rest
  | _ => .error .malformed

/-- Reads the elements of a list up to its closing bracket.  Every element takes at least one
character, so the fuel need only be the length of the text. -/
def readElements (reader : Reader α) : Nat → Bool → Reader (List α)
  | 0, _, _ => .error .truncated
  | fuel + 1, first, text =>
      match nextElement? first text with
      | .error fault => .error fault
      | .ok none =>
          match closeList text with
          | .error fault => .error fault
          | .ok rest => .ok ([], rest)
      | .ok (some text) =>
          match reader text with
          | .error fault => .error fault
          | .ok (value, rest) =>
              match readElements reader fuel false rest with
              | .error fault => .error fault
              | .ok (values, rest) => .ok (value :: values, rest)

def readList (reader : Reader α) : Reader (List α) := fun text =>
  match skipSpace text with
  | '[' :: rest => readElements reader (rest.length + 1) true rest
  | other => .error (wrongShape other)

def readPosition (first : Bool) (reader : Reader α) : Reader α := fun text =>
  match nextElement? first text with
  | .error fault => .error fault
  | .ok none => .error (.mismatch .invalidLength)
  | .ok (some text) => reader text

/-! ## Objects -/

/-- What a reader of objects does with a member: given the key, the state so far and the text
right after the key, it takes the colon and the value and updates the state. -/
abbrev MemberReader (σ : Type) : Type :=
  List Char → σ → Reader σ

def readMember (reader : Reader α) (put : α → σ) : Reader σ := fun text =>
  match skipColon text with
  | .error fault => .error fault
  | .ok text =>
      match reader text with
      | .error fault => .error fault
      | .ok (value, rest) => .ok (put value, rest)

def readOnce (name : String) (seen : Option α) (reader : Reader α) (put : α → σ) : Reader σ :=
  fun text =>
    match seen with
    | some _ => .error (.mismatch (.duplicateField name))
    | none => readMember reader put text

def skipMember (state : σ) : Reader σ := fun text =>
  match (skipColon text).bind skipValue with
  | .error fault => .error fault
  | .ok rest => .ok (state, rest)

/-- Looks for the next member of an object whose brace has been read: the text after the quote
that opens its key, or after the closing brace on the right. -/
def nextMember? (first : Bool) (text : List Char) :
    Except Fault (List Char ⊕ List Char) :=
  match skipSpace text with
  | [] => .error .truncated
  | '}' :: rest => .ok (.inr rest)
  | c :: rest =>
      if first then
        if c = '"' then .ok (.inl rest) else .error .malformed
      else if c = ',' then
        match skipSpace rest with
        | [] => .error .truncated
        | '"' :: rest => .ok (.inl rest)
        | _ => .error .malformed
      else .error .malformed

/-- Reads the members of an object up to its closing brace.  Every member takes at least one
character, so the fuel need only be the length of the text. -/
def readMembers (member : MemberReader σ) : Nat → Bool → σ → Reader σ
  | 0, _, _, _ => .error .truncated
  | fuel + 1, first, state, text =>
      match nextMember? first text with
      | .error fault => .error fault
      | .ok (.inr rest) => .ok (state, rest)
      | .ok (.inl text) =>
          match Quoted.read text with
          | .error fault => .error fault
          | .ok (key, text) =>
              match member key state text with
              | .error fault => .error fault
              | .ok (state, rest) => readMembers member fuel false state rest

/-- Reads a record, which is written as an object or as the list of its fields.  `complete` turns
the state after the last member into the record, and `fields` reads the elements of the list. -/
def readRecord (start : σ) (member : MemberReader σ) (complete : σ → Except Mismatch α)
    (fields : Reader α) : Reader α := fun text =>
  match skipSpace text with
  | '{' :: rest =>
      match readMembers member (rest.length + 1) true start rest with
      | .error fault => .error fault
      | .ok (state, rest) =>
          match complete state with
          | .error reason => .error (.mismatch reason)
          | .ok value => .ok (value, rest)
  | '[' :: rest =>
      match fields rest with
      | .error fault => .error fault
      | .ok (value, rest) =>
          match closeList rest with
          | .error fault => .error fault
          | .ok rest => .ok (value, rest)
  | other => .error (wrongShape other)

def required (name : String) : Option α → Except Mismatch α
  | some value => .ok value
  | none => .error (.missingField name)

def readAll (reader : Reader α) (text : List Char) : Except Fault α :=
  match reader text with
  | .error fault => .error fault
  | .ok (value, rest) => if (skipSpace rest).isEmpty then .ok value else .error .malformed

end Json
end SpokenSales
