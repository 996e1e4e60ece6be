import SpokenSales.Text.WordChar

/-!
# Words

A text is cut into its words, which are the maximal runs of word characters, and the single
characters between them.  Joining the pieces gives the text back.
-/

namespace SpokenSales
namespace Text

/-- A whole word, or one character that belongs to no word. -/
inductive Piece
  | word (letters : List Char)
  | gap (c : Char)
deriving DecidableEq, Repr

namespace Piece

def chars : Piece → List Char
  | word letters => letters
  | gap c => [c]

def letters? : Piece → Option (List Char)
  | word letters => some letters
  | gap _ => none

end Piece

def extend (c : Char) : List Piece → List Piece
  | .word letters :: more => .word (c :: letters) :: more
  | more => .word [c] :: more

def pieces : List Char → List Piece
  | [] => []
  | c :: rest => if isWordChar c then extend c (pieces rest) else .gap c :: pieces rest

def join (parts : List Piece) : List Char :=
  parts.flatMap Piece.chars

def words (text : List Char) : List (List Char) :=
  (pieces text).filterMap Piece.letters?

/-- The first word that means something to `meaning`, and the pieces after it. -/
def firstWord? (meaning : List Char → Option α) : List Piece → Option (α × List Piece)
  | [] => none
  | .gap _ :: rest => firstWord? meaning rest
  | .word letters :: rest =>
      match meaning letters with
      | some value => some (value, rest)
      | none => firstWord? meaning rest

@[simp] theorem join_cons (part : Piece) (rest : List Piece) :
    join (part :: rest) = part.chars ++ join rest := rfl

@[simp] theorem join_extend (c : Char) (parts : List Piece) :
    join (extend c parts) = c :: join parts := by
  cases parts with
  | nil =>
      rfl
  | cons part more =>
      cases part <;> rfl

@[simp] theorem join_pieces (text : List Char) : join (pieces text) = text := by
  induction text with
  | nil =>
      rfl
  | cons c rest ih =>
      unfold pieces
      split
      · rw [join_extend, ih]
      · rw [join_cons, ih]
        rfl

/-!
## Cutting at a gap

A character outside words cuts the text in two, and neither side sees the other.
-/

theorem extend_append_gap (b c : Char) (parts more : List Piece) :
    extend b (parts ++ .gap c :: more) = extend b parts ++ .gap c :: more := by
  cases parts with
  | nil =>
      rfl
  | cons part rest =>
      cases part <;> rfl

theorem pieces_append_gap {c : Char} (hc : isWordChar c = false) (before after : List Char) :
    pieces (before ++ c :: after) = pieces before ++ .gap c :: pieces after := by
  induction before with
  | nil =>
      simp [pieces, hc]
  | cons b before ih =>
      by_cases hb : isWordChar b = true
      · simp only [List.cons_append, pieces, hb, if_true, ih]
        exact extend_append_gap b c (pieces before) (pieces after)
      · simp [pieces, hb, ih]

end Text
end SpokenSales
