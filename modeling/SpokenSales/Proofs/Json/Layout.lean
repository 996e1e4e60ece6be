import Mathlib.Data.List.DropRight
import SpokenSales.Json.Reader
import SpokenSales.Json.Writer
import SpokenSales.Proofs.Json.Numeral
import SpokenSales.Proofs.Json.Quoted

/-!
# Layout

There may be space around every value of a list and around every part of a member of an object.
A list or an object is laid out by what it consists of and by the space in it.
-/

namespace SpokenSales
namespace Json

open Text

/-!
## Space
-/

/-- The space at some place of a JSON text. -/
structure Gap where
  text : List Char
  spaces : ∀ c ∈ text, isSpace c = true

def Gap.empty : Gap :=
  ⟨[], List.forall_mem_nil _⟩

def Gap.blank : Gap :=
  ⟨[' '], List.forall_mem_singleton.mpr rfl⟩

theorem skipSpace_cons {c : Char} (hc : isSpace c = false) (rest : List Char) :
    skipSpace (c :: rest) = c :: rest := by
  unfold skipSpace
  rw [List.dropWhile_cons, hc]
  rfl

theorem skipSpace_skipSpace (text : List Char) : skipSpace (skipSpace text) = skipSpace text :=
  List.dropWhile_idempotent isSpace text

theorem Gap.skipSpace_append (gap : Gap) (rest : List Char) :
    skipSpace (gap.text ++ rest) = skipSpace rest :=
  List.dropWhile_append_of_pos gap.spaces

theorem Gap.endsNumber_append (gap : Gap) {rest : List Char} (h : EndsNumber rest) :
    EndsNumber (gap.text ++ rest) := by
  intro c hc
  cases htext : gap.text with
  | nil =>
      rw [htext] at hc
      exact h c hc
  | cons d more =>
      have hd : isSpace d = true := gap.spaces d (by rw [htext]; exact List.mem_cons_self)
      rw [htext, List.cons_append, List.head?_cons] at hc
      cases hc
      simp only [isSpace, Bool.or_eq_true, decide_eq_true_eq] at hd
      rcases hd with ((hd | hd) | hd) | hd <;> rw [hd] <;> decide

/-!
## Commas

All parts but the first follow a comma.
-/

def following (texts : List (List Char)) : List Char :=
  texts.flatMap fun text => ',' :: text

theorem following_cons (text : List Char) (texts : List (List Char)) :
    following (text :: texts) = ',' :: (text ++ following texts) := rfl

theorem commaSeparated_cons (text : List Char) (texts : List (List Char)) :
    commaSeparated (text :: texts) = text ++ following texts := by
  induction texts generalizing text with
  | nil =>
      exact (List.append_nil text).symm
  | cons next texts ih =>
      rw [commaSeparated, ih, following_cons]
      exact List.cons_ne_nil next texts

theorem length_le_following (texts : List (List Char)) :
    texts.length ≤ (following texts).length := by
  induction texts with
  | nil =>
      exact Nat.le_refl 0
  | cons text texts ih =>
      rw [following_cons, List.length_cons, List.length_cons, List.length_append]
      omega

theorem length_le_commaSeparated (texts : List (List Char)) :
    texts.length ≤ (commaSeparated texts).length + 1 := by
  cases texts with
  | nil =>
      exact Nat.zero_le 1
  | cons text texts =>
      have hle := length_le_following texts
      rw [commaSeparated_cons, List.length_cons, List.length_append]
      omega

/-- What follows a part of a list or an object: the space behind it, the other parts, the space
before the closing character, that character, and what comes after it. -/
def remainder (gap : Gap) (texts : List (List Char)) (last : Gap) (closing : Char)
    (rest : List Char) : List Char :=
  gap.text ++ (following texts ++ (last.text ++ closing :: rest))

theorem endsNumber_remainder {closing : Char} {rest : List Char}
    (hclosing : EndsNumber (closing :: rest)) (gap : Gap) (texts : List (List Char))
    (last : Gap) : EndsNumber (remainder gap texts last closing rest) := by
  apply gap.endsNumber_append
  cases texts with
  | nil =>
      exact last.endsNumber_append hclosing
  | cons text texts =>
      exact endsNumber_cons (by decide) _

theorem skipSpace_remainder_nil {closing : Char} (hclosing : isSpace closing = false)
    (gap last : Gap) (rest : List Char) :
    skipSpace (remainder gap [] last closing rest) = closing :: rest := by
  unfold remainder
  rw [gap.skipSpace_append]
  exact (last.skipSpace_append _).trans (skipSpace_cons hclosing rest)

theorem skipSpace_remainder_cons (gap : Gap) (text : List Char) (texts : List (List Char))
    (last : Gap) (closing : Char) (rest : List Char) :
    skipSpace (remainder gap (text :: texts) last closing rest) =
      ',' :: (text ++ (following texts ++ (last.text ++ closing :: rest))) := by
  unfold remainder
  rw [gap.skipSpace_append, following_cons, List.cons_append, skipSpace_cons (by decide),
    List.append_assoc]

/-!
## Lists and objects
-/

def quoted (body : List Char) : List Char :=
  '"' :: (body ++ ['"'])

def IsString (value text : List Char) : Prop :=
  ∃ body, value = quoted body ∧ Quoted.Spells body text

structure Element where
  before : Gap
  value : List Char
  after : Gap

def Element.text (element : Element) : List Char :=
  element.before.text ++ (element.value ++ element.after.text)

/-- A member of an object, with the space around its parts.  The key is what stands between the
quotes. -/
structure Member where
  before : Gap
  key : List Char
  beforeColon : Gap
  afterColon : Gap
  value : List Char
  after : Gap

def Member.fromColon (part : Member) (rest : List Char) : List Char :=
  part.beforeColon.text ++ ':' :: (part.afterColon.text ++ (part.value ++ rest))

def Member.text (part : Member) : List Char :=
  part.before.text ++ '"' :: (part.key ++ '"' :: part.fromColon part.after.text)

/-- The text of a list, with the space before its closing bracket. -/
def listText (elements : List Element) (last : Gap) : List Char :=
  '[' :: (commaSeparated (elements.map Element.text) ++ (last.text ++ [']']))

def objectText (parts : List Member) (last : Gap) : List Char :=
  '{' :: (commaSeparated (parts.map Member.text) ++ (last.text ++ ['}']))

def Member.IsNamed (part : Member) (name : String) : Prop :=
  Quoted.Spells part.key name.toList

instance (part : Member) (name : String) : Decidable (part.IsNamed name) :=
  inferInstanceAs (Decidable (Quoted.Spells part.key name.toList))

def Lacks (parts : List Member) (name : String) : Prop :=
  ∀ part ∈ parts, ¬part.IsNamed name

def Repeats (parts : List Member) (name : String) : Prop :=
  ∃ before first between second after, parts = before ++ first :: (between ++ second :: after) ∧
    first.IsNamed name ∧ second.IsNamed name

theorem Member.IsNamed.eq {part : Member} {name other : String} (h : part.IsNamed name)
    (hother : part.IsNamed other) : name = other :=
  String.toList_injective (h.unique hother)

theorem Element.text_append (element : Element) (rest : List Char) :
    element.text ++ rest = element.before.text ++ (element.value ++ (element.after.text ++ rest)) :=
  by
    unfold Element.text
    rw [List.append_assoc, List.append_assoc]

theorem Member.text_append (part : Member) (rest : List Char) :
    part.text ++ rest =
      part.before.text ++ '"' :: (part.key ++ '"' :: part.fromColon (part.after.text ++ rest)) := by
  unfold Member.text fromColon
  simp only [List.append_assoc, List.cons_append]

theorem listText_append (elements : List Element) (last : Gap) (rest : List Char) :
    listText elements last ++ rest =
      '[' :: (commaSeparated (elements.map Element.text) ++ (last.text ++ ']' :: rest)) := by
  unfold listText
  simp only [List.cons_append, List.append_assoc, List.nil_append]

theorem objectText_append (parts : List Member) (last : Gap) (rest : List Char) :
    objectText parts last ++ rest =
      '{' :: (commaSeparated (parts.map Member.text) ++ (last.text ++ '}' :: rest)) := by
  unfold objectText
  simp only [List.cons_append, List.append_assoc, List.nil_append]

/-!
## Compact parts
-/

def Element.compact (value : List Char) : Element :=
  ⟨.empty, value, .empty⟩

/-- The member that an entry of a written object is. -/
def Member.compact (entry : String × List Char) : Member :=
  ⟨.empty, entry.1.toList.flatMap Quoted.escaped, .empty, .empty, entry.2, .empty⟩

theorem Member.isNamed_compact (entry : String × List Char) :
    (Member.compact entry).IsNamed entry.1 :=
  Quoted.spells_flatMap_escaped entry.1.toList

theorem Element.text_compact (value : List Char) : (Element.compact value).text = value :=
  List.append_nil value

theorem Member.text_compact (entry : String × List Char) :
    (Member.compact entry).text = Json.member entry := by
  have hvalue : (Member.compact entry).fromColon [] = ':' :: entry.2 :=
    congrArg (':' :: ·) (List.append_nil entry.2)
  unfold Member.text Json.member string Quoted.write
  rw [show (Member.compact entry).after.text = [] from rfl, hvalue]
  simp only [Member.compact, Gap.empty, List.nil_append, List.cons_append, List.append_assoc]

theorem listText_compact (values : List (List Char)) :
    listText (values.map Element.compact) .empty = array values := by
  have htexts : (values.map Element.compact).map Element.text = values := by
    rw [List.map_map]
    exact List.map_id'' Element.text_compact values
  unfold listText array
  rw [htexts]
  rfl

theorem objectText_compact (entries : List (String × List Char)) :
    objectText (entries.map Member.compact) .empty = object entries := by
  have htexts : (entries.map Member.compact).map Member.text = entries.map member := by
    rw [List.map_map]
    exact List.map_congr_left fun entry _ => Member.text_compact entry
  unfold objectText object
  rw [htexts]
  rfl

end Json
end SpokenSales
