import SpokenSales.Proofs.Command.Normal

/-!
# Sentences

A sentence is made of texts with single spaces between them.  A space keeps the texts apart: no
case rule, no word and no number reaches across it.  A space at the beginning changes nothing, so
that every text of a sentence may be taken to follow a space.
-/

namespace SpokenSales
namespace Command

open Text Vocabulary

def sentence (texts : List (List Char)) : List Char :=
  [' '].intercalate texts

def spaced (texts : List (List Char)) : List Char :=
  texts.flatMap fun text => ' ' :: text

@[simp] theorem spaced_cons (text : List Char) (texts : List (List Char)) :
    spaced (text :: texts) = ' ' :: (text ++ spaced texts) := rfl

@[simp] theorem spaced_append (texts more : List (List Char)) :
    spaced (texts ++ more) = spaced texts ++ spaced more :=
  List.flatMap_append

theorem cons_sentence (text : List Char) (texts : List (List Char)) :
    ' ' :: sentence (text :: texts) = spaced (text :: texts) := by
  induction texts generalizing text with
  | nil =>
      rw [sentence, List.intercalate_singleton, spaced_cons]
      exact congrArg (List.cons ' ') (List.append_nil text).symm
  | cons next texts ih =>
      rw [spaced_cons, ← ih, sentence, List.intercalate_cons_cons, List.append_assoc]
      rfl

/-!
## Words of a sentence
-/

theorem isWordChar_space : isWordChar ' ' = false := by
  decide

theorem startsInGap_spaced (texts : List (List Char)) : StartsInGap (spaced texts) := by
  cases texts with
  | nil =>
      exact startsInGap_nil
  | cons text texts =>
      exact startsInGap_cons isWordChar_space (text ++ spaced texts)

theorem pieces_spaced_cons (text : List Char) (texts : List (List Char)) :
    pieces (spaced (text :: texts)) = .gap ' ' :: (pieces text ++ pieces (spaced texts)) := by
  rw [spaced_cons, pieces_cons_gap isWordChar_space,
    pieces_append_of_startsInGap (startsInGap_spaced texts)]

theorem pieces_spaced_append (texts more : List (List Char)) :
    pieces (spaced (texts ++ more)) = pieces (spaced texts) ++ pieces (spaced more) := by
  rw [spaced_append, pieces_append_of_startsInGap (startsInGap_spaced more)]

theorem words_spaced (texts : List (List Char)) : words (spaced texts) = texts.flatMap words := by
  induction texts with
  | nil =>
      rfl
  | cons text texts ih =>
      unfold words at ih ⊢
      rw [pieces_spaced_cons, List.filterMap_cons_none rfl, List.filterMap_append, ih]
      rfl

/-!
## The normal form of a sentence
-/

theorem normalize_append_space (text rest : List Char) :
    normalize (text ++ ' ' :: rest) = normalize text ++ ' ' :: normalize rest :=
  normalize_append_gap (by decide) (by decide) isWordChar_space text rest

theorem normalize_nil : normalize [] = [] := rfl

theorem normalize_cons_space (text : List Char) :
    normalize (' ' :: text) = ' ' :: normalize text :=
  normalize_append_space [] text

theorem normalize_spaced (texts : List (List Char)) :
    normalize (spaced texts) = spaced (texts.map normalize) := by
  induction texts with
  | nil =>
      rfl
  | cons text texts ih =>
      rw [List.map_cons, spaced_cons, spaced_cons, normalize_cons_space, ← ih]
      cases texts with
      | nil =>
          rw [show spaced [] = [] from rfl, normalize_nil, List.append_nil, List.append_nil]
      | cons next texts =>
          rw [spaced_cons, normalize_append_space, normalize_cons_space]

/-!
## Spaces in front
-/

theorem ranked?_cons_space (text : List Char) : ranked? (' ' :: text) = ranked? text := by
  unfold ranked?
  rw [pieces_cons_gap isWordChar_space]
  rfl

theorem unlimited?_cons_space (text : List Char) :
    unlimited? (' ' :: text) = unlimited? text := by
  unfold unlimited? words
  rw [pieces_cons_gap isWordChar_space]
  rfl

theorem monthYear?_cons_space (text : List Char) :
    monthYear? (' ' :: text) = monthYear? text := by
  unfold monthYear? words
  rw [pieces_cons_gap isWordChar_space]
  rfl

theorem query?_cons_space (shape : Shape) (text : List Char) :
    shape.query? (' ' :: text) = shape.query? text := by
  cases shape with
  | ranked =>
      exact ranked?_cons_space text
  | unlimited =>
      exact unlimited?_cons_space text
  | monthYear =>
      exact monthYear?_cons_space text

theorem parse_cons_space (text : List Char) : parse (' ' :: text) = parse text := by
  unfold parse recognize?
  rw [normalize_cons_space]
  simp only [query?_cons_space]

theorem parse_sentence (texts : List (List Char)) :
    parse (sentence texts) = parse (spaced texts) := by
  cases texts with
  | nil =>
      rfl
  | cons text texts =>
      rw [← cons_sentence, parse_cons_space]

/-!
## Words that mean nothing

The search for a word that means something passes over all others.
-/

theorem firstWord?_append {meaning : List Char → Option α} {front : List Piece}
    (h : ∀ word ∈ front.filterMap Piece.letters?, meaning word = none) (rest : List Piece) :
    firstWord? meaning (front ++ rest) = firstWord? meaning rest := by
  induction front with
  | nil =>
      rfl
  | cons part front ih =>
      cases part with
      | gap c =>
          exact ih h
      | word letters =>
          have hletters : meaning letters = none := h letters List.mem_cons_self
          rw [List.cons_append, firstWord?, hletters]
          exact ih fun word hword => h word (List.mem_cons_of_mem letters hword)

theorem firstWord?_eq_none {meaning : List Char → Option α} {text : List Char}
    (h : ∀ word ∈ words text, meaning word = none) : firstWord? meaning (pieces text) = none := by
  have hall := firstWord?_append h []
  rw [List.append_nil] at hall
  exact hall

theorem ranked?_eq_none {text : List Char} (h : ∀ word ∈ words text, ranking? word = none) :
    ranked? text = none := by
  unfold ranked?
  rw [firstWord?_eq_none h]

theorem any_ranking?_eq_false {heard : List (List Char)}
    (h : ∀ word ∈ heard, ranking? word = none) :
    (heard.any fun word => (ranking? word).isSome) = false := by
  apply List.any_eq_false.mpr
  intro word hword
  rw [h word hword]
  exact Bool.false_ne_true

theorem unlimited?_eq_none {text : List Char} (h : ∀ word ∈ words text, all? word = none) :
    unlimited? text = none := by
  have hfirst : firstWord? all? (pieces text) = none := firstWord?_eq_none h
  unfold all? at hfirst
  unfold unlimited?
  split
  · rfl
  · rw [hfirst]

theorem neighbours?_append {front : List Piece}
    (h : ∀ word ∈ front.filterMap Piece.letters?, month? word = none ∧ year? word = none)
    (rest : List Piece) : neighbours? (front ++ rest) = neighbours? rest := by
  induction front with
  | nil =>
      rfl
  | cons part front ih =>
      cases part with
      | gap c =>
          exact ih h
      | word letters =>
          rcases h letters List.mem_cons_self with ⟨hmonth, hyear⟩
          have hpair : ∀ next, monthAndYear? letters next = none := by
            intro next
            unfold monthAndYear?
            rw [hmonth, hyear]
            cases month? next <;> rfl
          have hbind : (nextWord? false (front ++ rest)).bind (monthAndYear? letters) = none := by
            cases nextWord? false (front ++ rest) with
            | none =>
                rfl
            | some next =>
                exact hpair next
          rw [List.cons_append, neighbours?, hbind]
          exact ih fun word hword => h word (List.mem_cons_of_mem letters hword)

/-!
## The first digits
-/

theorem firstDigits?_append {front digits rest : List Char}
    (hfront : ∀ c ∈ front, isDigit c = false) (hdigits : ∀ c ∈ digits, isDigit c = true)
    (hne : digits ≠ []) (hrest : EndsDigits rest) :
    firstDigits? (front ++ (digits ++ rest)) = some (digits, rest) := by
  have hdrop : (front ++ (digits ++ rest)).dropWhile (fun c => !isDigit c) = digits ++ rest := by
    rw [List.dropWhile_append_of_pos]
    · cases digits with
      | nil =>
          exact absurd rfl hne
      | cons d digits =>
          rw [List.cons_append, List.dropWhile_cons, hdigits d List.mem_cons_self]
          rfl
    · intro c hc
      rw [hfront c hc]
      rfl
  have hempty : (digits ++ rest).isEmpty = false := by
    cases digits with
    | nil =>
        exact absurd rfl hne
    | cons d digits =>
        rfl
  unfold firstDigits?
  simp only [hdrop, hempty]
  rw [takeWhile_isDigit_append hdigits hrest, dropWhile_isDigit_append hdigits hrest]
  rfl

/-!
## Sentences that have a shape
-/

theorem firstWord?_spaced {meaning : List Char → Option α} {value : α}
    {before after : List (List Char)} {keyword : List Char}
    (hbefore : ∀ word ∈ before.flatMap words, meaning word = none) (hword : IsWord keyword)
    (hkeyword : meaning keyword = some value) :
    firstWord? meaning (pieces (spaced (before ++ keyword :: after))) =
      some (value, pieces (spaced after)) := by
  rw [← words_spaced] at hbefore
  rw [pieces_spaced_append, firstWord?_append hbefore, pieces_spaced_cons, pieces_word hword,
    List.singleton_append, firstWord?, firstWord?, hkeyword]

theorem ranked?_spaced {before between after : List (List Char)} {keyword digits : List Char}
    {kind : Kind} {count : UInt32} (hbefore : ∀ word ∈ before.flatMap words, ranking? word = none)
    (hword : IsWord keyword) (hkeyword : ranking? keyword = some kind)
    (hbetween : ∀ text ∈ between, ∀ c ∈ text, isDigit c = false)
    (hdigits : ∀ c ∈ digits, isDigit c = true) (hcount : count? digits = some count) :
    ranked? (spaced (before ++ keyword :: (between ++ digits :: after))) =
      some ⟨kind, some count, firstMonth? (after.flatMap words),
        firstYear? (after.flatMap words)⟩ := by
  have hfront : ∀ c ∈ spaced between ++ [' '], isDigit c = false := by
    intro c hc
    rcases List.mem_append.mp hc with hmem | hspace
    · rcases List.mem_flatMap.mp hmem with ⟨text, htext, hctext⟩
      rcases List.mem_cons.mp hctext with hspace | hin
      · rw [hspace]
        rfl
      · exact hbetween text htext c hin
    · rw [List.mem_singleton.mp hspace]
      rfl
  have hne : digits ≠ [] := by
    intro hnil
    rw [hnil] at hcount
    cases hcount
  have hafter : EndsDigits (spaced after) := by
    intro c hc
    cases after with
    | nil =>
        cases hc
    | cons text after =>
        cases hc
        rfl
  have hfirst : firstDigits? (spaced (between ++ digits :: after)) =
      some (digits, spaced after) := by
    rw [← firstDigits?_append hfront hdigits hne hafter, spaced_append, spaced_cons,
      List.append_assoc, List.singleton_append]
  unfold ranked?
  rw [firstWord?_spaced hbefore hword hkeyword]
  simp only [join_pieces, hfirst, hcount, words_spaced, Option.map_some]

theorem unlimited?_spaced {before after : List (List Char)} {year : Int32}
    (hranking : ∀ word ∈ (before ++ "all".toList :: after).flatMap words, ranking? word = none)
    (hbefore : ∀ word ∈ before.flatMap words, all? word = none)
    (hyear : firstYear? (after.flatMap words) = some year) :
    unlimited? (spaced (before ++ "all".toList :: after)) =
      some (Query.all (firstMonth? (after.flatMap words)) (some year)) := by
  have hword : IsWord "all".toList := isWord_of_mem_spokenWords (by decide)
  have hmeaning : all? "all".toList = some () := by
    decide
  have hfirst : firstWord? all? (pieces (spaced (before ++ "all".toList :: after))) =
      some ((), pieces (spaced after)) :=
    firstWord?_spaced hbefore hword hmeaning
  have hheard : (pieces (spaced after)).filterMap Piece.letters? = after.flatMap words :=
    words_spaced after
  unfold all? at hfirst
  unfold unlimited?
  rw [words_spaced, any_ranking?_eq_false hranking, hfirst]
  simp only [hheard, hyear]
  rfl

theorem neighbours?_pair {first second : List Char} {found : UInt32 × Int32} (rest : List Piece)
    (h : monthAndYear? first second = some found) :
    neighbours? (.word first :: .gap ' ' :: .word second :: rest) = some found := by
  have hnext : nextWord? false (.gap ' ' :: .word second :: rest) = some second := rfl
  rw [neighbours?, hnext, Option.bind_some, h]

theorem monthYear?_spaced {before after : List (List Char)} {first second : List Char}
    {month : UInt32} {year : Int32}
    (hkeyword : ∀ word ∈ (before ++ first :: second :: after).flatMap words,
      word ∉ keywords.map String.toList)
    (hbefore : ∀ word ∈ before.flatMap words, month? word = none ∧ year? word = none)
    (hfirst : IsWord first) (hsecond : IsWord second)
    (hpair : monthAndYear? first second = some (month, year)) :
    monthYear? (spaced (before ++ first :: second :: after)) =
      some (Query.all (some month) (some year)) := by
  have hany : ((before ++ first :: second :: after).flatMap words).any
      (fun word => (ranking? word).isSome || isAll word) = false := by
    apply List.any_eq_false.mpr
    intro word hword
    rw [ranking?_eq_none_of_not_mem (hkeyword word hword),
      isAll_eq_false_of_not_mem (hkeyword word hword)]
    exact Bool.false_ne_true
  rw [← words_spaced] at hbefore
  unfold monthYear?
  rw [words_spaced, hany, pieces_spaced_append, neighbours?_append hbefore, pieces_spaced_cons,
    pieces_word hfirst, pieces_spaced_cons, pieces_word hsecond]
  rw [List.singleton_append, List.singleton_append, neighbours?, neighbours?_pair _ hpair]
  rfl

/-!
## The first shape that fits
-/

theorem parse_of_ranked? {text : List Char} {query : Query}
    (h : ranked? (normalize text) = some query) : parse text = query := by
  have hshape : Shape.ranked.query? (normalize text) = some query := h
  unfold parse recognize? shapes
  rw [List.findSome?_cons, hshape]
  rfl

theorem parse_of_unlimited? {text : List Char} {query : Query}
    (hranked : ranked? (normalize text) = none)
    (h : unlimited? (normalize text) = some query) : parse text = query := by
  have hnone : Shape.ranked.query? (normalize text) = none := hranked
  have hshape : Shape.unlimited.query? (normalize text) = some query := h
  unfold parse recognize? shapes
  rw [List.findSome?_cons, hnone, Option.map_none, List.findSome?_cons, hshape]
  rfl

theorem parse_of_monthYear? {text : List Char} {query : Query}
    (hranked : ranked? (normalize text) = none) (hunlimited : unlimited? (normalize text) = none)
    (h : monthYear? (normalize text) = some query) : parse text = query := by
  have hnone : Shape.ranked.query? (normalize text) = none := hranked
  have hnone' : Shape.unlimited.query? (normalize text) = none := hunlimited
  have hshape : Shape.monthYear.query? (normalize text) = some query := h
  unfold parse recognize? shapes
  rw [List.findSome?_cons, hnone, Option.map_none, List.findSome?_cons, hnone', Option.map_none,
    List.findSome?_cons, hshape]
  rfl

end Command
end SpokenSales
