import Mathlib.Logic.Relation
import SpokenSales.Proofs.Command.Heard
import SpokenSales.Proofs.Command.Sigma
import SpokenSales.Proofs.Text.WordChar
import SpokenSales.Text.Blank

/-!
# The layout of a command

Where a text breaks its lines, how much white space stands between its words and around them, and
which of its ASCII letters are capitals does not matter to what is understood.
-/

namespace SpokenSales

open Text Vocabulary

namespace Text

/-!
## White space
-/

theorem forall_blank {p : Char → Prop}
    (all : ∀ range ∈ blankRanges, ∀ n ∈ List.range (range.2 - range.1 + 1),
      p (Char.ofNat (range.1 + n))) {c : Char} (hc : isBlank c = true) : p c := by
  rcases exists_range_of_within hc with ⟨range, hrange, hfirst, hlast⟩
  have hp := all range hrange (c.toNat - range.1) (List.mem_range.mpr (by omega))
  rwa [Nat.add_sub_cancel' hfirst, Char.ofNat_toNat] at hp

theorem facts_of_isBlank {c : Char} (h : isBlank c = true) :
    isWordChar c = false ∧ lowerIn [] c [] = [c] :=
  forall_blank (p := fun c => isWordChar c = false ∧ lowerIn [] c [] = [c]) (by decide +kernel) h

theorem isWordChar_of_isBlank {c : Char} (h : isBlank c = true) : isWordChar c = false :=
  (facts_of_isBlank h).1

theorem isBlankText_cons {c : Char} {rest : List Char} :
    isBlankText (c :: rest) = true ↔ isBlank c = true ∧ isBlankText rest = true := by
  unfold isBlankText
  rw [List.all_cons, Bool.and_eq_true]

theorem lowercaseApart_blank {blank : List Char} (h : isBlankText blank = true) :
    lowercaseApart blank = blank := by
  induction blank with
  | nil =>
      rfl
  | cons c rest ih =>
      rcases isBlankText_cons.mp h with ⟨hc, hrest⟩
      rw [lowercaseApart_cons, (facts_of_isBlank hc).2, ih hrest]
      rfl

theorem startsInGap_blank {blank : List Char} (h : isBlankText blank = true) :
    StartsInGap blank := by
  cases blank with
  | nil =>
      exact startsInGap_nil
  | cons c blank =>
      exact startsInGap_cons (isWordChar_of_isBlank (isBlankText_cons.mp h).1) blank

theorem startsInGap_blank_append {blank : List Char} (h : isBlankText blank = true)
    (hne : blank ≠ []) (rest : List Char) : StartsInGap (blank ++ rest) := by
  cases blank with
  | nil =>
      exact absurd rfl hne
  | cons c blank =>
      exact startsInGap_cons (isWordChar_of_isBlank (isBlankText_cons.mp h).1) (blank ++ rest)

theorem pieces_blank_append {blank : List Char} (h : isBlankText blank = true)
    (rest : List Char) : pieces (blank ++ rest) = blank.map Piece.gap ++ pieces rest := by
  induction blank with
  | nil =>
      rfl
  | cons c blank ih =>
      rcases isBlankText_cons.mp h with ⟨hc, hblank⟩
      rw [List.cons_append, pieces_cons_gap (isWordChar_of_isBlank hc), ih hblank]
      rfl

theorem words_blank_append {blank : List Char} (h : isBlankText blank = true)
    (rest : List Char) : words (blank ++ rest) = words rest := by
  induction blank with
  | nil =>
      rfl
  | cons c blank ih =>
      rcases isBlankText_cons.mp h with ⟨hc, hblank⟩
      rw [List.cons_append, words_cons_gap (isWordChar_of_isBlank hc), ih hblank]

theorem exists_eq_trim (text : List Char) :
    ∃ front back, text = front ++ trim text ++ back ∧ isBlankText front = true ∧
      isBlankText back = true := by
  refine ⟨text.takeWhile isBlank, ((text.dropWhile isBlank).reverse.takeWhile isBlank).reverse,
    ?_, ?_, ?_⟩
  · unfold trim
    rw [List.append_assoc, ← List.reverse_append, List.takeWhile_append_dropWhile,
      List.reverse_reverse, List.takeWhile_append_dropWhile]
  · exact List.all_takeWhile
  · unfold isBlankText
    rw [List.all_reverse]
    exact List.all_takeWhile

end Text

namespace Command

theorem replaceNumberWords_blank_append {blank : List Char} (h : isBlankText blank = true)
    (rest : List Char) : replaceNumberWords (blank ++ rest) = blank ++ replaceNumberWords rest := by
  induction blank with
  | nil =>
      rfl
  | cons c blank ih =>
      rcases isBlankText_cons.mp h with ⟨hc, hblank⟩
      rw [List.cons_append, replaceNumberWords_cons_gap (isWordChar_of_isBlank hc), ih hblank]
      rfl

/-!
## Neighbours across white space

White space of any kind and length separates a month from its year.
-/

/-- Whether two lists of pieces are the same to every word that stands before them, and to the
search for a month and its year. -/
structure SameNeighbours (parts other : List Piece) : Prop where
  next : ∀ separated, nextWord? separated parts = nextWord? separated other
  found : neighbours? parts = neighbours? other

theorem SameNeighbours.cons {parts other : List Piece} (h : SameNeighbours parts other)
    (part : Piece) : SameNeighbours (part :: parts) (part :: other) := by
  cases part with
  | gap c =>
      constructor
      · intro separated
        rw [nextWord?, nextWord?, h.next]
      · exact h.found
  | word letters =>
      constructor
      · intro separated
        rfl
      · rw [neighbours?, neighbours?, h.next, h.found]

theorem SameNeighbours.append {parts other : List Piece} (h : SameNeighbours parts other)
    (front : List Piece) : SameNeighbours (front ++ parts) (front ++ other) := by
  induction front with
  | nil =>
      exact h
  | cons part front ih =>
      exact ih.cons part

theorem neighbours?_blank_append (blank : List Char) (rest : List Piece) :
    neighbours? (blank.map Piece.gap ++ rest) = neighbours? rest := by
  induction blank with
  | nil =>
      rfl
  | cons c blank ih =>
      exact ih

theorem nextWord?_cons_blank {c : Char} (hc : isBlank c = true) (separated : Bool)
    (rest : List Piece) : nextWord? separated (.gap c :: rest) = nextWord? true rest := by
  have hseparator : isSeparator c = true := by
    unfold isSeparator
    rw [hc]
    rfl
  rw [nextWord?, if_pos hseparator]

theorem nextWord?_blank_append {blank : List Char} (h : isBlankText blank = true)
    (hne : blank ≠ []) (separated : Bool) (rest : List Piece) :
    nextWord? separated (blank.map Piece.gap ++ rest) = nextWord? true rest := by
  induction blank generalizing separated with
  | nil =>
      exact absurd rfl hne
  | cons c blank ih =>
      rcases isBlankText_cons.mp h with ⟨hc, hblank⟩
      rw [List.map_cons, List.cons_append, nextWord?_cons_blank hc]
      cases blank with
      | nil =>
          rfl
      | cons d blank =>
          exact ih hblank (List.cons_ne_nil d blank) true

theorem sameNeighbours_blanks {blank other : List Char} (hblank : isBlankText blank = true)
    (hother : isBlankText other = true) (hne : blank ≠ []) (hne' : other ≠ [])
    (rest : List Char) : SameNeighbours (pieces (blank ++ rest)) (pieces (other ++ rest)) := by
  rw [pieces_blank_append hblank, pieces_blank_append hother]
  constructor
  · intro separated
    rw [nextWord?_blank_append hblank hne, nextWord?_blank_append hother hne']
  · rw [neighbours?_blank_append, neighbours?_blank_append]

theorem sameNeighbours_trailing {blank : List Char} (h : isBlankText blank = true) :
    SameNeighbours (pieces blank) (pieces []) := by
  have hpieces := pieces_blank_append h []
  rw [List.append_nil] at hpieces
  rw [hpieces]
  constructor
  · intro separated
    cases blank with
    | nil =>
        rfl
    | cons c blank =>
        rw [nextWord?_blank_append h (List.cons_ne_nil c blank)]
        rfl
  · rw [neighbours?_blank_append]

/-!
## Recognizing a text in another layout

The words and the neighbours decide what is recognized.
-/

theorem monthYear?_congr {text other : List Char} (hwords : words text = words other)
    (hfound : neighbours? (pieces text) = neighbours? (pieces other)) :
    monthYear? text = monthYear? other := by
  unfold monthYear?
  rw [hwords, hfound]

theorem recognize?_congr {text other : List Char} (hwords : words text = words other)
    (hfound : neighbours? (pieces text) = neighbours? (pieces other)) :
    recognize? text = recognize? other := by
  have hquery : ∀ shape : Shape, shape.query? text = shape.query? other := by
    intro shape
    cases shape with
    | ranked =>
        exact ranked?_congr hwords
    | unlimited =>
        exact unlimited?_congr hwords
    | monthYear =>
        exact monthYear?_congr hwords hfound
  unfold recognize?
  simp only [hquery]

theorem recognize?_append_congr {rest other : List Char} (hrest : StartsInGap rest)
    (hother : StartsInGap other) (hwords : words rest = words other)
    (hsame : SameNeighbours (pieces rest) (pieces other)) (text : List Char) :
    recognize? (text ++ rest) = recognize? (text ++ other) := by
  apply recognize?_congr
  · rw [words_append_of_startsInGap hrest, words_append_of_startsInGap hother, hwords]
  · rw [pieces_append_of_startsInGap hrest, pieces_append_of_startsInGap hother]
    exact (hsame.append (pieces text)).found

theorem recognize?_leading {blank : List Char} (h : isBlankText blank = true)
    (text : List Char) : recognize? (blank ++ text) = recognize? text := by
  apply recognize?_congr
  · exact words_blank_append h text
  · rw [pieces_blank_append h, neighbours?_blank_append]

theorem recognize?_trailing {blank : List Char} (h : isBlankText blank = true)
    (text : List Char) : recognize? (text ++ blank) = recognize? text := by
  have hwords := words_blank_append h []
  have hcongr := recognize?_append_congr (startsInGap_blank h) startsInGap_nil ?_
    (sameNeighbours_trailing h) text
  · rw [List.append_nil] at hcongr
    exact hcongr
  · rw [List.append_nil] at hwords
    exact hwords

theorem recognize?_inner {blank other : List Char} (hblank : isBlankText blank = true)
    (hother : isBlankText other = true) (hne : blank ≠ []) (hne' : other ≠ [])
    (before after : List Char) :
    recognize? (before ++ (blank ++ after)) = recognize? (before ++ (other ++ after)) := by
  apply recognize?_append_congr
  · exact startsInGap_blank_append hblank hne after
  · exact startsInGap_blank_append hother hne' after
  · rw [words_blank_append hblank, words_blank_append hother]
  · exact sameNeighbours_blanks hblank hother hne hne' after

/-!
## Understanding a text in another layout

White space is the same in lower case and is no part of a number word, so that it stands in the
normal form as it does in the text.
-/

/-- A change of the white space around a text or between two parts of it, or of the case of one
ASCII letter. -/
inductive Relaid : List Char → List Char → Prop
  | leading (blank text : List Char) (h : isBlankText blank = true) : Relaid text (blank ++ text)
  | trailing (text blank : List Char) (h : isBlankText blank = true) : Relaid text (text ++ blank)
  | inner (before blank other after : List Char) (hblank : isBlankText blank = true)
      (hother : isBlankText other = true) (hne : blank ≠ []) (hne' : other ≠ []) :
      Relaid (before ++ (blank ++ after)) (before ++ (other ++ after))
  | letterCase {c d : Char} (before after : List Char) (hc : isAscii c = true)
      (hd : isAscii d = true) (h : c.toLower = d.toLower) :
      Relaid (before ++ c :: after) (before ++ d :: after)

theorem replaceNumberWords_blank {blank : List Char} (h : isBlankText blank = true) :
    replaceNumberWords blank = blank := by
  have hall := replaceNumberWords_blank_append h []
  rw [List.append_nil] at hall
  rw [hall]
  exact List.append_nil blank

theorem normal_leading {blank : List Char} (h : isBlankText blank = true) (text : List Char) :
    replaceNumberWords (lowercaseApart (blank ++ text)) =
      blank ++ replaceNumberWords (lowercaseApart text) := by
  rw [lowercaseApart_append, lowercaseApart_blank h, replaceNumberWords_blank_append h]

theorem normal_trailing {blank : List Char} (h : isBlankText blank = true) (text : List Char) :
    replaceNumberWords (lowercaseApart (text ++ blank)) =
      replaceNumberWords (lowercaseApart text) ++ blank := by
  rw [lowercaseApart_append, lowercaseApart_blank h,
    replaceNumberWords_append_of_startsInGap (startsInGap_blank h), replaceNumberWords_blank h]

theorem normal_inner {blank : List Char} (h : isBlankText blank = true) (hne : blank ≠ [])
    (before after : List Char) :
    replaceNumberWords (lowercaseApart (before ++ (blank ++ after))) =
      replaceNumberWords (lowercaseApart before) ++
        (blank ++ replaceNumberWords (lowercaseApart after)) := by
  rw [lowercaseApart_append, lowercaseApart_append, lowercaseApart_blank h,
    replaceNumberWords_append_of_startsInGap (startsInGap_blank_append h hne _),
    replaceNumberWords_blank_append h]

theorem parse_eq_of_recognize? {text other : List Char}
    (h : recognize? (replaceNumberWords (lowercaseApart text)) =
      recognize? (replaceNumberWords (lowercaseApart other))) : parse text = parse other := by
  unfold parse
  rw [recognize?_normalize, recognize?_normalize, h]

theorem Relaid.parse_eq {text other : List Char} (h : Relaid text other) :
    parse text = parse other := by
  cases h with
  | leading blank text h =>
      apply parse_eq_of_recognize?
      rw [normal_leading h, recognize?_leading h]
  | trailing text blank h =>
      apply parse_eq_of_recognize?
      rw [normal_trailing h, recognize?_trailing h]
  | inner before blank other after hblank hother hne hne' =>
      apply parse_eq_of_recognize?
      rw [normal_inner hblank hne, normal_inner hother hne']
      exact recognize?_inner hblank hother hne hne' _ _
  | letterCase before after hc hd h =>
      apply parse_eq_of_lowercaseApart
      rw [lowercaseApart_append, lowercaseApart_append, lowercaseApart_cons, lowercaseApart_cons,
        lowerIn_of_isAscii hc, lowerIn_of_isAscii hd, h]

theorem parse_surrounded {front back : List Char} (hfront : isBlankText front = true)
    (hback : isBlankText back = true) (text : List Char) :
    parse (front ++ text ++ back) = parse text := by
  have hleading : parse text = parse (front ++ text) := (Relaid.leading front text hfront).parse_eq
  rw [hleading]
  exact (Relaid.trailing (front ++ text) back hback).parse_eq.symm

theorem parse_trim (text : List Char) : parse (trim text) = parse text := by
  rcases exists_eq_trim text with ⟨front, back, htext, hfront, hback⟩
  rw [← parse_surrounded hfront hback (trim text), ← htext]

/-- Texts that differ only in white space around and between their parts and in the case of ASCII
letters are understood alike. -/
theorem parse_eq_of_relaid {text other : List Char} (h : Relation.EqvGen Relaid text other) :
    parse text = parse other := by
  induction h with
  | rel text other h =>
      exact h.parse_eq
  | refl text =>
      rfl
  | symm text other _ ih =>
      exact ih.symm
  | trans text middle other _ _ ih ih' =>
      exact ih.trans ih'

theorem parse_eq_of_relaid_lineBreak :
    Relation.EqvGen Relaid " Top 2 march\n\u30002024".toList "top 2 march 2024".toList ∧
      parse " Top 2 march\n\u30002024".toList = parse "top 2 march 2024".toList := by
  have hspace : Relaid "Top 2 march\n\u30002024".toList " Top 2 march\n\u30002024".toList := by
    rw [show " Top 2 march\n\u30002024".toList = [' '] ++ "Top 2 march\n\u30002024".toList by decide]
    exact Relaid.leading _ _ (by decide)
  have hletter : Relaid "Top 2 march\n\u30002024".toList "top 2 march\n\u30002024".toList := by
    rw [show "Top 2 march\n\u30002024".toList = 'T' :: "op 2 march\n\u30002024".toList by decide,
      show "top 2 march\n\u30002024".toList = 't' :: "op 2 march\n\u30002024".toList by decide]
    exact Relaid.letterCase [] _ (by decide) (by decide) (by decide)
  have hbreak : Relaid "top 2 march\n\u30002024".toList "top 2 march 2024".toList := by
    rw [show "top 2 march\n\u30002024".toList =
        "top 2 march".toList ++ (['\n', '\u3000'] ++ "2024".toList) by decide,
      show "top 2 march 2024".toList = "top 2 march".toList ++ ([' '] ++ "2024".toList) by decide]
    exact Relaid.inner _ _ _ _ (by decide) (by decide) (List.cons_ne_nil _ _)
      (List.cons_ne_nil _ _)
  have hrelaid : Relation.EqvGen Relaid " Top 2 march\n\u30002024".toList
      "top 2 march 2024".toList :=
    .trans _ _ _ (.symm _ _ (.rel _ _ hspace))
      (.trans _ _ _ (.rel _ _ hletter) (.rel _ _ hbreak))
  exact ⟨hrelaid, parse_eq_of_relaid hrelaid⟩

end Command
end SpokenSales
