import SpokenSales.Proofs.Text.Encoding

/-!
# Lines and the bytes that they come from

Some bytes consist of lines in exactly one way, and this is the way in which they are read.
-/

namespace SpokenSales
namespace Text

/-- Whether some bytes consist of some lines.  A line ends before a line feed or before a carriage
return with a line feed, and the last one may also end with the bytes. -/
inductive Consists : List UInt8 → List (List UInt8) → Prop
  | nil : Consists [] []
  | unfinished {line : List UInt8} (hne : line ≠ []) (hline : 10 ∉ line) : Consists line [line]
  | feed {line rest : List UInt8} {found : List (List UInt8)} (hline : 10 ∉ line)
      (hreturn : line.getLast? ≠ some 13) (others : Consists rest found) :
      Consists (line ++ 10 :: rest) (line :: found)
  | returnFeed {line rest : List UInt8} {found : List (List UInt8)} (hline : 10 ∉ line)
      (others : Consists rest found) : Consists (line ++ 13 :: 10 :: rest) (line :: found)

/-!
## Reading up to a line feed
-/

theorem linesAfter_of_not_mem {line : List UInt8} (h : 10 ∉ line) (unfinished : List UInt8) :
    linesAfter unfinished line =
      if unfinished.reverse ++ line = [] then [] else [unfinished.reverse ++ line] := by
  induction line generalizing unfinished with
  | nil =>
      rw [linesAfter, List.append_nil]
      simp only [List.isEmpty_iff, List.reverse_eq_nil_iff]
  | cons byte line ih =>
      rw [List.mem_cons, not_or] at h
      rw [linesAfter, if_neg (Ne.symm h.1), ih h.2, List.reverse_cons, List.append_assoc]
      rfl

theorem linesAfter_append_feed {line : List UInt8} (h : 10 ∉ line)
    (unfinished rest : List UInt8) :
    linesAfter unfinished (line ++ 10 :: rest) =
      withoutReturn (unfinished.reverse ++ line) :: lines rest := by
  induction line generalizing unfinished with
  | nil =>
      rw [List.nil_append, linesAfter, if_pos rfl, List.append_nil]
      rfl
  | cons byte line ih =>
      rw [List.mem_cons, not_or] at h
      rw [List.cons_append, linesAfter, if_neg (Ne.symm h.1), ih h.2, List.reverse_cons,
        List.append_assoc]
      rfl

theorem lines_of_not_mem {line : List UInt8} (hne : line ≠ []) (h : 10 ∉ line) :
    lines line = [line] := by
  unfold lines
  rw [linesAfter_of_not_mem h, if_neg]
  · rfl
  · exact hne

theorem lines_append_feed {line : List UInt8} (h : 10 ∉ line) (rest : List UInt8) :
    lines (line ++ 10 :: rest) = withoutReturn line :: lines rest :=
  linesAfter_append_feed h [] rest

theorem withoutReturn_of_getLast?_ne {line : List UInt8} (h : line.getLast? ≠ some 13) :
    withoutReturn line = line :=
  if_neg h

theorem withoutReturn_concat (line : List UInt8) : withoutReturn (line ++ [13]) = line := by
  unfold withoutReturn
  rw [List.getLast?_concat, if_pos rfl, List.dropLast_concat]

/-!
## The lines of some bytes
-/

theorem Consists.lines_eq {bytes : List UInt8} {found : List (List UInt8)}
    (h : Consists bytes found) : lines bytes = found := by
  induction h with
  | nil =>
      rfl
  | unfinished hne hline =>
      exact lines_of_not_mem hne hline
  | feed hline hreturn others ih =>
      rw [lines_append_feed hline, withoutReturn_of_getLast?_ne hreturn, ih]
  | @returnFeed line rest found hline others ih =>
      have hlong : 10 ∉ line ++ [13] := by
        rw [List.mem_append, not_or]
        exact ⟨hline, by decide⟩
      rw [List.append_cons, lines_append_feed hlong, withoutReturn_concat, ih]

theorem consists_lines (bytes : List UInt8) : Consists bytes (lines bytes) := by
  -- Induction on the length, since a whole line is taken off at once.
  induction hlength : bytes.length using Nat.strongRecOn generalizing bytes with
  | ind length ih =>
      by_cases hfeed : 10 ∈ bytes
      · rcases List.eq_append_cons_of_mem hfeed with ⟨line, rest, rfl, hline⟩
        have hothers : Consists rest (lines rest) := by
          apply ih rest.length _ rest rfl
          rw [← hlength, List.length_append, List.length_cons]
          omega
        rw [lines_append_feed hline]
        by_cases hreturn : line.getLast? = some 13
        · rcases List.getLast?_eq_some_iff.mp hreturn with ⟨front, rfl⟩
          rw [withoutReturn_concat, List.append_assoc]
          exact .returnFeed (fun hmem => hline (List.mem_append_left _ hmem)) hothers
        · rw [withoutReturn_of_getLast?_ne hreturn]
          exact .feed hline hreturn hothers
      · by_cases hne : bytes = []
        · rw [hne]
          exact .nil
        · rw [lines_of_not_mem hne hfeed]
          exact .unfinished hne hfeed

theorem Consists.not_mem {bytes : List UInt8} {found : List (List UInt8)}
    (h : Consists bytes found) : ∀ line ∈ found, 10 ∉ line := by
  induction h with
  | nil =>
      exact List.forall_mem_nil _
  | unfinished _ hline =>
      exact List.forall_mem_singleton.mpr hline
  | feed hline _ _ ih =>
      exact List.forall_mem_cons.mpr ⟨hline, ih⟩
  | returnFeed hline _ ih =>
      exact List.forall_mem_cons.mpr ⟨hline, ih⟩

theorem consists_iff {bytes : List UInt8} {found : List (List UInt8)} :
    Consists bytes found ↔ lines bytes = found := by
  constructor
  · exact Consists.lines_eq
  · rintro rfl
    exact consists_lines bytes

/-!
## Lines that are texts
-/

/-- Whether some bytes consist of the lines of some texts and then of lines that are not read,
because the first of these is no text. -/
structure ReadsAs (bytes : List UInt8) (texts : List String) (unread : List (List UInt8)) :
    Prop where
  consists : Consists bytes (texts.map (fun text => encode text.toList) ++ unread)
  stops : ∀ line ∈ unread.head?, ∀ text : String, encode text.toList ≠ line

theorem Consists.readsAs {bytes : List UInt8} {texts : List String}
    (h : Consists bytes (texts.map fun text => encode text.toList)) : ReadsAs bytes texts [] where
  consists := by
    rw [List.append_nil]
    exact h
  stops := by
    intro line hline
    cases hline

theorem readsAs_nil : ReadsAs [] [] [] :=
  Consists.nil.readsAs

theorem exists_texts (found : List (List UInt8)) :
    ∃ texts : List String, ∃ unread, found = texts.map (fun text => encode text.toList) ++ unread ∧
      ∀ line ∈ unread.head?, ∀ text : String, encode text.toList ≠ line := by
  induction found with
  | nil =>
      refine ⟨[], [], rfl, ?_⟩
      rintro line ⟨⟩
  | cons line found ih =>
      cases hread : decode? line with
      | none =>
          refine ⟨[], line :: found, rfl, ?_⟩
          rintro _ ⟨⟩
          exact decode?_eq_none_iff.mp hread
      | some text =>
          rcases ih with ⟨texts, unread, rfl, hstops⟩
          refine ⟨text :: texts, unread, ?_, hstops⟩
          rw [List.map_cons, decode?_eq_some_iff.mp hread]
          rfl

theorem exists_readsAs (bytes : List UInt8) : ∃ texts unread, ReadsAs bytes texts unread := by
  rcases exists_texts (lines bytes) with ⟨texts, unread, hlines, hstops⟩
  exact ⟨texts, unread, consists_iff.mpr hlines, hstops⟩

/-!
## Lines of a text
-/

/-- Whether some bytes end where a line may begin. -/
def EndsLine (bytes : List UInt8) : Prop :=
  bytes = [] ∨ bytes.getLast? = some 10

theorem EndsLine.isUtf8_append_iff {front : List UInt8} (h : EndsLine front)
    (back : List UInt8) : IsUtf8 (front ++ back) ↔ IsUtf8 front ∧ IsUtf8 back := by
  rcases h with rfl | hlast
  · exact (and_iff_right isUtf8_nil).symm
  · rcases List.getLast?_eq_some_iff.mp hlast with ⟨before, rfl⟩
    rw [List.append_assoc, List.singleton_append, isUtf8_append_cons_iff (by decide),
      isUtf8_append_cons_iff (by decide), and_iff_left isUtf8_nil]

theorem Consists.isUtf8_iff {bytes : List UInt8} {found : List (List UInt8)}
    (h : Consists bytes found) : IsUtf8 bytes ↔ ∀ line ∈ found, IsUtf8 line := by
  induction h with
  | nil =>
      exact iff_of_true isUtf8_nil (List.forall_mem_nil _)
  | unfinished _ _ =>
      rw [List.forall_mem_singleton]
  | feed _ _ _ ih =>
      rw [isUtf8_append_cons_iff (by decide), List.forall_mem_cons, ih]
  | @returnFeed line rest found _ _ ih =>
      have hrest : IsUtf8 (10 :: rest) ↔ IsUtf8 rest :=
        (@isUtf8_append_cons_iff [] rest 10 (by decide)).trans (and_iff_right isUtf8_nil)
      rw [isUtf8_append_cons_iff (by decide), hrest, List.forall_mem_cons, ih]

theorem ReadsAs.unread_eq_nil_iff {bytes : List UInt8} {texts : List String}
    {unread : List (List UInt8)} (h : ReadsAs bytes texts unread) :
    unread = [] ↔ IsUtf8 bytes := by
  rw [h.consists.isUtf8_iff]
  constructor
  · rintro rfl line hline
    rw [List.append_nil] at hline
    rcases List.mem_map.mp hline with ⟨text, -, rfl⟩
    exact ⟨text, rfl⟩
  · intro hlines
    cases unread with
    | nil =>
        rfl
    | cons line unread =>
        rcases hlines line (List.mem_append_right _ List.mem_cons_self) with ⟨text, htext⟩
        exact absurd htext (h.stops line rfl text)

end Text
end SpokenSales
