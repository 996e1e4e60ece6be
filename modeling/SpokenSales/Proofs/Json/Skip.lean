import SpokenSales.Proofs.Json.ReadsBack

/-!
# Texts are skipped

A value is skipped without a look at what it means.  The skipper may be inside other lists and
objects, so what it does with a text is said for every stack of these.
-/

namespace SpokenSales
namespace Json

open Text

/-- Whether a text is skipped where an element of a container may stand, in at most two steps for
each of its characters. -/
structure SkippedIn (container : Container) (text : List Char) : Prop where
  starts : ∃ c more, text = c :: more ∧ isSpace c = false ∧ c ≠ container.closing
  skips : ∃ steps, steps ≤ 2 * text.length ∧ ∀ fuel stack rest, EndsNumber rest →
    skipFrom (fuel + steps) container.element stack (text ++ rest) = skipFrom fuel .done stack rest

/-!
## Strings, numbers and null
-/

theorem skippedIn_scalar {c : Char} {more : List Char} (hspace : isSpace c = false)
    (hbracket : c ≠ '[') (hbrace : c ≠ '{') (hclose : c ≠ ']')
    (hskip : ∀ rest, EndsNumber rest → skipScalar (c :: (more ++ rest)) = .ok rest) :
    SkippedIn .list (c :: more) where
  starts := ⟨c, more, rfl, hspace, hclose⟩
  skips := by
    refine ⟨1, ?_, ?_⟩
    · rw [List.length_cons]
      omega
    · intro fuel stack rest hrest
      show skipFrom (fuel + 1) .value stack (c :: (more ++ rest)) = _
      rw [skipFrom, skipSpace_cons hspace]
      split
      · rename_i heq
        cases heq
        exact absurd rfl hbracket
      · rename_i heq
        cases heq
        exact absurd rfl hbrace
      · rw [hskip rest hrest]

theorem skippedIn_quoted {body : List Char} (h : Quoted.IsBody body) :
    SkippedIn .list (quoted body) := by
  apply skippedIn_scalar
  · decide
  · decide
  · decide
  · decide
  · intro rest _
    rw [List.append_assoc]
    exact h.skip_append rest

theorem skippedIn_string (text : List Char) : SkippedIn .list (string text) :=
  skippedIn_quoted (Quoted.spells_flatMap_escaped text).isBody

theorem skippedIn_null : SkippedIn .list null :=
  skippedIn_scalar (by decide) (by decide) (by decide) (by decide) fun _ _ => rfl

theorem skipScalar_of_startsNumber {c : Char} (hc : Numeral.startsNumber c = true)
    (rest : List Char) : skipScalar (c :: rest) = Numeral.skip (c :: rest) := by
  unfold skipScalar
  split
  case h_5 =>
    rename_i heq
    cases heq
    exact if_pos hc
  all_goals
    rename_i heq
    cases heq
  all_goals exact absurd hc (by decide)

theorem skippedIn_number {text : List Char} {numeral : Numeral} (h : Numeral.Writes text numeral) :
    SkippedIn .list text := by
  rcases h.exists_cons with ⟨c, more, rfl, hc⟩
  apply skippedIn_scalar
  · exact isSpace_of_startsNumber hc
  · exact ne_of_startsNumber hc (by decide)
  · exact ne_of_startsNumber hc (by decide)
  · exact ne_of_startsNumber hc (by decide)
  · intro rest hrest
    have hread := h.read_append hrest
    rw [List.cons_append] at hread
    rw [skipScalar_of_startsNumber hc]
    unfold Numeral.skip
    rw [hread]

theorem skippedIn_decimal (n : Nat) : SkippedIn .list (decimal n) :=
  skippedIn_number (Numeral.writes_decimal n)

theorem skippedIn_integer (n : Int) : SkippedIn .list (integer n) := by
  unfold integer
  split
  · exact skippedIn_number (Numeral.writes_minus n.natAbs)
  · exact skippedIn_decimal n.natAbs

/-!
## Containers

Inside a container the elements are skipped one after another, until its end.
-/

section Containers

variable {container : Container}

theorem skipFrom_comma (fuel : Nat) (outer : List Container) (rest : List Char) :
    skipFrom (fuel + 1) .done (container :: outer) (',' :: rest) =
      skipFrom fuel container.element (container :: outer) rest := rfl

theorem skipFrom_close (fuel : Nat) (outer : List Container) (rest : List Char) :
    skipFrom (fuel + 1) .done (container :: outer) (container.closing :: rest) =
      skipFrom fuel .done outer rest := by
  cases container with
  | list =>
      rfl
  | object =>
      rfl

theorem skipFrom_opened_close (fuel : Nat) (outer : List Container) (rest : List Char) :
    skipFrom (fuel + 1) .opened (container :: outer) (container.closing :: rest) =
      skipFrom fuel .done outer rest := by
  cases container with
  | list =>
      rfl
  | object =>
      rfl

theorem endsNumber_closing (container : Container) (rest : List Char) :
    EndsNumber (container.closing :: rest) := by
  cases container with
  | list =>
      exact endsNumber_cons (by decide) rest
  | object =>
      exact endsNumber_cons (by decide) rest

structure SkippedAmong (container : Container) (text : List Char) : Prop where
  starts : ∃ c more, (∀ rest, skipSpace (text ++ rest) = c :: (more ++ rest)) ∧
    c ≠ container.closing
  skips : ∃ steps, steps ≤ 2 * text.length ∧ ∀ fuel outer rest, EndsNumber rest →
    skipFrom (fuel + steps) container.element (container :: outer) (text ++ rest) =
      skipFrom fuel .done (container :: outer) rest

theorem skipFrom_element_skipSpace (fuel : Nat) (stack : List Container) (text : List Char) :
    skipFrom fuel container.element stack (skipSpace text) =
      skipFrom fuel container.element stack text := by
  cases fuel with
  | zero =>
      rfl
  | succ fuel =>
      cases container with
      | list =>
          simp only [Container.element, skipFrom, skipSpace_skipSpace]
      | object =>
          simp only [Container.element, skipFrom, skipSpace_skipSpace]

theorem skipFrom_element_append (gap : Gap) (fuel : Nat) (stack : List Container)
    (rest : List Char) :
    skipFrom fuel container.element stack (gap.text ++ rest) =
      skipFrom fuel container.element stack rest := by
  rw [← skipFrom_element_skipSpace, gap.skipSpace_append, skipFrom_element_skipSpace]

theorem skipFrom_done_append (gap : Gap) (fuel : Nat) (outer : List Container)
    (rest : List Char) :
    skipFrom fuel .done (container :: outer) (gap.text ++ rest) =
      skipFrom fuel .done (container :: outer) rest := by
  cases fuel with
  | zero =>
      rfl
  | succ fuel =>
      rw [skipFrom, skipFrom, gap.skipSpace_append]

theorem SkippedIn.among {text : List Char} (h : SkippedIn container text) (before after : Gap) :
    SkippedAmong container (before.text ++ (text ++ after.text)) where
  starts := by
    rcases h.starts with ⟨c, more, rfl, hspace, hclose⟩
    refine ⟨c, more ++ after.text, ?_, hclose⟩
    intro rest
    rw [List.append_assoc, before.skipSpace_append]
    exact skipSpace_cons hspace _
  skips := by
    rcases h.skips with ⟨steps, hsteps, hskip⟩
    refine ⟨steps, ?_, ?_⟩
    · simp only [List.length_append]
      omega
    · intro fuel outer rest hrest
      rw [List.append_assoc, List.append_assoc, skipFrom_element_append,
        hskip _ _ _ (after.endsNumber_append hrest), skipFrom_done_append]

theorem SkippedAmong.skipFrom_opened {text : List Char} (h : SkippedAmong container text)
    (fuel : Nat) (outer : List Container) (rest : List Char) :
    skipFrom (fuel + 1) .opened (container :: outer) (text ++ rest) =
      skipFrom fuel container.element (container :: outer) (text ++ rest) := by
  rcases h.starts with ⟨c, more, hstarts, hclose⟩
  rw [← skipFrom_element_skipSpace _ _ (text ++ rest), skipFrom, hstarts]
  exact if_neg hclose

theorem skipFrom_remainder_nil (fuel : Nat) (outer : List Container) (gap last : Gap)
    (rest : List Char) :
    skipFrom (fuel + 1) .done (container :: outer) (remainder gap [] last container.closing rest) =
      skipFrom fuel .done outer rest := by
  unfold remainder
  rw [skipFrom_done_append]
  exact (skipFrom_done_append last _ outer _).trans (skipFrom_close fuel outer rest)

theorem exists_steps_remainder {texts : List (List Char)}
    (h : ∀ text ∈ texts, SkippedAmong container text) :
    ∃ steps, steps ≤ 2 * (following texts).length + 1 ∧ ∀ fuel outer gap last rest,
      skipFrom (fuel + steps) .done (container :: outer)
        (remainder gap texts last container.closing rest) = skipFrom fuel .done outer rest := by
  induction texts with
  | nil =>
      exact ⟨1, Nat.le_refl 1, skipFrom_remainder_nil⟩
  | cons text texts ih =>
      rcases (h text List.mem_cons_self).skips with ⟨first, hfirst, hskip⟩
      rcases ih fun other hother => h other (List.mem_cons_of_mem text hother) with
        ⟨others, hothers, hskips⟩
      -- One step for the comma, which is a character of its own.
      refine ⟨others + first + 1, ?_, ?_⟩
      · rw [following_cons, List.length_cons, List.length_append]
        omega
      · intro fuel outer gap last rest
        have hends := endsNumber_remainder (endsNumber_closing container rest) .empty texts last
        have hothers := hskips fuel outer .empty last rest
        unfold remainder at hends hothers ⊢
        rw [skipFrom_done_append, following_cons, List.cons_append, List.append_assoc,
          ← Nat.add_assoc, skipFrom_comma, ← Nat.add_assoc]
        exact (hskip _ _ _ hends).trans hothers

theorem exists_steps_opened {texts : List (List Char)}
    (h : ∀ text ∈ texts, SkippedAmong container text) :
    ∃ steps, steps ≤ 2 * (commaSeparated texts).length + 2 ∧ ∀ fuel outer (last : Gap) rest,
      skipFrom (fuel + steps) .opened (container :: outer)
        (commaSeparated texts ++ (last.text ++ container.closing :: rest)) =
          skipFrom fuel .done outer rest := by
  cases texts with
  | nil =>
      refine ⟨1, by decide, ?_⟩
      intro fuel outer last rest
      have hclose : skipFrom (fuel + 1) .opened (container :: outer)
          (container.closing :: rest) = skipFrom fuel .done outer rest :=
        skipFrom_opened_close fuel outer rest
      show skipFrom (fuel + 1) .opened (container :: outer)
        (last.text ++ container.closing :: rest) = _
      rw [skipFrom, last.skipSpace_append]
      rw [skipFrom] at hclose
      exact hclose
  | cons text texts =>
      have htext := h text List.mem_cons_self
      rcases htext.skips with ⟨first, hfirst, hskip⟩
      rcases exists_steps_remainder fun other hother =>
        h other (List.mem_cons_of_mem text hother) with ⟨others, hothers, hskips⟩
      refine ⟨others + first + 1, ?_, ?_⟩
      · rw [commaSeparated_cons, List.length_append]
        omega
      · intro fuel outer last rest
        have hends := endsNumber_remainder (endsNumber_closing container rest) .empty texts last
        have hothers := hskips fuel outer .empty last rest
        unfold remainder at hends hothers
        rw [commaSeparated_cons, List.append_assoc, ← Nat.add_assoc, htext.skipFrom_opened,
          ← Nat.add_assoc]
        exact (hskip _ _ _ hends).trans hothers

theorem skippedIn_enclosed (container : Container) {opening : Char} {texts : List (List Char)}
    (hstarts : isSpace opening = false ∧ opening ≠ ']')
    (hopening : ∀ fuel stack rest, skipFrom (fuel + 1) .value stack (opening :: rest) =
      skipFrom fuel .opened (container :: stack) rest)
    (h : ∀ text ∈ texts, SkippedAmong container text) (last : Gap) :
    SkippedIn .list
      (opening :: (commaSeparated texts ++ (last.text ++ [container.closing]))) where
  starts := ⟨opening, _, rfl, hstarts⟩
  skips := by
    rcases exists_steps_opened h with ⟨steps, hsteps, hskip⟩
    refine ⟨steps + 1, ?_, ?_⟩
    · simp only [List.length_cons, List.length_append, List.length_nil]
      omega
    · intro fuel stack rest _
      simp only [List.cons_append, List.append_assoc, List.nil_append]
      rw [← Nat.add_assoc]
      show skipFrom (fuel + steps + 1) .value stack _ = _
      rw [hopening]
      exact hskip fuel stack last rest

end Containers

theorem skippedIn_listText {elements : List Element}
    (h : ∀ element ∈ elements, SkippedIn .list element.value) (last : Gap) :
    SkippedIn .list (listText elements last) := by
  apply skippedIn_enclosed .list ⟨by decide, by decide⟩ (fun _ _ _ => rfl)
  intro text htext
  rcases List.mem_map.mp htext with ⟨element, helement, rfl⟩
  exact (h element helement).among element.before element.after

theorem skippedAmong_member {part : Member} (hkey : Quoted.IsBody part.key)
    (h : SkippedIn .list part.value) : SkippedAmong .object part.text := by
  have hmember : SkippedIn .object ('"' :: (part.key ++ '"' :: part.fromColon [])) := by
    refine ⟨⟨'"', _, rfl, by decide, by decide⟩, ?_⟩
    rcases h.skips with ⟨steps, hsteps, hskip⟩
    refine ⟨steps + 1, ?_, ?_⟩
    · unfold Member.fromColon
      simp only [List.length_cons, List.length_append]
      omega
    · intro fuel stack rest hrest
      have hcolon : (Quoted.skip (part.key ++ '"' :: part.fromColon rest)).bind skipColon =
          .ok (part.afterColon.text ++ (part.value ++ rest)) := by
        rw [hkey.skip_append]
        exact skipColon_append part.beforeColon _
      have hvalue : skipFrom (fuel + steps) .value stack
          (part.afterColon.text ++ (part.value ++ rest)) =
            skipFrom (fuel + steps) .value stack (part.value ++ rest) :=
        @skipFrom_element_append .list _ _ _ _
      have htext : '"' :: (part.key ++ '"' :: part.fromColon []) ++ rest =
          '"' :: (part.key ++ '"' :: part.fromColon rest) := by
        unfold Member.fromColon
        simp only [List.cons_append, List.append_assoc, List.append_nil]
      rw [htext, ← Nat.add_assoc]
      show skipFrom (fuel + steps + 1) .key stack _ = _
      rw [skipFrom, skipSpace_cons (by decide)]
      simp only [hcolon]
      exact hvalue.trans (hskip fuel stack rest hrest)
  have hamong := hmember.among part.before part.after
  unfold Member.fromColon at hamong
  unfold Member.text Member.fromColon
  simp only [List.cons_append, List.append_assoc, List.append_nil] at hamong ⊢
  exact hamong

theorem skippedIn_objectText {parts : List Member} (hkeys : ∀ part ∈ parts, Quoted.IsBody part.key)
    (h : ∀ part ∈ parts, SkippedIn .list part.value) (last : Gap) :
    SkippedIn .list (objectText parts last) := by
  apply skippedIn_enclosed .object ⟨by decide, by decide⟩ (fun _ _ _ => rfl)
  intro text htext
  rcases List.mem_map.mp htext with ⟨part, hpart, rfl⟩
  exact skippedAmong_member (hkeys part hpart) (h part hpart)

theorem skippedIn_array {texts : List (List Char)} (h : ∀ text ∈ texts, SkippedIn .list text) :
    SkippedIn .list (array texts) := by
  rw [← listText_compact]
  apply skippedIn_listText
  intro element helement
  rcases List.mem_map.mp helement with ⟨text, htext, rfl⟩
  exact h text htext

theorem skippedIn_object {entries : List (String × List Char)}
    (h : ∀ entry ∈ entries, SkippedIn .list entry.2) : SkippedIn .list (object entries) := by
  rw [← objectText_compact]
  apply skippedIn_objectText
  · intro part hpart
    rcases List.mem_map.mp hpart with ⟨entry, -, rfl⟩
    exact (Member.isNamed_compact entry).isBody
  · intro part hpart
    rcases List.mem_map.mp hpart with ⟨entry, hentry, rfl⟩
    exact h entry hentry

/-!
## Values that nobody asks for
-/

theorem SkippedIn.skipValue_append {text rest : List Char} (h : SkippedIn .list text)
    (gap : Gap) (hrest : EndsNumber rest) :
    skipValue (gap.text ++ (text ++ rest)) = .ok rest := by
  rcases h.skips with ⟨steps, hsteps, hskip⟩
  -- There is fuel for the steps of the text and for the one that ends the skipping.
  have hfuel : ∃ fuel, 2 * (gap.text ++ (text ++ rest)).length + 2 = fuel + 1 + steps := by
    refine ⟨2 * (gap.text ++ (text ++ rest)).length + 1 - steps, ?_⟩
    rw [List.length_append, List.length_append]
    omega
  rcases hfuel with ⟨fuel, hfuel⟩
  have hvalue : skipFrom (fuel + 1 + steps) .value [] (gap.text ++ (text ++ rest)) =
      skipFrom (fuel + 1 + steps) .value [] (text ++ rest) :=
    @skipFrom_element_append .list gap _ _ _
  unfold Json.skipValue
  rw [hfuel, hvalue]
  exact hskip (fuel + 1) [] rest hrest

theorem SkippedIn.skipMember_fromColon {part : Member} (h : SkippedIn .list part.value)
    (state : σ) {rest : List Char} (hrest : EndsNumber rest) :
    skipMember state (part.fromColon rest) = .ok (state, rest) := by
  have hskip : (skipColon (part.fromColon rest)).bind skipValue = .ok rest := by
    unfold Member.fromColon
    rw [skipColon_append]
    exact h.skipValue_append part.afterColon hrest
  unfold skipMember
  rw [hskip]

theorem takesMember_skipped {member : MemberReader σ} {state : σ} {part : Member} {key : List Char}
    (hkey : Quoted.Spells part.key key) (hmember : member key state = skipMember state)
    (h : SkippedIn .list part.value) : TakesMember member state part state := by
  refine ⟨key, hkey, ?_⟩
  intro rest hrest
  rw [hmember]
  exact h.skipMember_fromColon state hrest

end Json
end SpokenSales
