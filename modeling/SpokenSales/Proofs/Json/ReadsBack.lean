import Mathlib.Data.List.Forall2
import SpokenSales.Proofs.Json.Layout

/-!
# Texts read back

A reader takes back the value of a text and leaves what follows it.  However they are laid out, the
texts of lists and objects are taken back if the texts of their parts are.
-/

namespace SpokenSales
namespace Json

open Text

/-- Whether a text begins as values do: neither with a space nor with the end of a list. -/
def StartsValue (text : List Char) : Prop :=
  ∃ c more, text = c :: more ∧ isSpace c = false ∧ c ≠ ']'

/-- Whether a reader takes a text off as a value, if what follows cannot belong to a number. -/
structure ReadsBack (reader : Reader α) (text : List Char) (value : α) : Prop where
  starts : StartsValue text
  reads : ∀ rest, EndsNumber rest → reader (text ++ rest) = .ok (value, rest)

theorem StartsValue.skipSpace_append {text : List Char} (h : StartsValue text)
    (rest : List Char) : skipSpace (text ++ rest) = text ++ rest := by
  rcases h with ⟨c, more, htext, hc, -⟩
  rw [htext, List.cons_append, skipSpace_cons hc]

theorem ReadsBack.readAll {reader : Reader α} {text spaces : List Char} {value : α}
    (h : ReadsBack reader text value) (hspaces : ∀ c ∈ spaces, isSpace c = true) :
    readAll reader (text ++ spaces) = .ok value := by
  have hends : EndsNumber spaces := by
    intro c hc
    have hspace := hspaces c (List.mem_of_mem_head? hc)
    simp only [isSpace, Bool.or_eq_true, decide_eq_true_eq] at hspace
    rcases hspace with ((hc | hc) | hc) | hc <;> rw [hc] <;> decide
  have hskip : skipSpace spaces = [] := by
    unfold skipSpace
    rw [← List.append_nil spaces, List.dropWhile_append_of_pos hspaces]
    rfl
  unfold Json.readAll
  rw [h.reads spaces hends]
  simp only [hskip]
  rfl

theorem ReadsBack.readAll_self {reader : Reader α} {text : List Char} {value : α}
    (h : ReadsBack reader text value) : Json.readAll reader text = .ok value := by
  have hread := h.readAll (List.forall_mem_nil _)
  rw [List.append_nil] at hread
  exact hread

theorem exists_of_readAll_eq_ok {reader : Reader α} {text : List Char} {value : α}
    (h : readAll reader text = .ok value) : ∃ rest, reader text = .ok (value, rest) := by
  unfold Json.readAll at h
  split at h
  · cases h
  · rename_i found rest hread
    split at h
    · cases h
      exact ⟨rest, hread⟩
    · cases h

/-!
## Strings
-/

theorem startsValue_quoted (body : List Char) : StartsValue (quoted body) :=
  ⟨'"', _, rfl, by decide, by decide⟩

theorem quoted_append (body rest : List Char) :
    quoted body ++ rest = '"' :: (body ++ '"' :: rest) := by
  unfold quoted
  rw [List.cons_append, List.append_assoc]
  rfl

theorem readsBack_quoted {body text : List Char} (h : Quoted.Spells body text) :
    ReadsBack readString (quoted body) text where
  starts := startsValue_quoted body
  reads := by
    intro rest _
    unfold readString
    rw [(startsValue_quoted body).skipSpace_append, quoted_append]
    exact h.read_append rest

theorem readsBack_written {value? : List Char → Option α} {body text : List Char} {value : α}
    (hbody : Quoted.Spells body text) (h : value? text = some value) (reason : Mismatch) :
    ReadsBack (readWritten value? reason) (quoted body) value where
  starts := startsValue_quoted body
  reads := by
    intro rest hrest
    unfold readWritten
    rw [(readsBack_quoted hbody).reads rest hrest]
    simp only [h]

theorem ne_of_startsNumber {c other : Char} (hc : Numeral.startsNumber c = true)
    (hother : Numeral.startsNumber other = false) : c ≠ other := by
  intro heq
  rw [heq, hother] at hc
  cases hc

theorem isSpace_of_startsNumber {c : Char} (hc : Numeral.startsNumber c = true) :
    isSpace c = false := by
  unfold isSpace
  simp only [Bool.or_eq_false_iff, decide_eq_false_iff_not]
  exact ⟨⟨⟨ne_of_startsNumber hc (by decide), ne_of_startsNumber hc (by decide)⟩,
    ne_of_startsNumber hc (by decide)⟩, ne_of_startsNumber hc (by decide)⟩

theorem readsBack_null (reader : Reader α) : ReadsBack (readOptional reader) null none where
  starts := ⟨'n', _, rfl, by decide, by decide⟩
  reads := by
    intro rest _
    rfl

theorem ReadsBack.optional {reader : Reader α} {text : List Char} {value : α}
    (h : ReadsBack reader text value) (hnull : text.head? ≠ some 'n') :
    ReadsBack (readOptional reader) text (some value) where
  starts := h.starts
  reads := by
    intro rest hrest
    have hread := h.reads rest hrest
    unfold readOptional
    rw [h.starts.skipSpace_append]
    rcases h.starts with ⟨c, more, htext, -, -⟩
    rw [htext] at hnull hread ⊢
    split
    · rename_i heq
      cases heq
      exact absurd rfl hnull
    · rw [hread]

/-!
## Lists
-/

theorem nextElement?_remainder {element : Element} (h : StartsValue element.value) (gap : Gap)
    (elements : List Element) (last : Gap) (rest : List Char) :
    nextElement? false
        (remainder gap ((element :: elements).map Element.text) last ']' rest) =
      .ok (some (element.value ++
        remainder element.after (elements.map Element.text) last ']' rest)) := by
  unfold nextElement?
  rw [List.map_cons, skipSpace_remainder_cons]
  split
  · rename_i heq
    cases heq
  · rename_i heq
    cases heq
  · rename_i heq
    cases heq
    rw [if_neg Bool.false_ne_true, if_pos rfl, element.text_append,
      element.before.skipSpace_append, h.skipSpace_append]
    rcases h with ⟨c, more, hvalue, -, hclose⟩
    rw [hvalue, List.cons_append]
    split
    · rename_i heq
      cases heq
    · rename_i heq
      cases heq
      exact absurd rfl hclose
    · rfl

theorem nextElement?_close {text rest : List Char} (h : skipSpace text = ']' :: rest)
    (first : Bool) : nextElement? first text = .ok none := by
  unfold nextElement?
  rw [h]
  rfl

theorem nextElement?_listText {elements : List Element}
    (h : ∀ element ∈ elements, StartsValue element.value) (last : Gap) (rest : List Char) :
    nextElement? true (commaSeparated (elements.map Element.text) ++ (last.text ++ ']' :: rest)) =
      nextElement? false (remainder .empty (elements.map Element.text) last ']' rest) := by
  cases elements with
  | nil =>
      have hclose := skipSpace_remainder_nil (show isSpace ']' = false from rfl) .empty last rest
      exact (nextElement?_close hclose true).trans (nextElement?_close hclose false).symm
  | cons element elements =>
      have hstarts := h element List.mem_cons_self
      rw [nextElement?_remainder hstarts, List.map_cons, commaSeparated_cons, List.append_assoc,
        element.text_append]
      unfold nextElement?
      rw [element.before.skipSpace_append, hstarts.skipSpace_append]
      rcases hstarts with ⟨c, more, hvalue, -, hclose⟩
      rw [hvalue, List.cons_append]
      split
      · rename_i heq
        cases heq
      · rename_i heq
        cases heq
        exact absurd rfl hclose
      · rename_i heq
        cases heq
        rfl

theorem closeList_of_skipSpace {text rest : List Char} (h : skipSpace text = ']' :: rest) :
    closeList text = .ok rest := by
  unfold closeList
  rw [h]
  rfl

theorem readElements_close {reader : Reader α} {text rest : List Char}
    (h : skipSpace text = ']' :: rest) (fuel : Nat) (first : Bool) :
    readElements reader (fuel + 1) first text = .ok ([], rest) := by
  rw [readElements, nextElement?_close h]
  simp only [closeList_of_skipSpace h]

variable {reader : Reader α}

theorem readElements_remainder {elements : List Element} {values : List α}
    (h : List.Forall₂ (fun element value => ReadsBack reader element.value value) elements values)
    {fuel : Nat} (hfuel : elements.length < fuel) (gap last : Gap) (rest : List Char) :
    readElements reader fuel false (remainder gap (elements.map Element.text) last ']' rest) =
      .ok (values, rest) := by
  induction h generalizing fuel gap with
  | nil =>
      cases fuel with
      | zero =>
          cases hfuel
      | succ fuel =>
          exact readElements_close (skipSpace_remainder_nil (by decide) gap last rest) fuel false
  | @cons element value elements values hfirst hothers ih =>
      cases fuel with
      | zero =>
          cases hfuel
      | succ fuel =>
          have hends : EndsNumber
              (remainder element.after (elements.map Element.text) last ']' rest) :=
            endsNumber_remainder (endsNumber_cons (by decide) rest) _ _ _
          rw [readElements, nextElement?_remainder hfirst.starts]
          simp only [hfirst.reads _ hends, ih (Nat.lt_of_succ_lt_succ hfuel)]

theorem readElements_listText {elements : List Element}
    (h : ∀ element ∈ elements, StartsValue element.value) (fuel : Nat) (last : Gap)
    (rest : List Char) :
    readElements reader fuel true
        (commaSeparated (elements.map Element.text) ++ (last.text ++ ']' :: rest)) =
      readElements reader fuel false
        (remainder .empty (elements.map Element.text) last ']' rest) := by
  cases fuel with
  | zero =>
      rfl
  | succ fuel =>
      have hnext := nextElement?_listText h last rest
      cases elements with
      | nil =>
          rw [readElements, readElements, hnext]
          rfl
      | cons element elements =>
          rw [readElements, readElements, hnext,
            nextElement?_remainder (h element List.mem_cons_self)]

theorem readsBack_list {elements : List Element} {values : List α}
    (h : List.Forall₂ (fun element value => ReadsBack reader element.value value) elements values)
    (last : Gap) : ReadsBack (readList reader) (listText elements last) values where
  starts := ⟨'[', _, rfl, by decide, by decide⟩
  reads := by
    intro rest _
    have hstarts : ∀ element ∈ elements, StartsValue element.value :=
      ((List.forall₂_and_left _ _).mp (h.imp fun _ _ hvalue => ⟨hvalue.starts, hvalue⟩)).1
    have hfuel : elements.length <
        (commaSeparated (elements.map Element.text) ++ (last.text ++ ']' :: rest)).length + 1 := by
      have hle := length_le_commaSeparated (elements.map Element.text)
      rw [List.length_map] at hle
      simp only [List.length_append, List.length_cons]
      omega
    unfold readList
    rw [listText_append, skipSpace_cons (by decide)]
    exact (readElements_listText hstarts _ last rest).trans
      (readElements_remainder h hfuel .empty last rest)

theorem readsBack_array {write : ι → List Char} {value : ι → α} {items : List ι}
    (h : ∀ item ∈ items, ReadsBack reader (write item) (value item)) :
    ReadsBack (readList reader) (array (items.map write)) (items.map value) := by
  rw [← listText_compact]
  apply readsBack_list
  rw [List.map_map, List.forall₂_map_left_iff, List.forall₂_map_right_iff, List.forall₂_same]
  exact h

/-!
A reader may also take the elements of a list one by one, each for a position of its own.
-/

theorem readPosition_listText {elements : List Element}
    (h : ∀ element ∈ elements, StartsValue element.value) (last : Gap) (rest : List Char) :
    readPosition true reader
        (commaSeparated (elements.map Element.text) ++ (last.text ++ ']' :: rest)) =
      readPosition false reader (remainder .empty (elements.map Element.text) last ']' rest) := by
  unfold readPosition
  rw [nextElement?_listText h]

theorem readPosition_remainder {element : Element} (h : StartsValue element.value) (gap : Gap)
    (others : List Element) (last : Gap) (rest : List Char) :
    readPosition false reader
        (remainder gap ((element :: others).map Element.text) last ']' rest) =
      reader (element.value ++ remainder element.after (others.map Element.text) last ']' rest) :=
  by
    unfold readPosition
    rw [nextElement?_remainder h]

theorem ReadsBack.readPosition {element : Element} {value : α}
    (h : ReadsBack reader element.value value) {others : List Element} {last : Gap} (gap : Gap)
    (rest : List Char) :
    readPosition false reader
        (remainder gap ((element :: others).map Element.text) last ']' rest) =
      .ok (value, remainder element.after (others.map Element.text) last ']' rest) := by
  rw [readPosition_remainder h.starts]
  exact h.reads _ (endsNumber_remainder (endsNumber_cons (by decide) rest) _ _ _)

/-!
## Objects

The members of an object are taken one after another, and each of them changes what is known.
-/

/-- Whether a reader gives the same with and without the space before a value. -/
def IgnoresSpace (reader : Reader α) : Prop :=
  ∀ text, reader (skipSpace text) = reader text

/-- Whether a reader of members takes a member and so comes from one state to another. -/
def TakesMember (member : MemberReader σ) (state : σ) (part : Member) (state' : σ) : Prop :=
  ∃ key, Quoted.Spells part.key key ∧ ∀ rest, EndsNumber rest →
    member key state (part.fromColon rest) = .ok (state', rest)

/-- Whether some members are taken one after another, each by a step from one state to another. -/
inductive InTurn (step : σ → Member → σ → Prop) : σ → List Member → σ → Prop
  | nil (state : σ) : InTurn step state [] state
  | cons {state state' state'' : σ} {part : Member} {parts : List Member}
      (first : step state part state') (others : InTurn step state' parts state'') :
      InTurn step state (part :: parts) state''

abbrev TakesMembers (member : MemberReader σ) : σ → List Member → σ → Prop :=
  InTurn (TakesMember member)

theorem skipColon_append (gap : Gap) (rest : List Char) :
    skipColon (gap.text ++ ':' :: rest) = .ok rest := by
  unfold skipColon
  rw [gap.skipSpace_append, skipSpace_cons (by decide)]
  rfl

theorem ignoresSpace_string : IgnoresSpace readString := by
  intro text
  unfold readString
  rw [skipSpace_skipSpace]

theorem ignoresSpace_written (value? : List Char → Option α) (reason : Mismatch) :
    IgnoresSpace (readWritten value? reason) := by
  intro text
  unfold readWritten
  rw [ignoresSpace_string]

theorem ignoresSpace_integer (low high : Int) : IgnoresSpace (readInteger low high) := by
  intro text
  unfold readInteger
  rw [skipSpace_skipSpace]

theorem ignoresSpace_optional (reader : Reader α) : IgnoresSpace (readOptional reader) := by
  intro text
  unfold readOptional
  rw [skipSpace_skipSpace]

theorem IgnoresSpace.append {reader : Reader α} (h : IgnoresSpace reader) (gap : Gap)
    (rest : List Char) : reader (gap.text ++ rest) = reader rest := by
  rw [← h (gap.text ++ rest), gap.skipSpace_append, h]

theorem ignoresSpace_list (reader : Reader α) : IgnoresSpace (readList reader) := by
  intro text
  unfold readList
  rw [skipSpace_skipSpace]

theorem IgnoresSpace.readAll_append {reader : Reader α} (h : IgnoresSpace reader) (gap : Gap)
    (text : List Char) : readAll reader (gap.text ++ text) = readAll reader text := by
  unfold readAll
  rw [h.append]

theorem ReadsBack.readMember {part : Member} {value : α} (h : ReadsBack reader part.value value)
    (hspace : IgnoresSpace reader) (put : α → σ) {rest : List Char} (hrest : EndsNumber rest) :
    readMember reader put (part.fromColon rest) = .ok (put value, rest) := by
  unfold Json.readMember Member.fromColon
  simp only [skipColon_append, hspace.append, h.reads rest hrest]

theorem ReadsBack.takesMember {member : MemberReader σ} {state : σ} {part : Member}
    {key : List Char} {value : α} (h : ReadsBack reader part.value value)
    (hspace : IgnoresSpace reader) (name : String) (put : α → σ)
    (hkey : Quoted.Spells part.key key)
    (hmember : member key state = readOnce name none reader put) :
    TakesMember member state part (put value) := by
  refine ⟨key, hkey, ?_⟩
  intro rest hrest
  rw [hmember]
  exact h.readMember hspace put hrest

theorem nextMember?_remainder (gap : Gap) (part : Member) (parts : List Member) (last : Gap)
    (rest : List Char) :
    nextMember? false (remainder gap ((part :: parts).map Member.text) last '}' rest) =
      .ok (.inl (part.key ++ '"' :: part.fromColon
        (remainder part.after (parts.map Member.text) last '}' rest))) := by
  unfold nextMember?
  rw [List.map_cons, skipSpace_remainder_cons]
  split
  · rename_i heq
    cases heq
  · rename_i heq
    cases heq
  · rename_i heq
    cases heq
    rw [if_neg Bool.false_ne_true, if_pos rfl, part.text_append, part.before.skipSpace_append,
      skipSpace_cons (by decide)]
    rfl

theorem nextMember?_close {text rest : List Char} (h : skipSpace text = '}' :: rest)
    (first : Bool) : nextMember? first text = .ok (.inr rest) := by
  unfold nextMember?
  rw [h]
  rfl

theorem nextMember?_objectText (parts : List Member) (last : Gap) (rest : List Char) :
    nextMember? true (commaSeparated (parts.map Member.text) ++ (last.text ++ '}' :: rest)) =
      nextMember? false (remainder .empty (parts.map Member.text) last '}' rest) := by
  cases parts with
  | nil =>
      have hclose := skipSpace_remainder_nil (show isSpace '}' = false from rfl) .empty last rest
      exact (nextMember?_close hclose true).trans (nextMember?_close hclose false).symm
  | cons part parts =>
      rw [nextMember?_remainder, List.map_cons, commaSeparated_cons, List.append_assoc,
        part.text_append]
      unfold nextMember?
      rw [part.before.skipSpace_append, skipSpace_cons (by decide)]
      rfl

theorem readMembers_objectText (member : MemberReader σ) (fuel : Nat) (state : σ)
    (parts : List Member) (last : Gap) (rest : List Char) :
    readMembers member fuel true state
        (commaSeparated (parts.map Member.text) ++ (last.text ++ '}' :: rest)) =
      readMembers member fuel false state
        (remainder .empty (parts.map Member.text) last '}' rest) := by
  cases fuel with
  | zero =>
      rfl
  | succ fuel =>
      rw [readMembers, readMembers, nextMember?_objectText]

theorem readMembers_remainder {member : MemberReader σ} {state state' : σ} {parts : List Member}
    (h : TakesMembers member state parts state') {fuel : Nat} (hfuel : parts.length < fuel)
    (gap last : Gap) (rest : List Char) :
    readMembers member fuel false state
        (remainder gap (parts.map Member.text) last '}' rest) = .ok (state', rest) := by
  induction h generalizing fuel gap with
  | nil state =>
      cases fuel with
      | zero =>
          cases hfuel
      | succ fuel =>
          have hclose := skipSpace_remainder_nil (show isSpace '}' = false from rfl) gap last rest
          rw [List.map_nil, readMembers, nextMember?_close hclose]
  | @cons state middle state' part parts hfirst hothers ih =>
      cases fuel with
      | zero =>
          cases hfuel
      | succ fuel =>
          have hends : EndsNumber
              (remainder part.after (parts.map Member.text) last '}' rest) :=
            endsNumber_remainder (endsNumber_cons (by decide) rest) _ _ _
          rcases hfirst with ⟨key, hkey, htakes⟩
          rw [readMembers, nextMember?_remainder]
          simp only [hkey.read_append, htakes _ hends]
          exact ih (Nat.lt_of_succ_lt_succ hfuel) part.after

theorem readsBack_objectText {member : MemberReader σ} {start state : σ} {parts : List Member}
    {complete : σ → Except Mismatch α} {value : α} (h : TakesMembers member start parts state)
    (hcomplete : complete state = .ok value) (last : Gap) (fields : Reader α) :
    ReadsBack (readRecord start member complete fields) (objectText parts last) value where
  starts := ⟨'{', _, rfl, by decide, by decide⟩
  reads := by
    intro rest _
    have hfuel : parts.length <
        (commaSeparated (parts.map Member.text) ++ (last.text ++ '}' :: rest)).length + 1 := by
      have hle := length_le_commaSeparated (parts.map Member.text)
      rw [List.length_map] at hle
      simp only [List.length_append, List.length_cons]
      omega
    unfold readRecord
    rw [objectText_append, skipSpace_cons (by decide)]
    simp only [readMembers_objectText, readMembers_remainder h hfuel .empty last rest, hcomplete]

theorem readsBack_object {member : MemberReader σ} {start state : σ}
    {entries : List (String × List Char)} {complete : σ → Except Mismatch α} {value : α}
    (h : TakesMembers member start (entries.map Member.compact) state)
    (hcomplete : complete state = .ok value) (fields : Reader α) :
    ReadsBack (readRecord start member complete fields) (object entries) value := by
  rw [← objectText_compact]
  exact readsBack_objectText h hcomplete .empty fields

end Json
end SpokenSales
