import Mathlib.Data.List.Forall2
import SpokenSales.Proofs.Json.Grammar

/-!
# Values taken whole

A reader does not know where a value of another shape than it wants would end.  But if the text is
well formed and the reader takes anything off it, then it takes the whole value, so that a list or
an object is read part by part.
-/

namespace SpokenSales
namespace Json

/-- Whether a reader that takes a value off a well-formed text takes the whole text. -/
structure TakesWhole (reader : Reader α) : Prop where
  rest_eq : ∀ {text rest last : List Char} {value : α}, IsValue text → EndsNumber rest →
    reader (text ++ rest) = .ok (value, last) → last = rest

/-- Whether a reader may take a value off a text with something behind it. -/
def MayTake (reader : Reader α) (text : List Char) (value : α) : Prop :=
  ∃ rest last, EndsNumber rest ∧ reader (text ++ rest) = .ok (value, last)

/-!
## Scalars

What is read as a scalar can be skipped as one.
-/

structure ReadsScalar (reader : Reader α) : Prop where
  skips : ∀ {text rest : List Char} {value : α}, reader text = .ok (value, rest) →
    skipScalar (skipSpace text) = .ok rest

theorem skipValue_of_skipScalar {text rest : List Char}
    (h : skipScalar (skipSpace text) = .ok rest) : skipValue text = .ok rest := by
  unfold skipValue
  rw [skipFrom]
  split
  · rename_i heq
    rw [heq] at h
    cases h
  · rename_i heq
    rw [heq] at h
    cases h
  · rw [h]
    rfl

theorem ReadsScalar.rest_eq {reader : Reader α} (h : ReadsScalar reader)
    {text rest last : List Char} {value : α} (htext : IsValue text) (hrest : EndsNumber rest)
    (gap : Gap) (hread : reader (gap.text ++ (text ++ rest)) = .ok (value, last)) :
    last = rest := by
  have hskip := skipValue_of_skipScalar (h.skips hread)
  rw [htext.skippedIn.skipValue_append gap hrest] at hskip
  cases hskip
  rfl

theorem ReadsScalar.takesWhole {reader : Reader α} (h : ReadsScalar reader) :
    TakesWhole reader where
  rest_eq := fun htext hrest hread => h.rest_eq htext hrest .empty hread

theorem readsScalar_string : ReadsScalar readString := by
  constructor
  intro text rest value hread
  unfold readString at hread
  split at hread
  · rename_i heq
    rw [heq]
    exact Quoted.skip_of_read hread
  · cases hread

theorem readsScalar_written (value? : List Char → Option α) (reason : Mismatch) :
    ReadsScalar (readWritten value? reason) := by
  constructor
  intro text rest value hread
  unfold readWritten at hread
  split at hread
  · cases hread
  · rename_i hstring
    split at hread
    · cases hread
      exact readsScalar_string.skips hstring
    · cases hread

theorem skip_of_readNumber {text rest : List Char} {number : Number}
    (h : readNumber text = .ok (number, rest)) : Numeral.skip text = .ok rest := by
  unfold readNumber at h
  unfold Numeral.skip
  cases hread : Numeral.read text with
  | error fault =>
      rw [hread] at h
      cases h
  | ok taken =>
      rcases taken with ⟨numeral, after⟩
      rw [hread] at h
      simp only [bind, Except.bind] at h
      split at h
      · cases h
      · cases h
        rfl

theorem readsScalar_integer (low high : Int) : ReadsScalar (readInteger low high) := by
  constructor
  intro text rest value hread
  unfold readInteger at hread
  split at hread
  · cases hread
  · rename_i c more heq
    split at hread
    · rename_i hstarts
      rw [heq, skipScalar_of_startsNumber hstarts]
      split at hread
      · cases hread
      · rename_i hnumber
        split at hread
        · cases hread
        · split at hread
          · cases hread
            exact skip_of_readNumber hnumber
          · cases hread
    · cases hread

theorem ReadsScalar.optional {reader : Reader α} (h : ReadsScalar reader) :
    ReadsScalar (readOptional reader) := by
  constructor
  intro text rest value hread
  unfold readOptional at hread
  split at hread
  · rename_i heq
    rw [heq]
    split at hread
    · cases hread
    · rename_i hletters
      cases hread
      exact hletters
  · split at hread
    · cases hread
    · rename_i hvalue
      cases hread
      rw [← skipSpace_skipSpace]
      exact h.skips hvalue

/-!
## Lists
-/

variable {reader : Reader α}

theorem TakesWhole.readElements_remainder (h : TakesWhole reader) {elements : List Element}
    (helements : ∀ element ∈ elements, IsValue element.value) {fuel : Nat} {gap last : Gap}
    {rest after : List Char} {values : List α}
    (hread : readElements reader fuel false
      (remainder gap (elements.map Element.text) last ']' rest) = .ok (values, after)) :
    after = rest ∧
      List.Forall₂ (fun element value => MayTake reader element.value value) elements values := by
  induction elements generalizing fuel gap values with
  | nil =>
      cases fuel with
      | zero =>
          cases hread
      | succ fuel =>
          have hclose := skipSpace_remainder_nil (show isSpace ']' = false from rfl) gap last rest
          rw [List.map_nil, readElements_close hclose] at hread
          cases hread
          exact ⟨rfl, .nil⟩
  | cons element elements ih =>
      cases fuel with
      | zero =>
          cases hread
      | succ fuel =>
          have hvalue := helements element List.mem_cons_self
          have hends : EndsNumber
              (remainder element.after (elements.map Element.text) last ']' rest) :=
            endsNumber_remainder (endsNumber_cons (by decide) rest) _ _ _
          rw [readElements, nextElement?_remainder hvalue.startsValue] at hread
          simp only at hread
          split at hread
          · cases hread
          · rename_i value middle hfirst
            cases h.rest_eq hvalue hends hfirst
            split at hread
            · cases hread
            · rename_i others last' hothers
              cases hread
              have hrest := ih
                (fun other hother => helements other (List.mem_cons_of_mem element hother)) hothers
              exact ⟨hrest.1, .cons ⟨_, _, hends, hfirst⟩ hrest.2⟩

theorem TakesWhole.readList_listText (h : TakesWhole reader) {elements : List Element}
    (helements : ∀ element ∈ elements, IsValue element.value) {last : Gap}
    {rest after : List Char} {values : List α}
    (hread : readList reader (listText elements last ++ rest) = .ok (values, after)) :
    after = rest ∧
      List.Forall₂ (fun element value => MayTake reader element.value value) elements values := by
  unfold readList at hread
  rw [listText_append, skipSpace_cons (by decide)] at hread
  simp only at hread
  rw [readElements_listText fun element helement => (helements element helement).startsValue]
    at hread
  exact h.readElements_remainder helements hread

theorem TakesWhole.readPosition_remainder (h : TakesWhole reader) {elements : List Element}
    (helements : ∀ element ∈ elements, IsValue element.value) {gap last : Gap}
    {rest after : List Char} {value : α}
    (hread : readPosition false reader (remainder gap (elements.map Element.text) last ']' rest) =
      .ok (value, after)) :
    ∃ element others, elements = element :: others ∧
      after = remainder element.after (others.map Element.text) last ']' rest := by
  unfold readPosition at hread
  cases elements with
  | nil =>
      have hclose := skipSpace_remainder_nil (show isSpace ']' = false from rfl) gap last rest
      rw [List.map_nil, nextElement?_close hclose] at hread
      cases hread
  | cons element others =>
      have hvalue := helements element List.mem_cons_self
      have hends : EndsNumber
          (remainder element.after (others.map Element.text) last ']' rest) :=
        endsNumber_remainder (endsNumber_cons (by decide) rest) _ _ _
      rw [nextElement?_remainder hvalue.startsValue] at hread
      exact ⟨element, others, rfl, h.rest_eq hvalue hends hread⟩

theorem closeList_remainder {gap last : Gap} {texts : List (List Char)} {rest after : List Char}
    (h : closeList (remainder gap texts last ']' rest) = .ok after) : after = rest := by
  cases texts with
  | nil =>
      rw [closeList_of_skipSpace (skipSpace_remainder_nil (by decide) gap last rest)] at h
      cases h
      rfl
  | cons text texts =>
      unfold closeList at h
      rw [skipSpace_remainder_cons] at h
      cases h

/-!
## Objects
-/

structure AreMembers (parts : List Member) : Prop where
  keys : ∀ part ∈ parts, Quoted.IsBody part.key
  values : ∀ part ∈ parts, IsValue part.value

theorem AreMembers.of_cons {part : Member} {parts : List Member}
    (h : AreMembers (part :: parts)) : AreMembers parts where
  keys := fun other hother => h.keys other (List.mem_cons_of_mem part hother)
  values := fun other hother => h.values other (List.mem_cons_of_mem part hother)

structure TakesWholeMembers (member : MemberReader σ) : Prop where
  rest_eq : ∀ {key rest last : List Char} {state state' : σ} {part : Member},
    IsValue part.value → EndsNumber rest →
      member key state (part.fromColon rest) = .ok (state', last) → last = rest

/-- Whether a reader of members passes a member in some text and so comes from one state to
another. -/
def PassesMember (member : MemberReader σ) (state : σ) (part : Member) (state' : σ) : Prop :=
  ∃ key rest, Quoted.Spells part.key key ∧ EndsNumber rest ∧
    member key state (part.fromColon rest) = .ok (state', rest)

theorem skipMember_fromColon {part : Member} (hvalue : IsValue part.value)
    {rest last : List Char} (hrest : EndsNumber rest) {state state' : σ}
    (hread : skipMember state (part.fromColon rest) = .ok (state', last)) : last = rest := by
  rw [hvalue.skippedIn.skipMember_fromColon state hrest] at hread
  cases hread
  rfl

variable {member : MemberReader σ}

theorem TakesWholeMembers.readMembers_remainder (h : TakesWholeMembers member)
    {parts : List Member} (hparts : AreMembers parts) {fuel : Nat} {gap last : Gap}
    {rest after : List Char} {state state' : σ}
    (hread : readMembers member fuel false state
      (remainder gap (parts.map Member.text) last '}' rest) = .ok (state', after)) :
    after = rest ∧ InTurn (PassesMember member) state parts state' := by
  induction parts generalizing fuel gap state with
  | nil =>
      cases fuel with
      | zero =>
          cases hread
      | succ fuel =>
          have hclose := skipSpace_remainder_nil (show isSpace '}' = false from rfl) gap last rest
          rw [List.map_nil, readMembers, nextMember?_close hclose] at hread
          cases hread
          exact ⟨rfl, .nil state'⟩
  | cons part parts ih =>
      cases fuel with
      | zero =>
          cases hread
      | succ fuel =>
          have hvalue := hparts.values part List.mem_cons_self
          have hends : EndsNumber
              (remainder part.after (parts.map Member.text) last '}' rest) :=
            endsNumber_remainder (endsNumber_cons (by decide) rest) _ _ _
          rw [readMembers, nextMember?_remainder] at hread
          simp only at hread
          split at hread
          · cases hread
          · rename_i key opened hkey
            rcases (hparts.keys part List.mem_cons_self).spells_of_read hkey with ⟨rfl, hspells⟩
            split at hread
            · cases hread
            · rename_i middle next hfirst
              cases h.rest_eq hvalue hends hfirst
              have hothers := ih hparts.of_cons hread
              exact ⟨hothers.1, .cons ⟨key, _, hspells, hends, hfirst⟩ hothers.2⟩

variable {start : σ} {complete : σ → Except Mismatch α} {fields : Reader α}

theorem TakesWholeMembers.readRecord_objectText (h : TakesWholeMembers member)
    {parts : List Member} (hparts : AreMembers parts) {last : Gap} {rest after : List Char}
    {value : α} (hread : readRecord start member complete fields (objectText parts last ++ rest) =
      .ok (value, after)) :
    after = rest ∧ ∃ state, InTurn (PassesMember member) start parts state ∧
      complete state = .ok value := by
  unfold readRecord at hread
  rw [objectText_append, skipSpace_cons (by decide)] at hread
  simp only [readMembers_objectText] at hread
  split at hread
  · cases hread
  · rename_i state closed hmembers
    split at hread
    · cases hread
    · rename_i found hcomplete
      cases hread
      have hpassed := h.readMembers_remainder hparts hmembers
      exact ⟨hpassed.1, state, hpassed.2, hcomplete⟩

/-- Whether a reader of the fields of a list stops somewhere between its elements. -/
structure StopsBetween (fields : Reader α) : Prop where
  after_eq : ∀ {elements : List Element} {last : Gap} {rest after : List Char} {value : α},
    (∀ element ∈ elements, IsValue element.value) →
      fields (commaSeparated (elements.map Element.text) ++ (last.text ++ ']' :: rest)) =
        .ok (value, after) →
      ∃ gap texts, after = remainder gap texts last ']' rest

theorem StopsBetween.readRecord_listText (h : StopsBetween fields) {elements : List Element}
    (helements : ∀ element ∈ elements, IsValue element.value) {last : Gap}
    {rest after : List Char} {value : α}
    (hread : readRecord start member complete fields (listText elements last ++ rest) =
      .ok (value, after)) : after = rest := by
  unfold readRecord at hread
  rw [listText_append, skipSpace_cons (by decide)] at hread
  simp only at hread
  split at hread
  · cases hread
  · rename_i found stopped hfields
    rcases h.after_eq helements hfields with ⟨gap, texts, rfl⟩
    split at hread
    · cases hread
    · rename_i closed hclose
      cases hread
      exact closeList_remainder hclose

theorem takesWhole_readRecord (hmember : TakesWholeMembers member) (hfields : StopsBetween fields) :
    TakesWhole (readRecord start member complete fields) := by
  constructor
  intro text rest last value htext _ hread
  have hopening : ∃ more, text = '{' :: more ∨ text = '[' :: more := by
    rcases htext.startsValue with ⟨c, more, rfl, hspace, -⟩
    refine ⟨more, ?_⟩
    unfold readRecord at hread
    rw [List.cons_append, skipSpace_cons hspace] at hread
    split at hread
    · rename_i heq
      cases heq
      exact Or.inl rfl
    · rename_i heq
      cases heq
      exact Or.inr rfl
    · cases hread
  rcases hopening with ⟨more, rfl | rfl⟩
  · rcases htext.exists_objectText with ⟨parts, closing, heq, hkeys, hvalues⟩
    rw [heq] at hread
    exact (hmember.readRecord_objectText ⟨hkeys, hvalues⟩ hread).1
  · rcases htext.exists_listText with ⟨elements, closing, heq, helements⟩
    rw [heq] at hread
    exact hfields.readRecord_listText helements hread

end Json
end SpokenSales
