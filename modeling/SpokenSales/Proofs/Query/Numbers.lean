import SpokenSales.Proofs.Query.Wording

/-!
# The numbers of a query

A text that lays out some wording is read exactly if the numbers in it are integers, each in the
range of its field, and what is read has just these values.
-/

namespace SpokenSales
namespace Query

open Json

/-!
## Values are read whole
-/

theorem readsScalar_limit : ReadsScalar readLimit := by
  constructor
  intro text rest limit hread
  unfold readLimit at hread
  split at hread
  · cases hread
  · rename_i hinteger
    cases hread
    exact (readsScalar_integer _ _).optional.skips hinteger

theorem readsScalar_year : ReadsScalar readYear := by
  constructor
  intro text rest year hread
  unfold readYear at hread
  split at hread
  · cases hread
  · rename_i hinteger
    cases hread
    exact (readsScalar_integer _ _).optional.skips hinteger

theorem readLabel_eq_ok {text rest : List Char} {kind : Kind}
    (h : readLabel text = .ok (kind, rest)) : ∃ label, Quoted.read text = .ok (label, rest) := by
  unfold readLabel at h
  split at h
  · cases h
  · rename_i hlabel
    split at h
    · cases h
    · cases h
      exact ⟨_, hlabel⟩

theorem readsScalar_null : ReadsScalar fun text => (readNull text).map fun rest => ((), rest) := by
  constructor
  intro text rest value hread
  unfold readNull at hread
  split at hread
  · rename_i heq
    rw [heq]
    cases hletters : skipLetters "ull".toList _ with
    | error fault =>
        rw [hletters] at hread
        cases hread
    | ok last =>
        rw [hletters] at hread
        cases hread
        exact hletters
  · cases hread

theorem skipSpace_objectText_cons (part : Member) (parts : List Member) (last : Gap)
    (rest : List Char) :
    skipSpace (commaSeparated ((part :: parts).map Member.text) ++ (last.text ++ '}' :: rest)) =
      '"' :: (part.key ++ '"' :: part.fromColon
        (remainder part.after (parts.map Member.text) last '}' rest)) := by
  rw [List.map_cons, commaSeparated_cons, List.append_assoc, part.text_append,
    part.before.skipSpace_append, skipSpace_cons (by decide)]
  rfl

theorem readKindMember_objectText {parts : List Member} (hparts : AreMembers parts) {last : Gap}
    {rest after : List Char} {kind : Kind}
    (hread : readKindMember (commaSeparated (parts.map Member.text) ++ (last.text ++ '}' :: rest)) =
      .ok (kind, after)) : after = rest := by
  unfold readKindMember at hread
  cases parts with
  | nil =>
      have hclose : skipSpace (commaSeparated (([] : List Member).map Member.text) ++
          (last.text ++ '}' :: rest)) = '}' :: rest :=
        skipSpace_remainder_nil (show isSpace '}' = false from rfl) .empty last rest
      rw [hclose] at hread
      cases hread
  | cons part parts =>
      rw [skipSpace_objectText_cons] at hread
      simp only at hread
      split at hread
      · cases hread
      · rename_i opened hlabel
        rcases readLabel_eq_ok hlabel with ⟨label, hkey⟩
        rcases (hparts.keys part List.mem_cons_self).spells_of_read hkey with ⟨rfl, -⟩
        have hends : EndsNumber (remainder part.after (parts.map Member.text) last '}' rest) :=
          endsNumber_remainder (endsNumber_cons (by decide) rest) _ _ _
        unfold Member.fromColon at hread
        rw [skipColon_append] at hread
        simp only [Except.bind] at hread
        split at hread
        · cases hread
        · rename_i closed hnull
          have hrest : closed = remainder part.after (parts.map Member.text) last '}' rest := by
            apply readsScalar_null.rest_eq (hparts.values part List.mem_cons_self) hends
              part.afterColon
            · rw [hnull]
              rfl
          rw [hrest] at hread
          cases parts with
          | nil =>
              rw [List.map_nil, skipSpace_remainder_nil (by decide)] at hread
              cases hread
              rfl
          | cons other parts =>
              rw [List.map_cons, skipSpace_remainder_cons] at hread
              cases hread

theorem takesWhole_kind : TakesWhole readKind := by
  constructor
  intro text rest last kind htext hrest hread
  unfold readKind at hread
  split at hread
  · cases hread
  · rename_i more hquote
    rcases readLabel_eq_ok hread with ⟨label, hlabel⟩
    have hskip : skipValue (text ++ rest) = .ok last := by
      apply skipValue_of_skipScalar
      rw [hquote]
      exact Quoted.skip_of_read hlabel
    have hwhole : skipValue (text ++ rest) = .ok rest :=
      htext.skippedIn.skipValue_append .empty hrest
    rw [hskip] at hwhole
    cases hwhole
    rfl
  · rename_i more hbrace
    rw [htext.startsValue.skipSpace_append] at hbrace
    rcases htext.startsValue with ⟨c, others, rfl, -, -⟩
    cases hbrace
    rcases htext.exists_objectText with ⟨parts, closing, heq, hkeys, hvalues⟩
    have hobject : others ++ rest =
        commaSeparated (parts.map Member.text) ++ (closing.text ++ '}' :: rest) := by
      have happend := objectText_append parts closing rest
      rw [← heq, List.cons_append] at happend
      exact (List.cons.inj happend).2
    rw [show others.append rest = _ from hobject] at hread
    exact readKindMember_objectText ⟨hkeys, hvalues⟩ hread
  · cases hread

theorem takesWholeMembers_readSlot : TakesWholeMembers readSlot :=
  readsFields.takesWholeMembers (forall_mem_fields takesWhole_kind readsScalar_limit.takesWhole
    readsScalar_limit.takesWhole readsScalar_year.takesWhole)

/-!
## Numbers in range
-/

theorem exists_uint32 {n : Int} (hlow : 0 ≤ n) (hhigh : n ≤ UInt32.size - 1) :
    ∃ limit : UInt32, (limit.toNat : Int) = n := by
  refine ⟨UInt32.ofNat n.toNat, ?_⟩
  rw [UInt32.toNat_ofNat_of_lt' (by omega)]
  omega

theorem exists_int32 {n : Int} (hlow : Int32.minValue.toInt ≤ n)
    (hhigh : n ≤ Int32.maxValue.toInt) : ∃ year : Int32, year.toInt = n :=
  ⟨Int32.ofInt n, Int32.toInt_ofInt_of_le hlow (Int.lt_add_one_of_le hhigh)⟩

theorem exists_limit_iff {text : List Char} :
    (∃ limit : UInt32, WritesInteger text limit.toNat) ↔
      WritesInRange 0 (UInt32.size - 1) text := by
  constructor
  · rintro ⟨limit, hwrites⟩
    have hsize : limit.toNat < UInt32.size := limit.toNat_lt_size
    exact ⟨limit.toNat, hwrites, by omega, by omega⟩
  · rintro ⟨n, hwrites, hlow, hhigh⟩
    rcases exists_uint32 hlow hhigh with ⟨limit, rfl⟩
    exact ⟨limit, hwrites⟩

theorem exists_year_iff {text : List Char} :
    (∃ year : Int32, WritesInteger text year.toInt) ↔
      WritesInRange Int32.minValue.toInt Int32.maxValue.toInt text := by
  constructor
  · rintro ⟨year, hwrites⟩
    exact ⟨year.toInt, hwrites, year.minValue_le_toInt, year.toInt_le⟩
  · rintro ⟨n, hwrites, hlow, hhigh⟩
    rcases exists_int32 hlow hhigh with ⟨year, rfl⟩
    exact ⟨year, hwrites⟩

theorem writesInRange_of_mayTake_limit {text : List Char} (h : IsNumber text)
    {limit : Option UInt32} (htake : MayTake readLimit text limit) :
    WritesInRange 0 (UInt32.size - 1) text := by
  rcases htake with ⟨rest, last, hrest, hread⟩
  unfold readLimit at hread
  split at hread
  · cases hread
  · rename_i hinteger
    exact h.writesInRange_of_readOptional (by decide) (by decide) hrest hinteger

theorem writesInRange_of_mayTake_year {text : List Char} (h : IsNumber text)
    {year : Option Int32} (htake : MayTake readYear text year) :
    WritesInRange Int32.minValue.toInt Int32.maxValue.toInt text := by
  rcases htake with ⟨rest, last, hrest, hread⟩
  unfold readYear at hread
  split at hread
  · cases hread
  · rename_i hinteger
    exact h.writesInRange_of_readOptional (by decide) (by decide) hrest hinteger

namespace Wording

structure HasNumbers (wording : Wording) : Prop where
  count : ∀ text ∈ wording.count, IsNumber text
  month : ∀ text ∈ wording.month, IsNumber text
  year : ∀ text ∈ wording.year, IsNumber text

/-- Whether the numbers in a wording are integers, each in the range of its field. -/
structure InRange (wording : Wording) : Prop where
  count : ∀ text ∈ wording.count, WritesInRange 0 (UInt32.size - 1) text
  month : ∀ text ∈ wording.month, WritesInRange 0 (UInt32.size - 1) text
  year : ∀ text ∈ wording.year, WritesInRange Int32.minValue.toInt Int32.maxValue.toInt text

theorem exists_rel_iff {r : List Char → α → Prop} {text? : Option (List Char)} :
    (∃ value, Option.Rel r text? value) ↔ ∀ text ∈ text?, ∃ value, r text value := by
  cases text? with
  | none =>
      refine ⟨?_, fun _ => ⟨none, .none⟩⟩
      intro _ text htext
      cases htext
  | some text =>
      constructor
      · rintro ⟨value, hvalue⟩ other hother
        cases hother
        cases hvalue with
        | some hvalue =>
            exact ⟨_, hvalue⟩
      · intro h
        rcases h text rfl with ⟨value, hvalue⟩
        exact ⟨some value, .some hvalue⟩

theorem exists_means_iff {wording : Wording} :
    (∃ query, wording.Means query) ↔ wording.InRange := by
  constructor
  · rintro ⟨query, hmeans⟩
    constructor
    · intro text htext
      exact exists_limit_iff.mp (exists_rel_iff.mp ⟨_, hmeans.count⟩ text htext)
    · intro text htext
      exact exists_limit_iff.mp (exists_rel_iff.mp ⟨_, hmeans.month⟩ text htext)
    · intro text htext
      exact exists_year_iff.mp (exists_rel_iff.mp ⟨_, hmeans.year⟩ text htext)
  · intro h
    rcases exists_rel_iff.mpr fun text htext => exists_limit_iff.mpr (h.count text htext) with
      ⟨count, hcount⟩
    rcases exists_rel_iff.mpr fun text htext => exists_limit_iff.mpr (h.month text htext) with
      ⟨month, hmonth⟩
    rcases exists_rel_iff.mpr fun text htext => exists_year_iff.mpr (h.year text htext) with
      ⟨year, hyear⟩
    exact ⟨⟨wording.kind, count, month, year⟩, rfl, hcount, hmonth, hyear⟩

end Wording

/-!
## Reading a layout

What cannot be read of a layout are its numbers only.
-/

theorem isValue_getD_null {text? : Option (List Char)} (h : ∀ text ∈ text?, IsNumber text) :
    IsValue (text?.getD null) := by
  cases text? with
  | none =>
      exact .null
  | some text =>
      exact (h text rfl).isValue

theorem MayState.wellFormed {name : String} {text? : Option (List Char)} {part? : Option Member}
    (h : MayState name text? part?) (hnumber : ∀ text ∈ text?, IsNumber text) :
    ∀ part ∈ part?, Quoted.IsBody part.key ∧ IsValue part.value := by
  intro part hpart
  have hstated := h.stated part hpart
  rw [hstated.2]
  exact ⟨hstated.1.isBody, isValue_getD_null hnumber⟩

theorem exists_mayTake_of_eq {value : List Char} {text? : Option (List Char)}
    (h : value = text?.getD null) {reader : Reader α}
    (htake : ∃ found, MayTake reader value found) :
    ∀ text ∈ text?, ∃ found, MayTake reader text found := by
  intro text htext
  rw [h, htext] at htake
  exact htake

theorem MayState.exists_mayTake {name : String} {text? : Option (List Char)}
    {part? : Option Member} (h : MayState name text? part?) {reader : Reader α}
    (htake : ∀ part ∈ part?, part.IsNamed name → ∃ value, MayTake reader part.value value) :
    ∀ text ∈ text?, ∃ value, MayTake reader text value := by
  intro text htext
  cases part? with
  | none =>
      rw [h.left_out rfl] at htext
      cases htext
  | some part =>
      have hstated := h.stated part rfl
      exact exists_mayTake_of_eq hstated.2 (htake part rfl hstated.1) text htext

theorem mayTake_of_readPositions {kind count month year : Element}
    (hkind : IsValue kind.value) (hcount : IsValue count.value) (hmonth : IsValue month.value)
    (hyear : IsValue year.value) {last : Gap} {rest after : List Char} {query : Query}
    (hread : readPositions (commaSeparated ([kind, count, month, year].map Element.text) ++
      (last.text ++ ']' :: rest)) = .ok (query, after)) :
    MayTake readLimit count.value query.count ∧ MayTake readLimit month.value query.month ∧
      MayTake readYear year.value query.year := by
  have hstarts : ∀ element ∈ [kind, count, month, year], StartsValue element.value := by
    simp only [List.forall_mem_cons]
    exact ⟨hkind.startsValue, hcount.startsValue, hmonth.startsValue, hyear.startsValue,
      List.forall_mem_nil _⟩
  unfold readPositions at hread
  rw [readPosition_listText hstarts] at hread
  simp only [bind, Except.bind] at hread
  split at hread
  · cases hread
  rename_i taken hfirst
  rcases taken with ⟨kind, text⟩
  rcases takesWhole_kind.mayTake_of_readPosition hkind hfirst with ⟨-, rfl⟩
  split at hread
  · cases hread
  rename_i taken hsecond
  rcases taken with ⟨count, text⟩
  rcases readsScalar_limit.takesWhole.mayTake_of_readPosition hcount hsecond with ⟨hcount, rfl⟩
  split at hread
  · cases hread
  rename_i taken hthird
  rcases taken with ⟨month, text⟩
  rcases readsScalar_limit.takesWhole.mayTake_of_readPosition hmonth hthird with ⟨hmonth, rfl⟩
  split at hread
  · cases hread
  rename_i taken hfourth
  rcases taken with ⟨year, text⟩
  rcases readsScalar_year.takesWhole.mayTake_of_readPosition hyear hfourth with ⟨hyear, rfl⟩
  cases hread
  exact ⟨hcount, hmonth, hyear⟩

namespace Wording

variable {wording : Wording} {text rest after : List Char} {query : Query}

theorem inRange_of_mayTake (hnumbers : wording.HasNumbers)
    (hcount : ∀ text ∈ wording.count, ∃ limit, MayTake readLimit text limit)
    (hmonth : ∀ text ∈ wording.month, ∃ limit, MayTake readLimit text limit)
    (hyear : ∀ text ∈ wording.year, ∃ year, MayTake readYear text year) : wording.InRange where
  count := by
    intro text htext
    rcases hcount text htext with ⟨limit, htake⟩
    exact writesInRange_of_mayTake_limit (hnumbers.count text htext) htake
  month := by
    intro text htext
    rcases hmonth text htext with ⟨limit, htake⟩
    exact writesInRange_of_mayTake_limit (hnumbers.month text htext) htake
  year := by
    intro text htext
    rcases hyear text htext with ⟨year, htake⟩
    exact writesInRange_of_mayTake_year (hnumbers.year text htext) htake

theorem areMembers_of_perm {parts further : List Member} {kind : Member}
    {count? month? year? : Option Member}
    (order : parts.Perm (kind :: (count?.toList ++ (month?.toList ++ (year?.toList ++ further)))))
    (hkind : kind.IsNamed "kind" ∧ IsString kind.value wording.kind.label.toList)
    (hcount : MayState "count" wording.count count?)
    (hmonth : MayState "month" wording.month month?)
    (hyear : MayState "year" wording.year year?)
    (hfurther : ∀ part ∈ further, part.IsFurther memberNames) (hnumbers : wording.HasNumbers) :
    AreMembers parts := by
  have hwell : ∀ part ∈ parts, Quoted.IsBody part.key ∧ IsValue part.value := by
    intro part hpart
    have hcases := order.mem_iff.mp hpart
    simp only [List.mem_cons, List.mem_append, Option.mem_toList] at hcases
    rcases hcases with rfl | hpart | hpart | hpart | hpart
    · exact ⟨hkind.1.isBody, hkind.2.isValue⟩
    · exact hcount.wellFormed hnumbers.count part hpart
    · exact hmonth.wellFormed hnumbers.month part hpart
    · exact hyear.wellFormed hnumbers.year part hpart
    · rcases hfurther part hpart with ⟨name, hnamed, -, hvalue⟩
      exact ⟨hnamed.isBody, hvalue⟩
  exact ⟨fun part hpart => (hwell part hpart).1, fun part hpart => (hwell part hpart).2⟩

theorem IsLayout.inRange (h : wording.IsLayout text) (hnumbers : wording.HasNumbers)
    (hread : reader (text ++ rest) = .ok (query, after)) : wording.InRange := by
  cases h with
  | list kind_eq count_eq month_eq year_eq last =>
      unfold reader readRecord at hread
      rw [listText_append, skipSpace_cons (by decide)] at hread
      simp only at hread
      split at hread
      · cases hread
      · rename_i hpositions
        rcases mayTake_of_readPositions kind_eq.isValue
          (count_eq ▸ isValue_getD_null hnumbers.count)
          (month_eq ▸ isValue_getD_null hnumbers.month)
          (year_eq ▸ isValue_getD_null hnumbers.year) hpositions with ⟨hcount, hmonth, hyear⟩
        apply inRange_of_mayTake hnumbers
        · exact exists_mayTake_of_eq count_eq ⟨_, hcount⟩
        · exact exists_mayTake_of_eq month_eq ⟨_, hmonth⟩
        · exact exists_mayTake_of_eq year_eq ⟨_, hyear⟩
  | @object parts further kind count? month? year? order kind_eq count_eq month_eq year_eq others
      last =>
      have hparts : AreMembers parts :=
        areMembers_of_perm order kind_eq count_eq month_eq year_eq others hnumbers
      -- A slot holds what was read from the member of its name, so the number there was read.
      rcases takesWholeMembers_readSlot.readRecord_objectText hparts hread with
        ⟨-, slots, hpassed, -⟩
      have htakes {field : RecordField Slots} (hfield : field ∈ fields) {part : Member}
          (hpart : part ∈ kind :: (count?.toList ++ (month?.toList ++ (year?.toList ++ further))))
          (hnamed : part.IsNamed field.name) : ∃ value, MayTake field.reader part.value value := by
        rcases readsFields.slot_of_mem hfield hpassed (order.mem_iff.mpr hpart) hnamed with
          ⟨value, htake, -⟩
        exact ⟨value, htake⟩
      simp only [List.mem_cons, List.mem_append, Option.mem_toList] at htakes
      apply inRange_of_mayTake hnumbers
      · apply count_eq.exists_mayTake
        intro part hpart
        exact htakes countField_mem (Or.inr (Or.inl hpart))
      · apply month_eq.exists_mayTake
        intro part hpart
        exact htakes monthField_mem (Or.inr (Or.inr (Or.inl hpart)))
      · apply year_eq.exists_mayTake
        intro part hpart
        exact htakes yearField_mem (Or.inr (Or.inr (Or.inr (Or.inl hpart))))

theorem IsLayout.reader_eq_ok_iff (h : wording.IsLayout text) (hnumbers : wording.HasNumbers)
    (hrest : EndsNumber rest) :
    reader (text ++ rest) = .ok (query, after) ↔ after = rest ∧ wording.Means query := by
  constructor
  · -- Numbers in range mean some query, and a layout of it is read as no other query.
    intro hread
    rcases exists_means_iff.mpr (h.inRange hnumbers hread) with ⟨other, hmeans⟩
    rw [(h.readsBack hmeans).reads rest hrest] at hread
    cases hread
    exact ⟨rfl, hmeans⟩
  · rintro ⟨rfl, hmeans⟩
    exact (h.readsBack hmeans).reads after hrest

theorem IsText.ofJson_eq_ok_iff (h : wording.IsText text) (hnumbers : wording.HasNumbers) :
    ofJson text = .ok query ↔ wording.Means query := by
  constructor
  · intro hread
    rcases h with ⟨hlayout, before, after⟩
    have hends : EndsNumber after.text := by
      rw [← List.append_nil after.text]
      apply after.endsNumber_append
      intro c hc
      cases hc
    unfold Query.ofJson at hread
    rw [ignoresSpace_reader.readAll_append] at hread
    rcases exists_of_readAll_eq_ok hread with ⟨rest, hfound⟩
    exact ((hlayout.reader_eq_ok_iff hnumbers hends).mp hfound).2
  · intro hmeans
    exact h.ofJson_eq_ok hmeans

end Wording

end Query
end SpokenSales
