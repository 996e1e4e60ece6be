import Mathlib.Data.Option.Defs
import SpokenSales.Proofs.Query.Written

/-!
# Ways to write a query

A query is worded by its kind and by the texts of the numbers in it.  A wording is laid out as an
object, with its members in any order and further members anywhere between them, or as the list of
its values.  What is absent is null, or it is left out of the object.  However a query is laid out,
it is read back, whether it is valid or not.
-/

namespace SpokenSales
namespace Query

open Json

/-!
## Layouts
-/

/-- A query as it is worded: its kind, and the texts of the numbers in it. -/
structure Wording where
  kind : Kind
  count : Option (List Char)
  month : Option (List Char)
  year : Option (List Char)

def wording (query : Query) : Wording :=
  ⟨query.kind, query.count.map fun n => Text.decimal n.toNat,
    query.month.map fun n => Text.decimal n.toNat, query.year.map fun n => Text.integer n.toInt⟩

/-- Whether a member states a text that may be absent.  The member may be left out then. -/
structure MayState (name : String) (text? : Option (List Char)) (part? : Option Member) :
    Prop where
  left_out : part? = none → text? = none
  stated : ∀ part ∈ part?, part.IsNamed name ∧ part.value = text?.getD null

namespace Wording

/-- Whether a text is a layout of a wording. -/
inductive IsLayout (wording : Wording) : List Char → Prop
  | object {parts further : List Member} {kind : Member} {count? month? year? : Option Member}
      (order : parts.Perm
        (kind :: (count?.toList ++ (month?.toList ++ (year?.toList ++ further)))))
      (kind_eq : kind.IsNamed "kind" ∧ IsString kind.value wording.kind.label.toList)
      (count_eq : MayState "count" wording.count count?)
      (month_eq : MayState "month" wording.month month?)
      (year_eq : MayState "year" wording.year year?)
      (others : ∀ part ∈ further, part.IsFurther memberNames) (last : Gap) :
      IsLayout wording (objectText parts last)
  | list {kind count month year : Element}
      (kind_eq : IsString kind.value wording.kind.label.toList)
      (count_eq : count.value = wording.count.getD null)
      (month_eq : month.value = wording.month.getD null)
      (year_eq : year.value = wording.year.getD null) (last : Gap) :
      IsLayout wording (listText [kind, count, month, year] last)

inductive IsText (wording : Wording) : List Char → Prop
  | mk {text : List Char} (h : wording.IsLayout text) (before after : Gap) :
      IsText wording (before.text ++ (text ++ after.text))

structure Means (wording : Wording) (query : Query) : Prop where
  kind : wording.kind = query.kind
  count : Option.Rel (fun text n => WritesInteger text n.toNat) wording.count query.count
  month : Option.Rel (fun text n => WritesInteger text n.toNat) wording.month query.month
  year : Option.Rel (fun text n => WritesInteger text n.toInt) wording.year query.year

end Wording

theorem means_wording (query : Query) : query.wording.Means query where
  kind := rfl
  count := by
    unfold wording
    cases query.count with
    | none =>
        exact .none
    | some n =>
        exact .some (writesInteger_decimal n.toNat)
  month := by
    unfold wording
    cases query.month with
    | none =>
        exact .none
    | some n =>
        exact .some (writesInteger_decimal n.toNat)
  year := by
    unfold wording
    cases query.year with
    | none =>
        exact .none
    | some n =>
        exact .some (writesInteger_integer n.toInt)

/-!
## Layouts are read back
-/

theorem ignoresSpace_reader : IgnoresSpace reader := by
  intro text
  unfold reader readRecord
  rw [skipSpace_skipSpace]

theorem readsBack_kind_of_isString {value : List Char} {kind : Kind}
    (h : IsString value kind.label.toList) : ReadsBack readKind value kind := by
  rcases h with ⟨body, rfl, hbody⟩
  exact readsBack_label hbody

theorem MayState.leads {name : String} {text? : Option (List Char)} {part? : Option Member}
    (h : MayState name text? part?) {reader : Reader (Option α)} {value : Option α}
    (hvalue : ReadsBack reader (text?.getD null) value) (hnone : text? = none → value = none) :
    (∀ part ∈ part?, part.IsNamed name ∧ ReadsBack reader part.value value) ∧
      (part?.map fun _ => value).join = value := by
  cases part? with
  | none =>
      refine ⟨?_, (hnone (h.left_out rfl)).symm⟩
      intro part hpart
      cases hpart
  | some part =>
      have hstated := h.stated part rfl
      refine ⟨?_, rfl⟩
      intro other hother
      cases hother
      rw [hstated.2]
      exact ⟨hstated.1, hvalue⟩

theorem readsBack_listText {query : Query} {kind count month year : Element}
    (hkind : ReadsBack readKind kind.value query.kind)
    (hcount : ReadsBack readLimit count.value query.count)
    (hmonth : ReadsBack readLimit month.value query.month)
    (hyear : ReadsBack readYear year.value query.year) (last : Gap) :
    ReadsBack reader (listText [kind, count, month, year] last) query where
  starts := ⟨'[', _, rfl, by decide, by decide⟩
  reads := by
    intro rest _
    have hstarts : ∀ element ∈ [kind, count, month, year], StartsValue element.value := by
      simp only [List.forall_mem_cons]
      exact ⟨hkind.starts, hcount.starts, hmonth.starts, hyear.starts, List.forall_mem_nil _⟩
    have hclose : closeList (remainder year.after [] last ']' rest) = .ok rest :=
      closeList_of_skipSpace (skipSpace_remainder_nil (by decide) year.after last rest)
    unfold reader readRecord
    rw [listText_append, skipSpace_cons (by decide)]
    simp only [readPositions, readPosition_listText hstarts, hkind.readPosition,
      hcount.readPosition, hmonth.readPosition, hyear.readPosition, bind, Except.bind, pure,
      Except.pure, List.map_nil, hclose]

namespace Wording

variable {wording : Wording} {text : List Char} {query : Query}

theorem IsLayout.readsBack (h : wording.IsLayout text) (hmeans : wording.Means query) :
    ReadsBack reader text query := by
  have hcount := readsBack_limit_of_rel hmeans.count
  have hmonth := readsBack_limit_of_rel hmeans.month
  have hyear := readsBack_year_of_rel hmeans.year
  have hnone {α : Type} {r : List Char → α → Prop} {text? : Option (List Char)}
      {value : Option α} (hrel : Option.Rel r text? value) (habsent : text? = none) :
      value = none := by
    cases hrel with
    | none =>
        rfl
    | some =>
        cases habsent
  cases h with
  | list kind_eq count_eq month_eq year_eq last =>
      rw [← count_eq] at hcount
      rw [← month_eq] at hmonth
      rw [← year_eq] at hyear
      rw [hmeans.kind] at kind_eq
      exact readsBack_listText (readsBack_kind_of_isString kind_eq) hcount hmonth hyear last
  | @object parts further kind count? month? year? order kind_eq count_eq month_eq year_eq others
      last =>
      rcases count_eq.leads hcount (hnone hmeans.count) with ⟨hcounts, hcount_join⟩
      rcases month_eq.leads hmonth (hnone hmeans.month) with ⟨hmonths, hmonth_join⟩
      rcases year_eq.leads hyear (hnone hmeans.year) with ⟨hyears, hyear_join⟩
      rw [hmeans.kind] at kind_eq
      let count := count?.map fun _ => query.count
      let month := month?.map fun _ => query.month
      let year := year?.map fun _ => query.year
      -- The members of the query are put in front of the further ones, the last of them first.
      have hfurther : LeadEach fields ⟨some query.kind, count, month, year⟩ further
          ⟨some query.kind, count, month, year⟩ := leadEach_further others _
      have hleads_year : LeadEach fields ⟨some query.kind, count, month, none⟩
          (year?.toList ++ further) ⟨some query.kind, count, month, year⟩ := by
        apply LeadEach.fill_toList readsFields yearField_mem _ rfl hyears
        cases year? <;> exact hfurther
      have hleads_month : LeadEach fields ⟨some query.kind, count, none, none⟩
          (month?.toList ++ (year?.toList ++ further)) ⟨some query.kind, count, month, year⟩ := by
        apply LeadEach.fill_toList readsFields monthField_mem _ rfl hmonths
        cases month? <;> exact hleads_year
      have hleads_count : LeadEach fields ⟨some query.kind, none, none, none⟩
          (count?.toList ++ (month?.toList ++ (year?.toList ++ further)))
          ⟨some query.kind, count, month, year⟩ := by
        apply LeadEach.fill_toList readsFields countField_mem _ rfl hcounts
        cases count? <;> exact hleads_month
      have hleads : LeadEach fields ⟨none, none, none, none⟩
          (kind :: (count?.toList ++ (month?.toList ++ (year?.toList ++ further))))
          ⟨some query.kind, count, month, year⟩ :=
        LeadEach.fill readsFields kindField_mem hleads_count rfl kind_eq.1
          (readsBack_kind_of_isString kind_eq.2)
      have hcomplete : Slots.complete ⟨some query.kind, count, month, year⟩ = .ok query := by
        show Except.ok (Query.mk query.kind count.join month.join year.join) = _
        rw [hcount_join, hmonth_join, hyear_join]
      exact readsBack_objectText ((hleads.perm order.symm).takesMembers readsFields) hcomplete
        last _

theorem IsText.ofJson_eq_ok (h : wording.IsText text) (hmeans : wording.Means query) :
    ofJson text = .ok query := by
  rcases h with ⟨hlayout, before, after⟩
  unfold Query.ofJson
  rw [ignoresSpace_reader.readAll_append]
  exact (hlayout.readsBack hmeans).readAll after.spaces

end Wording

/-!
## Queries read back
-/

theorem writeOptional_eq_getD (write : α → List Char) (value : Option α) :
    writeOptional write value = (value.map write).getD null := by
  cases value <;> rfl

theorem mayState_left_out (name : String) : MayState name none none where
  left_out := fun _ => rfl
  stated := by
    intro part hpart
    cases hpart

theorem mayState_some {name : String} {text? : Option (List Char)} {part : Member}
    (hnamed : part.IsNamed name) (hvalue : part.value = text?.getD null) :
    MayState name text? (some part) where
  left_out := by
    intro heq
    cases heq
  stated := by
    intro other hother
    cases hother
    exact ⟨hnamed, hvalue⟩

theorem mayState_compact (name : String) (write : α → List Char) (value : Option α) :
    MayState name (value.map write) (some (.compact (name, writeOptional write value))) :=
  mayState_some (Member.isNamed_compact _) (writeOptional_eq_getD write value)

theorem isText_write (query : Query) : query.wording.IsText query.write := by
  have hlayout : query.wording.IsLayout query.write := by
    unfold write
    rw [← objectText_compact]
    exact @Wording.IsLayout.object query.wording _ [] _ (some _) (some _) (some _) (.refl _)
      ⟨Member.isNamed_compact _, _, rfl, Quoted.spells_flatMap_escaped _⟩
      (mayState_compact "count" _ query.count) (mayState_compact "month" _ query.month)
      (mayState_compact "year" _ query.year) (List.forall_mem_nil _) .empty
  rw [← List.append_nil query.write]
  exact Wording.IsText.mk hlayout .empty .empty

theorem ofJson_write (query : Query) : ofJson query.write = .ok query :=
  query.isText_write.ofJson_eq_ok query.means_wording

/-- A query is read back from what is written of it and from every other layout of it, so that it
fails or passes the same check.  No two queries are written alike. -/
theorem ofJson_in_any_layout :
    (∀ query : Query, ofJson query.write = .ok query ∧
      (ofJson query.write).map validate = .ok query.validate) ∧
    (∀ (query : Query) text, query.wording.IsText text →
      ofJson text = .ok query ∧ (ofJson text).map validate = .ok query.validate) ∧
    Function.Injective write := by
  have hread (query : Query) (text : List Char) (htext : query.wording.IsText text) :
      ofJson text = .ok query ∧ (ofJson text).map validate = .ok query.validate := by
    have hquery := htext.ofJson_eq_ok query.means_wording
    rw [hquery]
    exact ⟨rfl, rfl⟩
  refine ⟨fun query => hread query _ query.isText_write, hread, ?_⟩
  intro query other heq
  have hquery := ofJson_write query
  rw [heq, ofJson_write other] at hquery
  cases hquery
  rfl

/-- The members of a query that is not valid, the last one first and one of them left out, behind
one that is skipped. -/
def miscountedMembers : List Member :=
  [.compact ("x", "[]".toList),
   ⟨.blank, "year".toList, .empty, .blank, "-5".toList, .empty⟩,
   ⟨.empty, "c\\u006funt".toList, .blank, .empty, "7".toList, .blank⟩,
   .compact ("kind", "\"non\\u0065\"".toList)]

theorem isText_miscountedMembers :
    (Query.mk .unrecognized (some 7) none (some (-5))).wording.IsText
      (' ' :: (objectText miscountedMembers .empty ++ ['\n'])) := by
  have hdigit {n : Nat} (hn : n < 10) : Text.decimal n = [Text.digitChar n] := by
    rw [Text.decimal, if_pos hn]
  have hseven : Text.decimal (7 : UInt32).toNat = "7".toList := hdigit (by decide)
  have hminus : Text.integer (-5 : Int32).toInt = "-5".toList := by
    unfold Text.integer
    rw [if_pos (by decide), hdigit (by decide)]
    rfl
  have horder : miscountedMembers.Perm miscountedMembers.reverse :=
    (List.reverse_perm miscountedMembers).symm
  have hlayout : (Query.mk .unrecognized (some 7) none (some (-5))).wording.IsLayout
      (objectText miscountedMembers .empty) := by
    apply @Wording.IsLayout.object _ _ [_] _ (some _) none (some _) horder
    · exact ⟨by decide, "non\\u0065".toList, rfl, by decide +kernel⟩
    · exact mayState_some (by decide +kernel) hseven.symm
    · exact mayState_left_out "month"
    · exact mayState_some (by decide) hminus.symm
    · intro part hpart
      rw [List.mem_singleton.mp hpart]
      exact ⟨"x", by decide, by decide, @IsValue.list [] (List.forall_mem_nil _) .empty⟩
  exact Wording.IsText.mk hlayout .blank ⟨['\n'], List.forall_mem_singleton.mpr rfl⟩

theorem ofJson_in_any_layout_miscountedMembers :
    (ofJson (' ' :: (objectText miscountedMembers .empty ++ ['\n']))).map validate =
      .ok (.error (.unexpectedCount .unrecognized)) :=
  (ofJson_in_any_layout.2.1 _ _ isText_miscountedMembers).2

end Query
end SpokenSales
