import SpokenSales.Query.Basic

/-!
# Valid queries

A query passes validation if its count goes with its kind, an unrecognized query asks for nothing,
and a month is one of the calendar.
-/

namespace SpokenSales
namespace Query

structure IsValid (query : Query) : Prop where
  counted : query.kind.isRanked = query.count.isSome
  positive : ∀ count ∈ query.count, 1 ≤ count.toNat
  unfiltered : query.kind = .unrecognized → query.month = none ∧ query.year = none
  inCalendar : ∀ month ∈ query.month, 1 ≤ month.toNat ∧ month.toNat ≤ 12

theorem one_le_toNat_iff {n : UInt32} : 1 ≤ n.toNat ↔ n ≠ 0 := by
  rw [ne_eq, ← UInt32.toNat_inj, UInt32.toNat_zero]
  omega

theorem checkCount_eq_ok_iff {query : Query} :
    query.checkCount = .ok () ↔
      query.kind.isRanked = query.count.isSome ∧ ∀ count ∈ query.count, 1 ≤ count.toNat := by
  unfold checkCount
  cases query.kind.isRanked with
  | true =>
      cases query.count with
      | none =>
          simp
      | some count =>
          simp [one_le_toNat_iff]
  | false =>
      cases query.count <;> simp

theorem checkFilters_eq_ok_iff {query : Query} :
    query.checkFilters = .ok () ↔
      (query.kind = .unrecognized → query.month = none ∧ query.year = none) ∧
        ∀ month ∈ query.month, 1 ≤ month.toNat ∧ month.toNat ≤ 12 := by
  unfold checkFilters
  by_cases hkind : query.kind = .unrecognized
  · cases query.month <;> cases query.year <;> simp [hkind]
  · cases query.month with
    | none =>
        simp [hkind]
    | some month =>
        simp [hkind, UInt32.le_iff_toNat_le]

theorem validate_eq_ok_iff {query : Query} : query.validate = .ok () ↔ query.IsValid := by
  have hchecks : query.validate = .ok () ↔
      query.checkCount = .ok () ∧ query.checkFilters = .ok () := by
    unfold validate
    cases query.checkCount <;> simp
  rw [hchecks, checkCount_eq_ok_iff, checkFilters_eq_ok_iff]
  constructor
  · rintro ⟨⟨hcounted, hpositive⟩, hunfiltered, hcalendar⟩
    exact ⟨hcounted, hpositive, hunfiltered, hcalendar⟩
  · intro h
    exact ⟨⟨h.counted, h.positive⟩, h.unfiltered, h.inCalendar⟩

theorem IsValid.eq_unrecognized {query : Query} (h : query.IsValid)
    (hkind : query.kind = .unrecognized) : query = unrecognized := by
  have hcount : query.count = none := by
    have hcounted := h.counted
    rw [hkind] at hcounted
    exact Option.isNone_iff_eq_none.mp (Option.isSome_eq_false_iff.mp hcounted.symm)
  rcases h.unfiltered hkind with ⟨hmonth, hyear⟩
  cases query with
  | mk kind count month year =>
      simp only at hkind hcount hmonth hyear
      rw [hkind, hcount, hmonth, hyear]
      rfl

end Query
end SpokenSales
