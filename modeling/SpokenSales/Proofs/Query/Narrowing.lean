import Mathlib.Data.List.Permutation
import SpokenSales.Proofs.Query.Answer

/-!
# Answers from longer lists

An answer can be had from a list that is longer than it and already in order: from the listing of
all products, from the answer to a larger count, or from itself.
-/

namespace SpokenSales
namespace Query

/-!
## Rankings of fewer products
-/

theorem IsRanking.filter {kind : Kind} {products ranked : List Product}
    (h : IsRanking kind products ranked) (keep : Product → Bool) :
    IsRanking kind (products.filter keep) (ranked.filter keep) where
  perm := h.perm.filter keep
  sorted := h.sorted.filter keep
  stable := by
    intro a
    have hswap (list : List Product) : (list.filter keep).filter (fun b => Tied kind a b) =
        (list.filter fun b => Tied kind a b).filter keep := by
      rw [List.filter_filter, List.filter_filter]
      exact List.filter_congr fun b _ => Bool.and_comm _ _
    rw [hswap, h.stable a, hswap]

theorem isRanking_self {kind : Kind} {ranked : List Product}
    (h : ranked.Pairwise fun a b => ¬ Outranks kind b a) : IsRanking kind ranked ranked where
  perm := List.Perm.refl ranked
  sorted := h
  stable := fun _ => rfl

theorem IsRanking.mergeSort_eq {kind : Kind} {products ranked : List Product}
    (h : IsRanking kind products ranked) : products.mergeSort (before kind) = ranked :=
  (isRanking_mergeSort kind products).eq h

theorem before_eq_of_unranked {kind : Kind} (h : kind.isRanked = false) :
    before kind = before .unrecognized := by
  cases kind with
  | top =>
      cases h
  | bottom =>
      cases h
  | all =>
      rfl
  | unrecognized =>
      rfl

/-!
## What is kept
-/

theorem kept_sublist (query : Query) (ranked : List Product) :
    (query.kept ranked).Sublist ranked := by
  rcases exists_kept_append query ranked with ⟨left, hleft⟩
  conv =>
    rhs
    rw [← hleft]
  exact List.sublist_append_left _ left

theorem kept_of_unranked {query : Query} (h : query.kind.isRanked = false)
    (ranked : List Product) : query.kept ranked = ranked := by
  unfold kept
  cases hkind : query.kind <;> simp_all [Kind.isRanked]

theorem kept_kept (query : Query) (ranked : List Product) :
    query.kept (query.kept ranked) = query.kept ranked := by
  cases h : query.kind.isRanked with
  | true =>
      rw [← take_limit h, ← take_limit h, List.take_take, Nat.min_self]
  | false =>
      rw [kept_of_unranked h]

/-!
## Answers
-/

theorem answer_matches {query : Query} {products : List Product} {product : Product}
    (h : product ∈ query.answer products) : query.Matches product := by
  rcases exists_answer_append_perm query products with ⟨left, hperm⟩
  have hfound : product ∈ query.found products :=
    hperm.mem_iff.mp (List.mem_append_left left h)
  exact of_decide_eq_true (List.mem_filter.mp hfound).2

theorem answer_answer (query : Query) (products : List Product) :
    query.answer (query.answer products) = query.answer products := by
  have hfound : query.found (query.answer products) = query.answer products := by
    apply List.filter_eq_self.mpr
    intro product hproduct
    exact decide_eq_true (answer_matches hproduct)
  have hsorted : (query.answer products).Pairwise fun a b => ¬ Outranks query.kind b a := by
    rw [answer_eq_kept]
    exact (isRanking_mergeSort query.kind _).sorted.sublist (kept_sublist query _)
  rw [answer_eq_kept query (query.answer products), hfound, (isRanking_self hsorted).mergeSort_eq,
    answer_eq_kept, kept_kept]

theorem answer_of_unranked {query : Query} (h : query.kind.isRanked = false)
    (products : List Product) :
    query.answer products = query.found (mostRecentFirst products) := by
  have hlisting : IsRanking query.kind products (mostRecentFirst products) := by
    rw [mostRecentFirst_eq_mergeSort, ← before_eq_of_unranked h]
    exact isRanking_mergeSort query.kind products
  rw [answer_eq_kept, kept_of_unranked h]
  exact (hlisting.filter _).mergeSort_eq

theorem answer_of_ranked {query : Query} (h : query.kind.isRanked = true)
    (products : List Product) :
    query.answer products =
      ((query.found products).mergeSort (before query.kind)).take query.limit := by
  rw [answer_eq_kept, take_limit h]

theorem answer_of_limit_le {query wider : Query} (hranked : query.kind.isRanked = true)
    (hkind : wider.kind = query.kind) (hmonth : wider.month = query.month)
    (hyear : wider.year = query.year) (hlimit : query.limit ≤ wider.limit)
    (products : List Product) :
    query.answer products =
      (wider.answer products).take (min query.limit (wider.answer products).length) := by
  have hmatches : wider.Matches = query.Matches := by
    unfold Matches
    rw [hmonth, hyear]
  have hfound : wider.found products = query.found products := by
    unfold found
    simp only [hmatches]
  have hwider : wider.kind.isRanked = true := by
    rw [hkind]
    exact hranked
  rw [← List.take_eq_take_min, answer_of_ranked hranked, answer_of_ranked hwider, hfound, hkind,
    List.take_take, Nat.min_eq_left hlimit]

/-- Answering a query from its own answer changes nothing.  An unlimited query is answered with
the listing of all products, less those that do not match.  Of two ranked queries with all but the
count in common, the one with the smaller count is answered with the beginning of the answer to
the other. -/
theorem answer_narrows (query : Query) (products : List Product) :
    query.answer (query.answer products) = query.answer products ∧
      (query.kind = .all ∨ query.kind = .unrecognized → query.answer products =
        (mostRecentFirst products).filter fun product => query.Matches product) ∧
      (query.kind = .top ∨ query.kind = .bottom → ∀ count larger, query.count = some count →
        count ≤ larger →
          let longer := ({ query with count := some larger } : Query).answer products
          query.answer products = longer.take (min count.toNat longer.length)) := by
  refine ⟨answer_answer query products, ?_, ?_⟩
  · intro hkind
    apply answer_of_unranked
    rcases hkind with hkind | hkind <;> rw [hkind] <;> rfl
  · intro hkind count larger hcount hle
    have hranked : query.kind.isRanked = true := by
      rcases hkind with hkind | hkind <;> rw [hkind] <;> rfl
    have hlimit : query.limit = count.toNat := by
      unfold limit
      rw [hcount]
    rw [← hlimit]
    apply answer_of_limit_le hranked
    · rfl
    · rfl
    · rfl
    · rw [hlimit]
      exact UInt32.le_iff_toNat_le.mp hle

/-- Three products of one day, two of them with the same sales. -/
def sameDay : List Product :=
  [⟨⟨1#128⟩, "Lamp", 5, ⟨2024, 3, 6, by decide⟩⟩,
   ⟨⟨2#128⟩, "Desk", 9, ⟨2024, 3, 6, by decide⟩⟩,
   ⟨⟨3#128⟩, "Sofa", 5, ⟨2024, 3, 6, by decide⟩⟩]

theorem answer_narrows_sameDay :
    let bottom : UInt32 → Query := fun count => .bottom count (some 3) none
    let all : Query := .all (some 3) none
    ((bottom 2).answer sameDay).map Product.name = ["Lamp", "Sofa"] ∧
      (bottom 2).answer ((bottom 2).answer sameDay) = (bottom 2).answer sameDay ∧
      (bottom 1).answer sameDay = ((bottom 2).answer sameDay).take 1 ∧
      all.answer sameDay =
        (mostRecentFirst sameDay).filter fun product => all.Matches product := by
  intro bottom all
  have hnames : ((bottom 2).answer sameDay).map Product.name = ["Lamp", "Sofa"] := by
    cbv
  have hlength : ((bottom 2).answer sameDay).length = 2 := by
    rw [← List.length_map (f := Product.name), hnames]
    rfl
  have hcut := (answer_narrows (bottom 1) sameDay).2.2 (Or.inr rfl) 1 2 rfl (by decide)
  change (bottom 1).answer sameDay =
    ((bottom 2).answer sameDay).take (min 1 ((bottom 2).answer sameDay).length) at hcut
  rw [hlength] at hcut
  exact ⟨hnames, (answer_narrows (bottom 2) sameDay).1, hcut,
    (answer_narrows all sameDay).2.1 (Or.inl rfl)⟩

end Query
end SpokenSales
