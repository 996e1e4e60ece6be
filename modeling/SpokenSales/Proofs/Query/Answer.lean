import SpokenSales.Query.Answer

/-!
# What an answer consists of

The products that match a query have exactly one order that ranks them and keeps products of the
same rank as they came.  The answer is that order, or as much of it as the query asks for.
-/

namespace SpokenSales

namespace Date

def Precedes (a b : Date) : Prop :=
  a.year < b.year ∨
    (a.year = b.year ∧ (a.month < b.month ∨ (a.month = b.month ∧ a.day < b.day)))

theorem rank_lt_iff {a b : Date} : a.rank < b.rank ↔ a.Precedes b := by
  have ha := daysInMonth_le a.year a.month
  have hb := daysInMonth_le b.year b.month
  have hav := a.valid
  have hbv := b.valid
  unfold IsCalendarDay at hav hbv
  unfold rank Precedes
  omega

theorem rank_eq_iff {a b : Date} : a.rank = b.rank ↔ a = b := by
  constructor
  · exact eq_of_rank_eq
  · intro h
    rw [h]

end Date

namespace Query

/-!
## Matching products

A product matches when its day is of the year and of the month that the query names.
-/

/-- Whether the day of a product is of the year and the month that a query names, if any. -/
def Matches (query : Query) (product : Product) : Prop :=
  (∀ year ∈ query.year, product.date.year = year.toInt) ∧
    (∀ month ∈ query.month, product.date.month = month.toNat)

theorem admits_iff {query : Query} {product : Product} :
    query.admits product = true ↔ query.Matches product := by
  unfold admits Matches
  cases query.year <;> cases query.month <;> simp

instance (query : Query) (product : Product) : Decidable (query.Matches product) :=
  decidable_of_iff (query.admits product = true) admits_iff

def found (query : Query) (products : List Product) : List Product :=
  products.filter fun product => query.Matches product

theorem filter_admits (query : Query) (products : List Product) :
    products.filter query.admits = query.found products := by
  unfold found
  apply List.filter_congr
  intro product _
  rw [Bool.eq_iff_iff, admits_iff, decide_eq_true_iff]

/-!
## Rankings

A ranking puts the larger key first.  Products with the same key are tied.
-/

/-- Whether a product ranks strictly before another in an answer of some kind. -/
def Outranks : Kind → Product → Product → Prop
  | .top, a, b => b.sales < a.sales
  | .bottom, a, b => a.sales < b.sales
  | .all, a, b => b.date.Precedes a.date
  | .unrecognized, a, b => b.date.Precedes a.date

def Tied : Kind → Product → Product → Prop
  | .top, a, b => a.sales = b.sales
  | .bottom, a, b => a.sales = b.sales
  | .all, a, b => a.date = b.date
  | .unrecognized, a, b => a.date = b.date

instance (kind : Kind) (a b : Product) : Decidable (Tied kind a b) := by
  cases kind <;> unfold Tied <;> infer_instance

/-- An order of some products in which none is outranked by a later one and tied products keep
the order they had. -/
structure IsRanking (kind : Kind) (products ranked : List Product) : Prop where
  perm : ranked.Perm products
  sorted : ranked.Pairwise fun a b => ¬ Outranks kind b a
  stable : ∀ a, (ranked.filter fun b => Tied kind a b) = products.filter fun b => Tied kind a b

def key : Kind → Product → Int
  | .top, a => a.sales.toNat
  | .bottom, a => -a.sales.toNat
  | .all, a => a.date.rank
  | .unrecognized, a => a.date.rank

theorem outranks_iff {kind : Kind} {a b : Product} :
    Outranks kind a b ↔ key kind b < key kind a := by
  cases kind with
  | top =>
      simp only [Outranks, key, UInt64.lt_iff_toNat_lt]
      omega
  | bottom =>
      simp only [Outranks, key, UInt64.lt_iff_toNat_lt]
      omega
  | all =>
      exact Date.rank_lt_iff.symm
  | unrecognized =>
      exact Date.rank_lt_iff.symm

instance (kind : Kind) (a b : Product) : Decidable (Outranks kind a b) :=
  decidable_of_iff (key kind b < key kind a) outranks_iff.symm

theorem tied_iff {kind : Kind} {a b : Product} : Tied kind a b ↔ key kind a = key kind b := by
  cases kind with
  | top =>
      simp only [Tied, key, ← UInt64.toNat_inj]
      omega
  | bottom =>
      simp only [Tied, key, ← UInt64.toNat_inj]
      omega
  | all =>
      exact Date.rank_eq_iff.symm
  | unrecognized =>
      exact Date.rank_eq_iff.symm

theorem before_iff {kind : Kind} {a b : Product} :
    before kind a b = true ↔ key kind b ≤ key kind a := by
  cases kind with
  | top =>
      simp only [before, key, decide_eq_true_eq, UInt64.le_iff_toNat_le]
      omega
  | bottom =>
      simp only [before, key, decide_eq_true_eq, UInt64.le_iff_toNat_le]
      omega
  | all =>
      simp only [before, key, decide_eq_true_eq]
  | unrecognized =>
      simp only [before, key, decide_eq_true_eq]

theorem before_iff_not_outranks {kind : Kind} {a b : Product} :
    before kind a b = true ↔ ¬ Outranks kind b a := by
  rw [before_iff, outranks_iff]
  omega

theorem before_trans (kind : Kind) (a b c : Product) (hab : before kind a b = true)
    (hbc : before kind b c = true) : before kind a c = true := by
  rw [before_iff] at hab hbc ⊢
  omega

theorem before_total (kind : Kind) (a b : Product) :
    (before kind a b || before kind b a) = true := by
  rw [Bool.or_eq_true, before_iff, before_iff]
  omega

/-!
## The one ranking

Sorting gives a ranking.  Two rankings of the same products begin with the same product, for the
first products of both are tied, and the first of those tied with them is the same in both.
-/

theorem filter_tied_mergeSort (kind : Kind) (a : Product) (products : List Product) :
    ((products.mergeSort (before kind)).filter fun b => Tied kind a b) =
      products.filter fun b => Tied kind a b := by
  have hinOrder : (products.filter fun b => Tied kind a b).Pairwise
      fun b c => before kind b c = true := by
    rw [List.pairwise_filter]
    apply List.pairwise_of_forall
    intro b c hb hc
    rw [decide_eq_true_eq, tied_iff] at hb hc
    rw [before_iff]
    omega
  have hsub : (products.filter fun b => Tied kind a b).Sublist
      (products.mergeSort (before kind)) :=
    List.sublist_mergeSort (before_trans kind) (before_total kind) hinOrder
      List.filter_sublist
  have hsub' : (products.filter fun b => Tied kind a b).Sublist
      ((products.mergeSort (before kind)).filter fun b => Tied kind a b) := by
    have hfilter := hsub.filter fun b => decide (Tied kind a b)
    rwa [List.filter_filter, funext fun b => Bool.and_self (decide (Tied kind a b))] at hfilter
  have hlength := ((List.mergeSort_perm products (before kind)).filter
    fun b => decide (Tied kind a b)).length_eq
  exact (hsub'.eq_of_length hlength.symm).symm

theorem isRanking_mergeSort (kind : Kind) (products : List Product) :
    IsRanking kind products (products.mergeSort (before kind)) where
  perm := List.mergeSort_perm products (before kind)
  sorted := by
    have hsorted := List.pairwise_mergeSort (before_trans kind) (before_total kind) products
    exact hsorted.imp fun hab => before_iff_not_outranks.mp hab
  stable := fun a => filter_tied_mergeSort kind a products

theorem head_tied {kind : Kind} {a b : Product} {as bs : List Product}
    (hperm : (a :: as).Perm (b :: bs))
    (ha : (a :: as).Pairwise fun a b => ¬ Outranks kind b a)
    (hb : (b :: bs).Pairwise fun a b => ¬ Outranks kind b a) : Tied kind a b := by
  have hab : key kind b ≤ key kind a := by
    have hmem : b ∈ a :: as := hperm.mem_iff.mpr List.mem_cons_self
    rcases List.mem_cons.mp hmem with heq | htail
    · exact Int.le_of_eq (congrArg (key kind) heq)
    · have hnot := List.rel_of_pairwise_cons ha htail
      rw [outranks_iff] at hnot
      omega
  have hba : key kind a ≤ key kind b := by
    have hmem : a ∈ b :: bs := hperm.mem_iff.mp List.mem_cons_self
    rcases List.mem_cons.mp hmem with heq | htail
    · exact Int.le_of_eq (congrArg (key kind) heq)
    · have hnot := List.rel_of_pairwise_cons hb htail
      rw [outranks_iff] at hnot
      omega
  rw [tied_iff]
  omega

theorem eq_of_filter_tied {kind : Kind} {as bs : List Product} (hperm : as.Perm bs)
    (ha : as.Pairwise fun a b => ¬ Outranks kind b a)
    (hb : bs.Pairwise fun a b => ¬ Outranks kind b a)
    (hfilter : ∀ c, (as.filter fun b => Tied kind c b) = bs.filter fun b => Tied kind c b) :
    as = bs := by
  induction as generalizing bs with
  | nil =>
      exact hperm.symm.eq_nil.symm
  | cons a as ih =>
      cases bs with
      | nil =>
          exact absurd hperm.eq_nil (List.cons_ne_nil a as)
      | cons b bs =>
          have htied : Tied kind a b := head_tied hperm ha hb
          have hself : Tied kind a a := tied_iff.mpr rfl
          have hheads := hfilter a
          rw [List.filter_cons_of_pos (by simpa using hself),
            List.filter_cons_of_pos (by simpa using htied)] at hheads
          have heq : a = b := (List.cons.inj hheads).1
          subst heq
          have hrest : ∀ c, (as.filter fun b => Tied kind c b) =
              bs.filter fun b => Tied kind c b := by
            intro c
            have hc := hfilter c
            by_cases hca : Tied kind c a
            · rw [List.filter_cons_of_pos (by simpa using hca),
                List.filter_cons_of_pos (by simpa using hca)] at hc
              exact (List.cons.inj hc).2
            · rw [List.filter_cons_of_neg (by simpa using hca),
                List.filter_cons_of_neg (by simpa using hca)] at hc
              exact hc
          rw [ih hperm.cons_inv (List.pairwise_cons.mp ha).2 (List.pairwise_cons.mp hb).2 hrest]

theorem IsRanking.eq {kind : Kind} {products as bs : List Product}
    (ha : IsRanking kind products as) (hb : IsRanking kind products bs) : as = bs := by
  apply eq_of_filter_tied (ha.perm.trans hb.perm.symm) ha.sorted hb.sorted
  intro c
  rw [ha.stable c, hb.stable c]

/-- If no two products have the same rank, there is no order to keep among those that do. -/
theorem isRanking_of_pairwise_outranks {kind : Kind} {products ranked : List Product}
    (hperm : ranked.Perm products) (h : ranked.Pairwise (Outranks kind)) :
    IsRanking kind products ranked where
  perm := hperm
  sorted := by
    apply h.imp
    intro a b hab
    rw [outranks_iff] at hab ⊢
    omega
  stable := by
    intro a
    have hfilter := hperm.filter fun b => decide (Tied kind a b)
    have hnone : (ranked.filter fun b => decide (Tied kind a b)).Pairwise fun _ _ => False := by
      rw [List.pairwise_filter]
      apply h.imp
      intro b c hbc hb hc
      rw [decide_eq_true_eq, tied_iff] at hb hc
      rw [outranks_iff] at hbc
      omega
    generalize ranked.filter (fun b => decide (Tied kind a b)) = tied at hfilter hnone
    rcases tied with _ | ⟨b, _ | ⟨c, tied⟩⟩
    · exact hfilter.nil_eq
    · exact List.singleton_perm.mp hfilter
    · exact absurd List.mem_cons_self (List.rel_of_pairwise_cons hnone)

/-!
## The answer

An unlimited query is answered with the whole ranking, a ranked one with its beginning.
-/

/-- As much of a ranking as a query asks for: nothing, if it is a ranked query without a count. -/
def kept (query : Query) (ranked : List Product) : List Product :=
  match query.kind, query.count with
  | .all, _ => ranked
  | .unrecognized, _ => ranked
  | .top, none => []
  | .bottom, none => []
  | .top, some count => ranked.take (min count.toNat ranked.length)
  | .bottom, some count => ranked.take (min count.toNat ranked.length)

theorem take_limit {query : Query} (h : query.kind.isRanked = true) (ranked : List Product) :
    ranked.take query.limit = query.kept ranked := by
  unfold kept limit
  cases hkind : query.kind <;> cases query.count <;> simp_all [Kind.isRanked]

theorem answer_eq_kept (query : Query) (products : List Product) :
    query.answer products =
      query.kept ((query.found products).mergeSort (before query.kind)) := by
  unfold answer
  rw [filter_admits]
  cases h : query.kind.isRanked with
  | true =>
      rw [if_pos rfl]
      exact take_limit h _
  | false =>
      rw [if_neg Bool.false_ne_true]
      unfold kept
      cases hkind : query.kind <;> simp_all [Kind.isRanked]

theorem exists_kept_append (query : Query) (ranked : List Product) :
    ∃ left, query.kept ranked ++ left = ranked := by
  unfold kept
  split
  · exact ⟨[], List.append_nil ranked⟩
  · exact ⟨[], List.append_nil ranked⟩
  · exact ⟨ranked, rfl⟩
  · exact ⟨ranked, rfl⟩
  · exact ⟨_, List.take_append_drop _ ranked⟩
  · exact ⟨_, List.take_append_drop _ ranked⟩

theorem exists_answer_append_perm (query : Query) (products : List Product) :
    ∃ left, (query.answer products ++ left).Perm (query.found products) := by
  rcases exists_kept_append query ((query.found products).mergeSort (before query.kind)) with
    ⟨left, hleft⟩
  refine ⟨left, ?_⟩
  rw [answer_eq_kept, hleft]
  exact List.mergeSort_perm _ _

/-- The products that match a query have exactly one ranking, and the answer is as much of it as
the query asks for.  What is left out completes the answer to all matching products, and none of
it outranks a product of the answer. -/
theorem answer_kept_of_ranking (query : Query) (products : List Product) :
    ∃ ranked left,
      (∀ other, IsRanking query.kind (query.found products) other ↔ other = ranked) ∧
      query.answer products = query.kept ranked ∧
      (query.answer products ++ left).Perm (query.found products) ∧
      ∀ a ∈ query.answer products, ∀ b ∈ left, ¬ Outranks query.kind b a := by
  have hranking := isRanking_mergeSort query.kind (query.found products)
  have hanswer := answer_eq_kept query products
  generalize (query.found products).mergeSort (before query.kind) = ranked at hranking hanswer
  rcases exists_kept_append query ranked with ⟨left, hleft⟩
  refine ⟨ranked, left, ?_, hanswer, ?_, ?_⟩
  · intro other
    constructor
    · intro hother
      exact hother.eq hranking
    · intro heq
      rw [heq]
      exact hranking
  · rw [hanswer, hleft]
    exact hranking.perm
  · intro a ha b hb
    rw [hanswer] at ha
    have hsorted := hranking.sorted
    rw [← hleft, List.pairwise_append] at hsorted
    exact hsorted.2.2 a ha b hb

end Query

/-!
## All products

Listing everything is sorting by date, and sorting again changes nothing.
-/

theorem mostRecentFirst_eq_mergeSort (products : List Product) :
    mostRecentFirst products = products.mergeSort (Query.before .unrecognized) := by
  have hadmits : products.filter Query.unrecognized.admits = products :=
    List.filter_eq_self.mpr fun _ _ => rfl
  unfold mostRecentFirst Query.answer
  rw [hadmits]
  rfl

theorem mostRecentFirst_perm (products : List Product) :
    (mostRecentFirst products).Perm products := by
  rw [mostRecentFirst_eq_mergeSort]
  exact List.mergeSort_perm products (Query.before .unrecognized)

theorem isRanking_mostRecentFirst (products : List Product) :
    Query.IsRanking .all products (mostRecentFirst products) := by
  have hbefore : Query.before .unrecognized = Query.before .all := rfl
  rw [mostRecentFirst_eq_mergeSort, hbefore]
  exact Query.isRanking_mergeSort .all products

theorem mostRecentFirst_mostRecentFirst (products : List Product) :
    mostRecentFirst (mostRecentFirst products) = mostRecentFirst products := by
  rw [mostRecentFirst_eq_mergeSort (mostRecentFirst products), mostRecentFirst_eq_mergeSort]
  apply List.mergeSort_of_pairwise
  exact List.pairwise_mergeSort (Query.before_trans .unrecognized)
    (Query.before_total .unrecognized) products

end SpokenSales
