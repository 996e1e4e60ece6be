import SpokenSales.Assistant
import SpokenSales.Proofs.Catalog.Draft
import SpokenSales.Proofs.Command.Phrase
import SpokenSales.Proofs.Date.Plain

/-!
# Listings of a period

A catalog is loaded from written dates, and a month or a year is asked for in words.  If the dates
are plain, the answer can be told from their texts: it has the products whose dates begin with the
year, or with the year and the month, and the texts in descending order.
-/

namespace SpokenSales

/-!
## Products of drafts
-/

/-- Whether a product has been made from a draft, and its date is written as the draft has it. -/
structure Draft.Makes (draft : Draft) (product : Product) : Prop where
  id : ∀ id ∈ draft.id, product.id = id
  name : product.name = draft.name
  sales : product.sales = draft.sales
  date : product.date.write = draft.date

theorem Draft.IsDraftOf.makes {record : Record} {draft : Draft} (h : IsDraftOf record draft)
    (hplain : Date.IsPlain draft.date) (given : Uuid) : draft.Makes (record.product given) where
  id := by
    intro id hid
    rw [← h.id] at hid
    unfold Record.product
    rw [hid]
    rfl
  name := h.name
  sales := h.sales
  date := (Date.write_of_isPlain hplain h.date).1

namespace Catalog

theorem forall₂_makes {fresh : Nat → Uuid} {records : List Record} {drafts : List Draft}
    (h : List.Forall₂ Draft.IsDraftOf records drafts)
    (hplain : ∀ draft ∈ drafts, Date.IsPlain draft.date) :
    List.Forall₂ Draft.Makes drafts (productsOf fresh records) ∧
      ∀ product ∈ productsOf fresh records, product.date.HasPlainYear := by
  induction h generalizing fresh with
  | nil =>
      refine ⟨List.Forall₂.nil, ?_⟩
      intro product hproduct
      cases hproduct
  | @cons record draft records drafts hdraft hdrafts ih =>
      have hfirst := hplain draft List.mem_cons_self
      rcases ih (fun other hother => hplain other (List.mem_cons_of_mem draft hother)) with
        ⟨hothers, hyears⟩
      rw [productsOf_cons]
      refine ⟨List.Forall₂.cons (hdraft.makes hfirst _) hothers, ?_⟩
      intro product hproduct
      rcases List.mem_cons.mp hproduct with heq | hmem
      · rw [heq]
        exact (Date.write_of_isPlain hfirst hdraft.date).2
      · exact hyears product hmem

end Catalog

/-!
## Listings by written dates
-/

/-- The products whose written dates have a certain beginning. -/
def begunBy (start : List Char) (catalog : List Product) : List Product :=
  catalog.filter fun product => start.isPrefixOf product.date.write

/-- Whether a list has the products whose written dates have a certain beginning, in descending
order of the written dates, and in the order of the catalog where these are equal. -/
structure IsListing (start : List Char) (catalog listed : List Product) : Prop where
  perm : listed.Perm (begunBy start catalog)
  sorted : listed.Pairwise fun a b => ¬a.date.write < b.date.write
  stable : ∀ written, (listed.filter fun product => product.date.write = written) =
    (begunBy start catalog).filter fun product => product.date.write = written

/-!
## Listings are rankings

Plain dates are ordered by their texts as they are by the calendar.
-/

section

variable {start : List Char} {query : Query} {catalog : List Product}
  (hyears : ∀ product ∈ catalog, product.date.HasPlainYear)
  (hstart : ∀ product ∈ catalog, query.Matches product ↔ start <+: product.date.write)

include hstart in
theorem begunBy_eq_found : begunBy start catalog = query.found catalog := by
  unfold begunBy Query.found
  apply List.filter_congr
  intro product hproduct
  rw [Bool.eq_iff_iff, List.isPrefixOf_iff_prefix, decide_eq_true_iff]
  exact (hstart product hproduct).symm

theorem pairwise_written_iff {listed : List Product}
    (hlisted : ∀ product ∈ listed, product.date.HasPlainYear) :
    (listed.Pairwise fun a b => ¬a.date.write < b.date.write) ↔
      listed.Pairwise fun a b => ¬Query.Outranks .all b a := by
  apply List.Pairwise.iff_of_mem
  intro a b ha hb
  exact not_congr (Date.write_lt_write_iff (hlisted a ha) (hlisted b hb))

theorem filter_written_eq (date : Date) (products : List Product) :
    (products.filter fun product => product.date.write = date.write) =
      products.filter fun product => date = product.date := by
  apply List.filter_congr
  intro product _
  rw [decide_eq_decide, Date.write_inj]
  exact eq_comm

theorem stable_written_iff {listed products : List Product} (hperm : listed.Perm products) :
    (∀ written, (listed.filter fun product => product.date.write = written) =
      products.filter fun product => product.date.write = written) ↔
      ∀ a, (listed.filter fun b => Query.Tied .all a b) =
        products.filter fun b => Query.Tied .all a b := by
  constructor
  · intro hwritten a
    have hdate := hwritten a.date.write
    rw [filter_written_eq, filter_written_eq] at hdate
    exact hdate
  · intro htied written
    by_cases hsome : ∃ a ∈ products, a.date.write = written
    · rcases hsome with ⟨a, -, hwritten⟩
      rw [← hwritten, filter_written_eq, filter_written_eq]
      exact htied a
    · have hnone : (products.filter fun product => product.date.write = written) = [] := by
        simpa using hsome
      have hempty := hperm.filter fun product => product.date.write = written
      rw [hnone] at hempty
      rw [hnone]
      exact hempty.eq_nil

include hyears hstart in
theorem isListing_iff {listed : List Product} :
    IsListing start catalog listed ↔ Query.IsRanking .all (query.found catalog) listed := by
  have hlisted (hperm : listed.Perm (query.found catalog)) :
      ∀ product ∈ listed, product.date.HasPlainYear := by
    intro product hproduct
    exact hyears product (List.mem_filter.mp (hperm.mem_iff.mp hproduct)).1
  constructor
  · rintro ⟨hperm, hsorted, hstable⟩
    rw [begunBy_eq_found hstart] at hperm hstable
    exact ⟨hperm, (pairwise_written_iff (hlisted hperm)).mp hsorted,
      (stable_written_iff hperm).mp hstable⟩
  · rintro ⟨hperm, hsorted, hstable⟩
    refine ⟨?_, (pairwise_written_iff (hlisted hperm)).mpr hsorted, ?_⟩
    · rw [begunBy_eq_found hstart]
      exact hperm
    · rw [begunBy_eq_found hstart]
      exact (stable_written_iff hperm).mpr hstable

end

/-!
## Asking for a period
-/

namespace Command

def monthCommand (month : Month) (year : Year) : String :=
  String.ofList (sentence ["all".toList, month.text, year.text])

def yearCommand (year : Year) : String :=
  String.ofList (sentence ["all".toList, year.text])

theorem parse_monthCommand (month : Month) (year : Year) :
    parse (monthCommand month year).toList = Query.all (some month.number) (some year.value) := by
  unfold monthCommand
  rw [String.toList_ofList, parse_sentence]
  exact parse_unlimited [] [.month month, .year year] rfl

theorem parse_yearCommand (year : Year) :
    parse (yearCommand year).toList = Query.all none (some year.value) := by
  unfold yearCommand
  rw [String.toList_ofList, parse_sentence]
  exact parse_unlimited [] [.year year] rfl

theorem Year.toInt_value (year : Year) : year.value.toInt = year.number := by
  have hnumber := year.fourDigits
  have hpow : Nat.pow 10 4 = 10000 := rfl
  apply Int32.toInt_ofNat_of_lt
  omega

end Command

namespace Assistant

open Command

/-- Whether a response has no warning and its products are the one listing with a certain
beginning of the written dates. -/
structure Lists (response : Response) (start : List Char) (catalog : List Product) : Prop where
  warning : response.warning = none
  products : ∀ listed, IsListing start catalog listed ↔ listed = response.products

theorem lists_respond {catalog : List Product} {text : String} {month : Option UInt32}
    {year : Option Int32} {start : List Char}
    (hyears : ∀ product ∈ catalog, product.date.HasPlainYear)
    (hquery : parse text.toList = Query.all month year)
    (hstart : ∀ product ∈ catalog,
      (Query.all month year).Matches product ↔ start <+: product.date.write) :
    Lists (respond catalog text) start catalog := by
  have hranking := Query.isRanking_mergeSort .all ((Query.all month year).found catalog)
  unfold respond
  simp only [hquery]
  refine ⟨rfl, ?_⟩
  intro listed
  rw [isListing_iff hyears hstart, Query.answer_eq_kept]
  constructor
  · intro hlisted
    exact hlisted.eq hranking
  · intro heq
    rw [heq]
    exact hranking

theorem lists_monthCommand {catalog : List Product}
    (hyears : ∀ product ∈ catalog, product.date.HasPlainYear) (month : Month) (year : Year) :
    Lists (respond catalog (monthCommand month year))
      (Date.monthStart year.number month.number.toNat) catalog := by
  have hmonth : month.number.toNat < Nat.pow 10 2 := by
    have hcalendar := month.inCalendar
    have hpow : Nat.pow 10 2 = 100 := rfl
    omega
  apply lists_respond hyears (parse_monthCommand month year)
  intro product hproduct
  rw [Date.monthStart_prefix_write_iff (hyears product hproduct) year.fourDigits hmonth,
    ← year.toInt_value]
  simp [Query.Matches, Query.all]

theorem lists_yearCommand {catalog : List Product}
    (hyears : ∀ product ∈ catalog, product.date.HasPlainYear) (year : Year) :
    Lists (respond catalog (yearCommand year)) (Date.yearStart year.number) catalog := by
  apply lists_respond hyears (parse_yearCommand year)
  intro product hproduct
  rw [Date.yearStart_prefix_write_iff (hyears product hproduct) year.fourDigits,
    ← year.toInt_value]
  simp [Query.Matches, Query.all]

/-- A text from which a catalog is loaded has drafts.  If their dates are plain, the products have
the dates as written there, and asking for a month or for a year lists the products whose written
dates begin with it. -/
theorem respond_period (fresh : Nat → Uuid) (text : List Char) (catalog : List Product)
    (h : Catalog.ofJson fresh text = .ok catalog) :
    ∃ drafts, Draft.listOfJson text = .ok drafts ∧
      ((∀ draft ∈ drafts, Date.IsPlain draft.date) →
        List.Forall₂ Draft.Makes drafts catalog ∧
        (∀ month year, Lists (respond catalog (monthCommand month year))
          (Date.monthStart year.number month.number.toNat) catalog) ∧
        ∀ year, Lists (respond catalog (yearCommand year)) (Date.yearStart year.number)
          catalog) := by
  rcases Catalog.ofJson_eq_ok h with ⟨records, hrecords, hcatalog⟩
  rcases Draft.exists_listOfJson hrecords with ⟨drafts, hdrafts, hmade⟩
  refine ⟨drafts, hdrafts, ?_⟩
  intro hplain
  rcases @Catalog.forall₂_makes fresh _ _ hmade hplain with ⟨hmakes, hyears⟩
  rw [hcatalog]
  exact ⟨hmakes, lists_monthCommand hyears, lists_yearCommand hyears⟩

def twoOfMarch : List Char :=
  "[[null,\"Lamp\",1,\"2024-03-17\"],[null,\"Desk\",2,\"2023-12-31\"],
    [null,\"Sofa\",3,\"2024-03-17\"]]".toList

def twoOfMarchProducts : List Product :=
  [⟨Uuid.supply 0 0, "Lamp", 1, ⟨2024, 3, 17, by decide⟩⟩,
   ⟨Uuid.supply 0 1, "Desk", 2, ⟨2023, 12, 31, by decide⟩⟩,
   ⟨Uuid.supply 0 2, "Sofa", 3, ⟨2024, 3, 17, by decide⟩⟩]

theorem respond_period_twoOfMarch :
    Catalog.ofJson (Uuid.supply 0) twoOfMarch = .ok twoOfMarchProducts ∧
      (respond twoOfMarchProducts "all march 2024").products =
        [twoOfMarchProducts[0], twoOfMarchProducts[2]] := by
  have hcatalog : Catalog.ofJson (Uuid.supply 0) twoOfMarch = .ok twoOfMarchProducts := by
    decide +kernel
  rcases respond_period _ _ _ hcatalog with ⟨drafts, hdrafts, hlists⟩
  have hdates : drafts.map Draft.date =
      ["2024-03-17".toList, "2023-12-31".toList, "2024-03-17".toList] := by
    have hread : (Draft.listOfJson twoOfMarch).map (fun drafts => drafts.map Draft.date) =
        .ok ["2024-03-17".toList, "2023-12-31".toList, "2024-03-17".toList] := by
      decide +kernel
    rw [hdrafts] at hread
    exact Except.ok.inj hread
  have hplain : ∀ draft ∈ drafts, Date.IsPlain draft.date := by
    have hmarch : Date.IsPlain "2024-03-17".toList :=
      ⟨"2024".toList, "03".toList, "17".toList, rfl, by decide, by decide, by decide⟩
    have hdecember : Date.IsPlain "2023-12-31".toList :=
      ⟨"2023".toList, "12".toList, "31".toList, rfl, by decide, by decide, by decide⟩
    have hall : ∀ date ∈ drafts.map Draft.date, Date.IsPlain date := by
      rw [hdates, List.forall_mem_cons, List.forall_mem_cons, List.forall_mem_singleton]
      exact ⟨hmarch, hdecember, hmarch⟩
    intro draft hdraft
    exact hall draft.date (List.mem_map_of_mem hdraft)
  have hcommand : monthCommand ⟨3, by decide, by decide⟩ ⟨2024, by decide⟩ =
      "all march 2024" := by
    decide +kernel
  have hmarch := (hlists hplain).2.1 ⟨3, by decide, by decide⟩ ⟨2024, by decide⟩
  rw [hcommand] at hmarch
  refine ⟨hcatalog, ((hmarch.products _).mp ?_).symm⟩
  have hbegun : begunBy (Date.monthStart 2024 3) twoOfMarchProducts =
      [twoOfMarchProducts[0], twoOfMarchProducts[2]] := by
    decide +kernel
  refine ⟨?_, by decide +kernel, ?_⟩
  · exact List.Perm.of_eq hbegun.symm
  · intro written
    exact congrArg _ hbegun.symm

end Assistant
end SpokenSales
