import SpokenSales.Panel
import SpokenSales.Proofs.Catalog.Draft
import SpokenSales.Proofs.Catalog.Loading
import SpokenSales.Proofs.Cli.Printed
import SpokenSales.Proofs.Date.Plain

/-!
# Dates that are shown

A date is read from many spellings, but it is shown in one way: in an item of the panel, at the end
of a row, and in JSON.  What is shown names the day that the record names.  It has four digits for
the year exactly if four digits can write the year; other years are read too, and they are shown
with a sign.
-/

namespace SpokenSales

open Json

def Json.StatesDate (json text : List Char) : Prop :=
  ∃ entries value, entriesOf json = .ok entries ∧ ("date", value) ∈ entries ∧
    readAll readString value = .ok text

/-- Whether a text is the date of a product wherever the product is shown.  In a row it is what
follows the last space. -/
structure Product.ShowsDate (product : Product) (text : List Char) : Prop where
  item : (Panel.item product).date = String.ofList text
  row : ∃ front, Cli.row product = front ++ " sales  ".toList ++ text
  unspaced : ' ' ∉ text
  listed : StatesDate product.write text
  answered : StatesDate (Cli.sortedProduct product) text

/-- Whether a text names a day: it is read as the day, and it is plain unless four digits cannot
write the year.  In this case it is longer and begins with a sign. -/
structure Date.IsNamedBy (date : Date) (text : List Char) : Prop where
  reads : read? text = some date
  plain : IsPlain text ↔ date.HasPlainYear
  length_eq : text.length = 10 ↔ date.HasPlainYear
  signed : ¬date.HasPlainYear → ∃ sign rest, text = sign :: rest ∧ (sign = '-' ∨ sign = '+')

theorem Date.isNamedBy_write (date : Date) : date.IsNamedBy date.write where
  reads := read?_write date
  plain := isPlain_write_iff
  length_eq := length_write_eq_iff
  signed := fun h => (write_of_not_hasPlainYear h).2

theorem Product.showsDate_write (product : Product) : product.ShowsDate product.date.write := by
  have hread : readAll readString (string product.date.write) = .ok product.date.write :=
    (readsBack_quoted (Quoted.spells_flatMap_escaped _)).readAll_self
  have hdate : ("date", string product.date.write) ∈ product.members := by
    unfold members
    exact List.mem_append_right [_, _, _] List.mem_cons_self
  rcases Cli.entriesOf_sortedProduct product with ⟨entries, hentries, hperm⟩
  exact
    { item := rfl
      row := ⟨_, rfl⟩
      unspaced := Date.not_mem_write (by decide) (by decide) (by decide)
      listed := ⟨_, _, Cli.entriesOf_write product, hdate, hread⟩
      answered := ⟨entries, _, hentries, hperm.mem_iff.mp hdate, hread⟩ }

namespace Catalog

/-- Whether a product shows the day that a draft names, with a certain text. -/
def ShowsDay (draft : Draft) (product : Product) : Prop :=
  Date.read? draft.date = some product.date ∧
    ∃ text, product.ShowsDate text ∧ product.date.IsNamedBy text

theorem forall₂_showsDay {records : List Record} {drafts : List Draft} {products : List Product}
    (hdrafts : List.Forall₂ Draft.IsDraftOf records drafts)
    (hproducts : List.Forall₂ (fun record product => ∃ given, product = record.product given)
      records products) : List.Forall₂ ShowsDay drafts products := by
  induction hdrafts generalizing products with
  | nil =>
      cases hproducts
      exact .nil
  | cons hdraft _ ih =>
      cases hproducts with
      | cons hproduct hothers =>
          rcases hproduct with ⟨given, rfl⟩
          refine .cons ⟨hdraft.date, _, Product.showsDate_write _, ?_⟩ (ih hothers)
          exact Date.isNamedBy_write _

/-- Every product that is loaded shows the day of its record, as four digits, two and two exactly
if four digits can write the year. -/
theorem dates_shown {fresh : Nat → Uuid} {text : List Char} {catalog : List Product}
    (h : ofJson fresh text = .ok catalog) :
    ∃ drafts, Draft.listOfJson text = .ok drafts ∧ List.Forall₂ ShowsDay drafts catalog := by
  rcases ofJson_eq_ok h with ⟨records, hrecords, rfl⟩
  rcases Draft.exists_listOfJson hrecords with ⟨drafts, hlist, hdrafts⟩
  exact ⟨drafts, hlist, forall₂_showsDay hdrafts (forall₂_productsOf fresh records)⟩

def distantLamp : List Char :=
  "[[null,\"Lamp\",5,\"+10000-1-1\"]]".toList

def distantLampProduct : Product :=
  ⟨Uuid.supply 0 0, "Lamp", 5, ⟨10000, 1, 1, by decide⟩⟩

theorem ofJson_distantLamp : ofJson (Uuid.supply 0) distantLamp = .ok [distantLampProduct] := by
  decide +kernel

theorem dates_shown_distantLamp :
    ∃ drafts, Draft.listOfJson distantLamp = .ok drafts ∧
      List.Forall₂ ShowsDay drafts [distantLampProduct] :=
  dates_shown ofJson_distantLamp

/-- Not every date that is shown is plain. -/
theorem exists_signed_date :
    ofJson (Uuid.supply 0) distantLamp = .ok [distantLampProduct] ∧
      distantLampProduct.ShowsDate "+10000-01-01".toList ∧ "+10000-01-01".toList.length ≠ 10 ∧
      ¬Date.IsPlain "+10000-01-01".toList := by
  have hwrite : distantLampProduct.date.write = "+10000-01-01".toList := by
    decide +kernel
  have hlength : "+10000-01-01".toList.length ≠ 10 := by
    decide
  refine ⟨ofJson_distantLamp, ?_, hlength, fun hplain => hlength hplain.length_eq⟩
  rw [← hwrite]
  exact Product.showsDate_write distantLampProduct

end Catalog
end SpokenSales
