import Mathlib.Order.WellFounded
import SpokenSales.Proofs.Catalog.Accepted

/-!
# The first offence

A product offends if it is invalid or repeats the identifier of an earlier product.  Products
without an offence are a catalog, and otherwise the first offence says why they are none.
-/

namespace SpokenSales
namespace Catalog

/-- Whether the product at a position is invalid or has the identifier of an earlier one. -/
def Offends (products : List Product) (i : Fin products.length) : Prop :=
  products[i].validate ≠ .ok () ∨ ∃ j < i, products[j].id = products[i].id

instance (products : List Product) (i : Fin products.length) : Decidable (Offends products i) :=
  inferInstanceAs (Decidable (_ ∨ _))

/-- Whether the offence at a position is the first one. -/
structure IsFirstOffence (products : List Product) (i : Fin products.length) : Prop where
  offends : Offends products i
  first : ∀ j < i, ¬ Offends products j

instance (products : List Product) (i : Fin products.length) :
    Decidable (IsFirstOffence products i) :=
  decidable_of_iff (Offends products i ∧ ∀ j < i, ¬ Offends products j)
    ⟨fun h => ⟨h.1, h.2⟩, fun h => ⟨h.offends, h.first⟩⟩

theorem isCatalog_iff_not_offends {products : List Product} :
    IsCatalog products ↔ ∀ i, ¬ Offends products i := by
  constructor
  · rintro h i (hinvalid | ⟨j, hj, hid⟩)
    · exact hinvalid (h.valid _ (List.getElem_mem i.isLt))
    · have hdistinct := h.distinct
      unfold List.Nodup at hdistinct
      rw [List.pairwise_map, List.pairwise_iff_getElem] at hdistinct
      exact hdistinct j i j.isLt i.isLt hj hid
  · intro h
    constructor
    · intro product hproduct
      rcases List.getElem_of_mem hproduct with ⟨i, hi, rfl⟩
      exact not_not.mp fun hinvalid => h ⟨i, hi⟩ (Or.inl hinvalid)
    · unfold List.Nodup
      rw [List.pairwise_map, List.pairwise_iff_getElem]
      intro j i hj hi hji hid
      exact h ⟨i, hi⟩ (Or.inr ⟨⟨j, hj⟩, hji, hid⟩)

theorem IsFirstOffence.isCatalog_take {products : List Product} {i : Fin products.length}
    (h : IsFirstOffence products i) : IsCatalog (products.take i) := by
  rw [isCatalog_iff_not_offends]
  rintro ⟨j, hj⟩ hoffends
  have hji : j < i := by
    rw [List.length_take] at hj
    omega
  apply h.first ⟨j, Nat.lt_trans hji i.isLt⟩ hji
  rcases hoffends with hinvalid | ⟨k, hk, hid⟩
  · left
    simpa using hinvalid
  · have hkj : k.val < j := hk
    refine Or.inr ⟨⟨k, by omega⟩, hkj, ?_⟩
    simpa using hid

theorem exists_isFirstOffence {products : List Product} (h : ¬ IsCatalog products) :
    ∃ i, IsFirstOffence products i := by
  rw [isCatalog_iff_not_offends, not_forall_not] at h
  rcases (measure fun i : Fin products.length => i.val).wf.has_min {i | Offends products i} h with
    ⟨i, hi, hfirst⟩
  exact ⟨i, hi, fun j hj hoffends => hfirst j hoffends hj⟩

theorem eq_take_append_getElem (products : List Product) (i : Fin products.length) :
    products = products.take i ++ products[i] :: products.drop (i + 1) := by
  rw [Fin.getElem_fin, List.getElem_cons_drop, List.take_append_drop]

theorem IsFirstOffence.ofProducts_of_invalid {products : List Product} {i : Fin products.length}
    (h : IsFirstOffence products i) {fault : ProductError}
    (hfault : products[i].validate = .error fault) :
    ofProducts products = .error (.invalid i fault) := by
  have hreport := Catalog.ofProducts_of_invalid h.isCatalog_take hfault (products.drop (i + 1))
  rw [← eq_take_append_getElem, List.length_take_of_le i.isLt.le] at hreport
  exact hreport

theorem IsFirstOffence.ofProducts_of_valid {products : List Product} {i : Fin products.length}
    (h : IsFirstOffence products i) (hvalid : products[i].validate = .ok ()) :
    ofProducts products = .error (.duplicateId products[i].id) := by
  have hrepeated : products[i].id ∈ (products.take i).map Product.id := by
    rcases h.offends with hinvalid | ⟨j, hj, hid⟩
    · exact absurd hvalid hinvalid
    · rw [← hid]
      exact List.mem_map_of_mem (List.mem_take_iff_getElem.mpr ⟨j, by omega, rfl⟩)
  have hreport := ofProducts_of_repeated h.isCatalog_take hvalid hrepeated (products.drop (i + 1))
  rw [← eq_take_append_getElem] at hreport
  exact hreport

/-- Products become a catalog as they are exactly if each is valid and no two have the same
identifier.  Otherwise there is a first offence, and it is reported: as an invalid product with its
position if it is one, even if it repeats an identifier too, and else by the identifier. -/
theorem ofProducts_first_offence (products : List Product) :
    (∀ catalog, ofProducts products = .ok catalog ↔
        catalog = products ∧ (∀ product ∈ products, product.validate = .ok ()) ∧
          products.Pairwise fun a b => a.id ≠ b.id) ∧
      ((∀ product ∈ products, product.validate = .ok ()) ∧
          (products.Pairwise fun a b => a.id ≠ b.id) ∨
        ∃ i, IsFirstOffence products i) ∧
      ∀ i, IsFirstOffence products i →
        (∀ fault, products[i].validate = .error fault →
            ofProducts products = .error (.invalid i fault)) ∧
          (products[i].validate = .ok () →
            ofProducts products = .error (.duplicateId products[i].id)) := by
  have hcatalog : IsCatalog products ↔ (∀ product ∈ products, product.validate = .ok ()) ∧
      products.Pairwise fun a b => a.id ≠ b.id := by
    constructor
    · intro h
      exact ⟨h.valid, List.pairwise_map.mp h.distinct⟩
    · rintro ⟨hvalid, hdistinct⟩
      exact ⟨hvalid, List.pairwise_map.mpr hdistinct⟩
  refine ⟨?_, ?_, ?_⟩
  · intro catalog
    rw [ofProducts_eq_ok_iff, ← hcatalog]
    constructor
    · rintro ⟨rfl, h⟩
      exact ⟨rfl, h⟩
    · rintro ⟨rfl, h⟩
      exact ⟨rfl, h⟩
  · rw [← hcatalog]
    exact or_iff_not_imp_left.mpr exists_isFirstOffence
  · intro i h
    exact ⟨fun _ => h.ofProducts_of_invalid, h.ofProducts_of_valid⟩

/-- Four products: the third repeats the identifier of the first and has a blank name, and the
fourth has the nil identifier. -/
def twoOffences : List Product :=
  [⟨⟨1#128⟩, "Lamp", 5, ⟨2024, 3, 1, by decide⟩⟩,
   ⟨⟨2#128⟩, "Desk", 9, ⟨2024, 3, 1, by decide⟩⟩,
   ⟨⟨1#128⟩, " ", 5, ⟨2024, 3, 1, by decide⟩⟩,
   ⟨Uuid.nil, "Sofa", 5, ⟨2024, 3, 1, by decide⟩⟩]

theorem ofProducts_first_offence_twoOffences :
    let named := twoOffences.set 2 ⟨⟨1#128⟩, "Lamp", 5, ⟨2024, 3, 1, by decide⟩⟩
    IsFirstOffence twoOffences ⟨2, by decide⟩ ∧
      ofProducts twoOffences = .error (.invalid 2 .blankName) ∧
      IsFirstOffence named ⟨2, by decide⟩ ∧
      ofProducts named = .error (.duplicateId ⟨1#128⟩) := by
  intro named
  have hblank : IsFirstOffence twoOffences ⟨2, by decide⟩ := by decide
  have hnamed : IsFirstOffence named ⟨2, by decide⟩ := by decide
  have hreport := (ofProducts_first_offence twoOffences).2.2 _ hblank
  have hreportNamed := (ofProducts_first_offence named).2.2 _ hnamed
  exact ⟨hblank, hreport.1 .blankName (by decide), hnamed, hreportNamed.2 (by decide)⟩

end Catalog
end SpokenSales
