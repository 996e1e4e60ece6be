import SpokenSales.Catalog.Basic

/-!
# Accepted catalogs

Whichever way a list of products becomes a catalog, it is accepted if each product is valid and no
two have the same identifier.
-/

namespace SpokenSales
namespace Catalog

/-- Whether some products are valid and have distinct identifiers. -/
structure IsCatalog (products : List Product) : Prop where
  valid : ∀ product ∈ products, product.validate = .ok ()
  distinct : (products.map Product.id).Nodup

theorem isCatalog_nil : IsCatalog [] where
  valid := by
    intro product hproduct
    cases hproduct
  distinct := List.nodup_nil

theorem isCatalog_cons_iff {product : Product} {rest : List Product} :
    IsCatalog (product :: rest) ↔
      product.validate = .ok () ∧ product.id ∉ rest.map Product.id ∧ IsCatalog rest := by
  constructor
  · intro h
    have hdistinct := h.distinct
    rw [List.map_cons, List.nodup_cons] at hdistinct
    refine ⟨h.valid product List.mem_cons_self, hdistinct.1, ?_, hdistinct.2⟩
    intro other hother
    exact h.valid other (List.mem_cons_of_mem product hother)
  · rintro ⟨hvalid, hnew, hrest⟩
    constructor
    · intro other hother
      rcases List.mem_cons.mp hother with heq | hmem
      · rw [heq]
        exact hvalid
      · exact hrest.valid other hmem
    · rw [List.map_cons, List.nodup_cons]
      exact ⟨hnew, hrest.distinct⟩

theorem IsCatalog.perm {products others : List Product} (h : IsCatalog products)
    (hperm : products.Perm others) : IsCatalog others where
  valid := by
    intro product hproduct
    exact h.valid product (hperm.mem_iff.mpr hproduct)
  distinct := (hperm.map Product.id).nodup h.distinct

theorem IsCatalog.sublist {products others : List Product} (h : IsCatalog products)
    (hsub : others.Sublist products) : IsCatalog others where
  valid := by
    intro product hproduct
    exact h.valid product (hsub.mem hproduct)
  distinct := h.distinct.sublist (hsub.map Product.id)

theorem checkFrom_append (index : Nat) {seen : List Uuid} {before : List Product}
    (h : IsCatalog before) (hnew : ∀ product ∈ before, product.id ∉ seen)
    (after : List Product) :
    checkFrom index seen (before ++ after) =
      checkFrom (index + before.length) ((before.map Product.id).reverse ++ seen) after := by
  induction before generalizing index seen with
  | nil =>
      rfl
  | cons first before ih =>
      rcases isCatalog_cons_iff.mp h with ⟨hvalid, hfirst, hbefore⟩
      have hlater : ∀ product ∈ before, product.id ∉ first.id :: seen := by
        intro product hproduct hseen
        rcases List.mem_cons.mp hseen with heq | hmem
        · apply hfirst
          rw [← heq]
          exact List.mem_map_of_mem hproduct
        · exact hnew product (List.mem_cons_of_mem first hproduct) hmem
      rw [List.cons_append, checkFrom, hvalid]
      simp only
      rw [if_neg (hnew first List.mem_cons_self), ih (index + 1) hbefore hlater, List.length_cons,
        List.map_cons, List.reverse_cons, List.append_assoc, Nat.add_right_comm, Nat.add_assoc]
      rfl

theorem checkFrom_eq_ok_iff {index : Nat} {seen : List Uuid} {products : List Product} :
    checkFrom index seen products = .ok () ↔
      IsCatalog products ∧ ∀ product ∈ products, product.id ∉ seen := by
  induction products generalizing index seen with
  | nil =>
      constructor
      · intro _
        refine ⟨isCatalog_nil, ?_⟩
        intro product hproduct
        cases hproduct
      · intro _
        rfl
  | cons product rest ih =>
      rw [checkFrom, isCatalog_cons_iff]
      constructor
      · intro h
        split at h
        · cases h
        · rename_i hvalid
          split at h
          · cases h
          · rename_i hseen
            rcases ih.mp h with ⟨hrest, hothers⟩
            refine ⟨⟨hvalid, ?_, hrest⟩, ?_⟩
            · intro hrepeated
              rcases List.mem_map.mp hrepeated with ⟨other, hother, hid⟩
              apply hothers other hother
              rw [hid]
              exact List.mem_cons_self
            · intro other hother
              rcases List.mem_cons.mp hother with heq | hmem
              · rw [heq]
                exact hseen
              · intro hin
                exact hothers other hmem (List.mem_cons_of_mem product.id hin)
      · rintro ⟨⟨hvalid, hnew, hrest⟩, hseen⟩
        rw [hvalid]
        simp only
        rw [if_neg (hseen product List.mem_cons_self)]
        apply ih.mpr
        refine ⟨hrest, ?_⟩
        intro other hother hin
        rcases List.mem_cons.mp hin with heq | hmem
        · apply hnew
          rw [← heq]
          exact List.mem_map_of_mem hother
        · exact hseen other (List.mem_cons_of_mem product hother) hmem

theorem ofProducts_eq_ok_iff {products catalog : List Product} :
    ofProducts products = .ok catalog ↔ products = catalog ∧ IsCatalog catalog := by
  have hcheck := @checkFrom_eq_ok_iff 0 [] products
  unfold ofProducts
  constructor
  · intro h
    split at h
    · cases h
    · rename_i hok
      cases h
      exact ⟨rfl, (hcheck.mp hok).1⟩
  · rintro ⟨heq, hcatalog⟩
    rw [← heq] at hcatalog
    rw [hcheck.mpr ⟨hcatalog, fun _ _ => List.not_mem_nil⟩, heq]

theorem ofProducts_of_invalid {before : List Product} (h : IsCatalog before) {product : Product}
    {fault : ProductError} (hfault : product.validate = .error fault) (after : List Product) :
    ofProducts (before ++ product :: after) = .error (.invalid before.length fault) := by
  unfold ofProducts
  rw [checkFrom_append 0 h (fun _ _ => List.not_mem_nil), checkFrom, hfault, Nat.zero_add]

theorem ofProducts_of_repeated {before : List Product} (h : IsCatalog before) {product : Product}
    (hvalid : product.validate = .ok ()) (hrepeated : product.id ∈ before.map Product.id)
    (after : List Product) :
    ofProducts (before ++ product :: after) = .error (.duplicateId product.id) := by
  have hseen : product.id ∈ (before.map Product.id).reverse ++ [] := by
    rw [List.append_nil]
    exact List.mem_reverse.mpr hrepeated
  unfold ofProducts
  rw [checkFrom_append 0 h (fun _ _ => List.not_mem_nil), checkFrom, hvalid]
  simp only [if_pos hseen]

/-- The lists of products that have been accepted, from products or from a text. -/
inductive Accepted : List Product → Prop
  | ofProducts {products catalog : List Product} (h : ofProducts products = .ok catalog) :
      Accepted catalog
  | ofJson {fresh : Nat → Uuid} {text : List Char} {catalog : List Product}
      (h : ofJson fresh text = .ok catalog) : Accepted catalog

theorem Accepted.isCatalog {catalog : List Product} (h : Accepted catalog) :
    IsCatalog catalog := by
  cases h with
  | ofProducts h =>
      exact (ofProducts_eq_ok_iff.mp h).2
  | ofJson h =>
      unfold Catalog.ofJson ofRecords at h
      split at h
      · cases h
      · split at h
        · cases h
        · exact (ofProducts_eq_ok_iff.mp h).2

theorem Accepted.ofFile {fresh : Nat → Uuid} {path : String}
    {contents : Except Storage.Fault (List UInt8)} {catalog : List Product}
    (h : Catalog.ofFile fresh path contents = .ok catalog) : Accepted catalog := by
  unfold Catalog.ofFile at h
  split at h
  · cases h
  · split at h
    · cases h
    · exact .ofJson h

end Catalog
end SpokenSales
