import SpokenSales.Proofs.Catalog.RoundTrip
import SpokenSales.Proofs.Cli.Input
import SpokenSales.Proofs.Query.Answer
import SpokenSales.Proofs.Text.Encoding

/-!
# Listings as catalogs

What a run prints when it lists a catalog in JSON is the text of a catalog again, with the same
products in the order of the listing.
-/

namespace SpokenSales
namespace Cli

/-- Whether a run lists a catalog in JSON: the arguments ask for it, and nothing goes wrong before
the catalog has been loaded. -/
structure ListsJson (fresh : Nat → Uuid) (invocation : Invocation) (answers : Answers)
    (catalog : List Product) : Prop where
  reset : invocation.reset = true
  json : invocation.json = true
  log : ∃ opened, openLog invocation answers.start = .ok opened
  loaded : ∃ events, openCatalog fresh invocation answers.catalogFile = .ok (catalog, events)

def savedJson (products : List Product) : List UInt8 :=
  Text.encode (Product.writeList products ++ ['\n'])

theorem ListsJson.run_eq {fresh : Nat → Uuid} {invocation : Invocation} {answers : Answers}
    {catalog : List Product} (h : ListsJson fresh invocation answers catalog) :
    (run fresh invocation answers).output =
        Product.writeList (mostRecentFirst catalog) ++ ['\n'] ∧
      (run fresh invocation answers).failure = none := by
  have hserves : Serves fresh invocation answers catalog := ⟨h.log, h.loaded⟩
  constructor
  · rw [hserves.listing_of_reset h.reset]
    unfold printListing unlines
    rw [if_pos h.json, List.flatMap_singleton]
  · rw [hserves.output_and_failure.2, answer_of_reset h.reset]

theorem ofFile_savedJson {products : List Product} (h : Catalog.IsCatalog products)
    (fresh : Nat → Uuid) (path : String) :
    Catalog.ofFile fresh path (.ok (savedJson products)) = .ok products := by
  have hspaces : ∀ c ∈ ['\n'], Json.isSpace c = true := by
    intro c hc
    rw [List.mem_singleton.mp hc]
    decide
  unfold Catalog.ofFile savedJson
  simp only [Text.decode?_encode, String.toList_ofList]
  exact Catalog.ofJson_writeList_append fresh h hspaces

theorem openCatalog_savedJson {products : List Product} (h : Catalog.IsCatalog products)
    (fresh : Nat → Uuid) (invocation : Invocation) (path : String) :
    openCatalog fresh { invocation with catalog := some path } (.ok (savedJson products)) =
      .ok (products, [.catalogLoaded products.length]) := by
  unfold openCatalog
  simp only [ofFile_savedJson h]

theorem ListsJson.again {fresh : Nat → Uuid} {invocation : Invocation} {answers : Answers}
    {catalog products : List Product} (h : ListsJson fresh invocation answers catalog)
    (hproducts : Catalog.IsCatalog products) (fresh' : Nat → Uuid) (path : String) :
    ListsJson fresh' { invocation with catalog := some path }
      { answers with catalogFile := .ok (savedJson products) } products where
  reset := h.reset
  json := h.json
  log := h.log
  loaded := ⟨_, openCatalog_savedJson hproducts fresh' invocation path⟩

/-- The JSON of an accepted catalog is a text of the same catalog.  A listing of it in JSON is a
file of the listed products, and listing that file in JSON prints the same bytes. -/
theorem json_loads {catalog : List Product} (h : Catalog.Accepted catalog) :
    (∀ fresh, Catalog.ofJson fresh (Product.writeList catalog) = .ok catalog) ∧
      ∀ fresh invocation answers, ListsJson fresh invocation answers catalog →
        ∀ fresh' path,
          let printed := Text.encode (run fresh invocation answers).output
          let again := run fresh' { invocation with catalog := some path }
            { answers with catalogFile := .ok printed }
          Catalog.ofFile fresh' path (.ok printed) = .ok (mostRecentFirst catalog) ∧
            again.failure = none ∧ Text.encode again.output = printed := by
  have hcatalog := h.isCatalog
  have hlisted := hcatalog.perm (mostRecentFirst_perm catalog).symm
  constructor
  · intro fresh
    have hnone : ∀ c ∈ ([] : List Char), Json.isSpace c = true := by
      intro c hc
      cases hc
    have hload := Catalog.ofJson_writeList_append fresh hcatalog hnone
    rw [List.append_nil] at hload
    exact hload
  · intro fresh invocation answers hlists fresh' path printed again
    have hprinted : printed = savedJson (mostRecentFirst catalog) := by
      show Text.encode (run fresh invocation answers).output = _
      rw [hlists.run_eq.1]
      rfl
    have hagain := (hlists.again hlisted fresh' path).run_eq
    rw [← hprinted, mostRecentFirst_mostRecentFirst] at hagain
    refine ⟨?_, hagain.2, ?_⟩
    · rw [hprinted]
      exact ofFile_savedJson hlisted fresh' path
    · rw [hprinted]
      exact congrArg Text.encode hagain.1

/-- Two sales, one before the year 0 and one after the year 9999. -/
def distantSales : List Product :=
  [⟨⟨1#128⟩, "a \"b\" \\ \x01\n", 0xFFFFFFFFFFFFFFFF, ⟨-44, 3, 15, by decide⟩⟩,
   ⟨⟨2#128⟩, "Ω", 0, ⟨12024, 2, 29, by decide⟩⟩]

theorem json_loads_distantSales :
    let fresh := Uuid.supply 0
    let listing : Invocation := ⟨[], some "sales.json", true, true, none, none⟩
    let answers : Answers := ⟨.started, .ok (savedJson distantSales), []⟩
    let printed := Text.encode (run fresh listing answers).output
    let again := run fresh { listing with catalog := some "printed.json" }
      { answers with catalogFile := .ok printed }
    Catalog.ofJson fresh (Product.writeList distantSales) = .ok distantSales ∧
      Catalog.ofFile fresh "printed.json" (.ok printed) = .ok (mostRecentFirst distantSales) ∧
      again.failure = none ∧ Text.encode again.output = printed := by
  have haccepted : Catalog.ofProducts distantSales = .ok distantSales := rfl
  have hcatalog := (Catalog.ofProducts_eq_ok_iff.mp haccepted).2
  have hlists : ListsJson (Uuid.supply 0) ⟨[], some "sales.json", true, true, none, none⟩
      ⟨.started, .ok (savedJson distantSales), []⟩ distantSales := by
    refine ⟨rfl, rfl, ⟨(none, []), rfl⟩, ?_⟩
    exact ⟨_, openCatalog_savedJson hcatalog _ ⟨[], none, true, true, none, none⟩ "sales.json"⟩
  have hloads := json_loads (Catalog.Accepted.ofProducts haccepted)
  exact ⟨hloads.1 _, hloads.2 _ _ _ hlists _ "printed.json"⟩

end Cli
end SpokenSales
