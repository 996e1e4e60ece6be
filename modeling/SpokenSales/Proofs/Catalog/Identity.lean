import SpokenSales.Proofs.Catalog.Loading
import SpokenSales.Proofs.Catalog.Wording

/-!
# Identity

An identifier is what its spelling stands for and not the spelling.  A product has the identifier
that its record spells, it is written in lower case with hyphens, and two spellings of one
identifier in a catalog are a repetition.
-/

namespace SpokenSales

open Json

namespace Wording

theorem Means.id_eq {wording : Wording} {record : Record} (h : wording.Means record)
    {text : List Char} (htext : wording.id = some text) {id : Uuid} (hid : id.IsSpelled text) :
    record.id = some id := by
  have hrel := h.id
  rw [htext] at hrel
  generalize record.id = stated at hrel
  cases hrel with
  | some hread =>
      rw [hid.read?_eq] at hread
      exact hread.symm

/-- Whether the wording at a position spells an identifier. -/
def SpelledAt (wordings : List Wording) (i : Nat) (id : Uuid) : Prop :=
  ∃ wording text, wordings[i]? = some wording ∧ wording.id = some text ∧ id.IsSpelled text

theorem SpelledAt.exists_record {wordings : List Wording} {i : Nat} {id : Uuid}
    (h : SpelledAt wordings i id) {records : List Record}
    (hmeans : List.Forall₂ Means wordings records) :
    ∃ record, records[i]? = some record ∧ record.id = some id := by
  rcases h with ⟨wording, text, hwording, htext, hid⟩
  rcases List.forall₂_iff_get.mp hmeans with ⟨hlength, hget⟩
  rcases List.getElem?_eq_some_iff.mp hwording with ⟨hi, rfl⟩
  have hrecord := hget i hi (hlength ▸ hi)
  exact ⟨_, List.getElem?_eq_getElem (hlength ▸ hi), hrecord.id_eq htext hid⟩

end Wording

namespace Catalog

theorem getElem?_productsOf {fresh : Nat → Uuid} {records : List Record} {i : Nat}
    {record : Record} (h : records[i]? = some record) :
    (productsOf fresh records)[i]? = some (record.product (fresh i)) := by
  unfold productsOf
  rw [List.getElem?_mapIdx, h]
  rfl

theorem outcome_of_repeated {fresh : Nat → Uuid} {records : List Record}
    (hsound : ∀ record ∈ records, record.fault? = none) {i j : Nat} (hij : i < j)
    {first second : Record} (hfirst : records[i]? = some first)
    (hsecond : records[j]? = some second) {id : Uuid} (hid : first.id = some id)
    (hagain : second.id = some id) (hdistinct : (Record.statedIds (records.eraseIdx j)).Nodup) :
    Outcome fresh records (.error (.duplicateId id)) := by
  have hsplit : records = records.take j ++ second :: records.drop (j + 1) := by
    rcases List.getElem?_eq_some_iff.mp hsecond with ⟨hj, rfl⟩
    rw [← List.drop_eq_getElem_cons hj, List.take_append_drop]
  have hbefore : (Record.statedIds (records.take j)).Nodup := by
    unfold Record.statedIds at hdistinct ⊢
    rw [List.eraseIdx_eq_take_drop_succ, List.filterMap_append] at hdistinct
    exact (List.nodup_append.mp hdistinct).1
  refine .repeated hsound hsplit hbefore hagain (List.mem_filterMap.mpr ⟨first, ?_, hid⟩)
  apply List.mem_of_getElem? (i := i)
  rw [List.getElem?_take_of_lt hij]
  exact hfirst

/-- Whatever the spellings are, a product has the identifier that its record spells and is written
with it in one form, and an identifier that two records spell is a repetition. -/
theorem identity_of_spelling :
    (∀ (id : Uuid) (text : List Char), Uuid.read? text = some id ↔ id.IsSpelled text) ∧
    (∀ (id : Uuid) (text : List Char), text = id.write ↔
      id.IsSpelled text ∧ text.length = 36 ∧ text.map Char.toLower = text) ∧
    (∀ wordings text, Wording.IsCatalogText wordings text →
      ∀ records, List.Forall₂ Wording.Means wordings records →
        (∀ record ∈ records, record.fault? = none) → (Record.statedIds records).Nodup →
          ∀ fresh, IsFresh fresh records →
            ∃ catalog : List Product, ofJson fresh text = .ok catalog ∧
              catalog.length = wordings.length ∧
              ∀ i id, Wording.SpelledAt wordings i id →
                ∃ product, catalog[i]? = some product ∧ product.id = id ∧
                  product.members.lookup "id" = some (Json.string id.write)) ∧
    ∀ wordings text, Wording.IsCatalogText wordings text →
      ∀ records, List.Forall₂ Wording.Means wordings records →
        (∀ record ∈ records, record.fault? = none) →
          ∀ i j id, i < j → Wording.SpelledAt wordings i id → Wording.SpelledAt wordings j id →
            (Record.statedIds (records.eraseIdx j)).Nodup →
              ∀ fresh, IsFresh fresh records →
                ofJson fresh text = .error (.duplicateId id) := by
  refine ⟨?_, ?_, ?_, ?_⟩
  · intro id text
    exact Uuid.read?_eq_some_iff
  · intro id text
    exact Uuid.eq_write_iff
  · intro wordings text htext records hmeans hsound hdistinct fresh hfresh
    have hloaded : ofRecords fresh records = .ok (productsOf fresh records) :=
      (ofRecords_eq_iff hfresh _).mpr (.loaded hsound hdistinct)
    refine ⟨productsOf fresh records, ?_, ?_, ?_⟩
    · unfold ofJson
      rw [htext.listOfJson hmeans]
      exact hloaded
    · unfold productsOf
      rw [List.length_mapIdx, hmeans.length_eq]
    · intro i id hspelled
      rcases hspelled.exists_record hmeans with ⟨record, hrecord, hstated⟩
      have hproduct : (record.product (fresh i)).id = id := by
        unfold Record.product
        rw [hstated]
        rfl
      refine ⟨_, getElem?_productsOf hrecord, hproduct, ?_⟩
      rw [← hproduct]
      rfl
  · intro wordings text htext records hmeans hsound i j id hij hspelled hagain hdistinct fresh
      hfresh
    rcases hspelled.exists_record hmeans with ⟨first, hfirst, hid⟩
    rcases hagain.exists_record hmeans with ⟨second, hsecond, hid'⟩
    unfold ofJson
    rw [htext.listOfJson hmeans]
    exact (ofRecords_eq_iff hfresh _).mpr
      (outcome_of_repeated hsound hij hfirst hsecond hid hid' hdistinct)

/-- Three records, the first and the last with one identifier in braces and behind a prefix. -/
def spelledTwice : List Wording :=
  [⟨some "\x7b00000000-0000-0000-0000-0000000000aB\x7d".toList, "Lamp", 1, "2024-05-11".toList⟩,
   ⟨none, "Desk", 2, "2024-05-12".toList⟩,
   ⟨some "URN:uuid:00000000-0000-0000-0000-0000000000Ab".toList, "Sofa", 3,
    "2024-05-13".toList⟩]

def spelledTwiceRecords : List Record :=
  [⟨some ⟨0xAB#128⟩, "Lamp", 1, ⟨2024, 5, 11, by decide⟩⟩,
   ⟨none, "Desk", 2, ⟨2024, 5, 12, by decide⟩⟩,
   ⟨some ⟨0xAB#128⟩, "Sofa", 3, ⟨2024, 5, 13, by decide⟩⟩]

theorem identity_of_spelling_spelledTwice :
    ofJson (Uuid.supply 0) (Json.array (spelledTwice.map Wording.write)) =
      .error (.duplicateId ⟨0xAB#128⟩) ∧
    (∃ catalog : List Product,
      ofJson (Uuid.supply 0) (Json.array ((spelledTwice.take 2).map Wording.write)) =
        .ok catalog ∧
      catalog.length = 2 ∧ ∃ lamp, catalog[0]? = some lamp ∧ lamp.id = ⟨0xAB#128⟩) ∧
    "00000000-0000-0000-0000-0000000000ab".toList = Uuid.write ⟨0xAB#128⟩ := by
  have hfirst : Uuid.IsSpelled ⟨0xAB#128⟩
      "\x7b00000000-0000-0000-0000-0000000000aB\x7d".toList := ⟨.braced, by decide⟩
  have hlast : Uuid.IsSpelled ⟨0xAB#128⟩
      "URN:uuid:00000000-0000-0000-0000-0000000000Ab".toList := ⟨.urn, by decide⟩
  have hlamp (wordings : List Wording) :
      Wording.SpelledAt (spelledTwice.head (by decide) :: wordings) 0 ⟨0xAB#128⟩ :=
    ⟨_, _, rfl, rfl, hfirst⟩
  have hsofa : Wording.SpelledAt spelledTwice 2 ⟨0xAB#128⟩ := ⟨_, _, rfl, rfl, hlast⟩
  have hmeans : List.Forall₂ Wording.Means spelledTwice spelledTwiceRecords :=
    .cons ⟨.some hfirst.read?_eq, rfl, rfl, by decide⟩
      (.cons ⟨.none, rfl, rfl, by decide⟩
        (.cons ⟨.some hlast.read?_eq, rfl, rfl, by decide⟩ .nil))
  have hsound : ∀ record ∈ spelledTwiceRecords, record.fault? = none := by decide
  have hfresh : IsFresh (Uuid.supply 0) spelledTwiceRecords := by
    refine ⟨?_, ?_, ?_⟩ <;> decide
  have htwo := identity_of_spelling.2.2.1 _ _ (Wording.isCatalogText_write (spelledTwice.take 2))
    (spelledTwiceRecords.take 2) (List.forall₂_take 2 hmeans)
    (fun record hrecord => hsound record (List.mem_of_mem_take hrecord)) (by decide)
    (Uuid.supply 0) ⟨by decide, by decide, by decide⟩
  refine ⟨?_, ?_, ?_⟩
  · exact identity_of_spelling.2.2.2 _ _ (Wording.isCatalogText_write spelledTwice) _ hmeans hsound
      0 2 _ (by decide) (hlamp _) hsofa (by decide) _ hfresh
  · rcases htwo with ⟨catalog, hcatalog, hlength, hspelled⟩
    rcases hspelled 0 _ (hlamp _) with ⟨lamp, hget, hid, -⟩
    exact ⟨catalog, hcatalog, hlength, lamp, hget, hid⟩
  · exact (identity_of_spelling.2.1 _ _).mpr ⟨⟨.grouped, by decide⟩, by decide, by decide⟩

end Catalog
end SpokenSales
