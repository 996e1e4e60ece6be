import Mathlib.Data.List.Forall2
import Mathlib.Data.List.TakeWhile
import SpokenSales.Proofs.Catalog.Accepted

/-!
# Loading a catalog

Records are checked twice: each for itself when it becomes a product, and then all of them for
repeated identifiers.  So a faulty record anywhere is reported before any repetition, and what is
loaded has one product for each record.
-/

namespace SpokenSales

namespace Text

theorem trim_eq_nil_iff {text : List Char} : trim text = [] ↔ isBlankText text = true := by
  have hall : isBlankText text = true ↔ text.dropWhile isBlank = [] := by
    unfold isBlankText
    rw [List.dropWhile_eq_nil_iff, List.all_eq_true]
  have htrim : trim text = [] ↔ ∀ c ∈ text.dropWhile isBlank, isBlank c = true := by
    unfold trim
    rw [List.reverse_eq_nil_iff, List.dropWhile_eq_nil_iff]
    simp only [List.mem_reverse]
  rw [htrim, hall]
  constructor
  · intro hblank
    -- What is left in front begins with a character that is not blank.
    cases hrest : text.dropWhile isBlank with
    | nil =>
        rfl
    | cons c rest =>
        have hhead := List.head?_dropWhile_not isBlank text
        rw [hrest] at hhead hblank
        simp only [List.head?_cons] at hhead
        rw [hblank c List.mem_cons_self] at hhead
        cases hhead
  · intro hnil c hc
    rw [hnil] at hc
    cases hc

end Text

namespace Record

open Text

/-!
## Single records
-/

/-- What is wrong with a record, if anything: it states the nil identifier, or its name is blank. -/
def fault? (record : Record) : Option ProductError :=
  if record.id = some Uuid.nil then some .nilId
  else if trim record.name.toList = [] then some .blankName
  else none

def product (given : Uuid) (record : Record) : Product :=
  ⟨record.id.getD given, record.name, record.sales, record.date⟩

theorem validate_product (record : Record) {given : Uuid} (hgiven : given ≠ Uuid.nil) :
    (record.product given).validate =
      match record.fault? with
      | some fault => .error fault
      | none => .ok () := by
  have hid : (record.product given).id = Uuid.nil ↔ record.id = some Uuid.nil := by
    unfold product
    cases record.id with
    | none =>
        simp [hgiven]
    | some id =>
        simp
  have hname : isBlankText (record.product given).name.toList = true ↔
      trim record.name.toList = [] := trim_eq_nil_iff.symm
  unfold Product.validate fault?
  by_cases hnil : record.id = some Uuid.nil
  · rw [if_pos (hid.mpr hnil), if_pos hnil]
  · rw [if_neg (fun h => hnil (hid.mp h)), if_neg hnil]
    by_cases hblank : trim record.name.toList = []
    · rw [if_pos (hname.mpr hblank), if_pos hblank]
    · rw [if_neg (fun h => hblank (hname.mp h)), if_neg hblank]

theorem make_eq (record : Record) {given : Uuid} (hgiven : given ≠ Uuid.nil) :
    Product.make (record.id.getD given) record.name record.sales record.date =
      match record.fault? with
      | some fault => .error fault
      | none => .ok (record.product given) := by
  have hvalidate := record.validate_product hgiven
  unfold product at hvalidate
  unfold Product.make
  rw [hvalidate]
  cases record.fault? <;> rfl

def statedIds (records : List Record) : List Uuid :=
  records.filterMap Record.id

end Record

namespace Catalog

/-!
## Fresh identifiers
-/

/-- Whether a supply has a new identifier for each position of some records: none is nil, none
comes twice, and none is stated by a record. -/
structure IsFresh (fresh : Nat → Uuid) (records : List Record) : Prop where
  not_nil : ∀ i < records.length, fresh i ≠ Uuid.nil
  distinct : ∀ j < records.length, ∀ i < j, fresh i ≠ fresh j
  unstated : ∀ i < records.length, fresh i ∉ Record.statedIds records

/-- The products of some records, each with the identifier of its position if it states none. -/
def productsOf (fresh : Nat → Uuid) (records : List Record) : List Product :=
  records.mapIdx fun i record => record.product (fresh i)

theorem IsFresh.of_append {fresh : Nat → Uuid} {before after : List Record}
    (h : IsFresh fresh (before ++ after)) : IsFresh fresh before where
  not_nil := by
    intro i hi
    apply h.not_nil
    rw [List.length_append]
    omega
  distinct := by
    intro j hj
    apply h.distinct
    rw [List.length_append]
    omega
  unstated := by
    intro i hi hstated
    apply h.unstated i
    · rw [List.length_append]
      omega
    · unfold Record.statedIds
      rw [List.filterMap_append]
      exact List.mem_append_left _ hstated

theorem mem_statedIds {records : List Record} {i : Nat} (hi : i < records.length) {id : Uuid}
    (hid : records[i].id = some id) : id ∈ Record.statedIds records :=
  List.mem_filterMap.mpr ⟨records[i], List.getElem_mem hi, hid⟩

theorem mem_ids_productsOf_iff {fresh : Nat → Uuid} {records : List Record} {id : Uuid}
    (hid : ∀ i < records.length, fresh i ≠ id) :
    id ∈ (productsOf fresh records).map Product.id ↔ id ∈ Record.statedIds records := by
  unfold productsOf Record.statedIds
  simp only [List.mem_map, List.mem_mapIdx, List.mem_filterMap]
  constructor
  · rintro ⟨product, ⟨i, hi, hproduct⟩, heq⟩
    refine ⟨records[i], List.getElem_mem hi, ?_⟩
    rw [← hproduct] at heq
    unfold Record.product at heq
    cases hstated : records[i].id with
    | none =>
        rw [hstated] at heq
        exact absurd heq (hid i hi)
    | some stated =>
        rw [hstated] at heq
        exact congrArg some heq
  · rintro ⟨record, hrecord, hstated⟩
    rcases List.getElem_of_mem hrecord with ⟨i, hi, hget⟩
    refine ⟨_, ⟨i, hi, rfl⟩, ?_⟩
    unfold Record.product
    rw [hget, hstated]
    rfl

theorem nodup_ids_productsOf_iff {fresh : Nat → Uuid} {records : List Record}
    (h : IsFresh fresh records) :
    ((productsOf fresh records).map Product.id).Nodup ↔ (Record.statedIds records).Nodup := by
  unfold productsOf
  conv =>
    rhs
    unfold Record.statedIds
  unfold List.Nodup
  rw [List.pairwise_map, List.pairwise_filterMap, List.pairwise_iff_getElem,
    List.pairwise_iff_getElem]
  simp only [List.length_mapIdx, List.getElem_mapIdx, Record.product]
  constructor
  · intro hproducts i j hi hj hij first hfirst second hsecond
    have hne := hproducts i j hi hj hij
    rw [hfirst, hsecond] at hne
    exact hne
  · intro hstated i j hi hj hij
    cases hfirst : records[i].id with
    | none =>
        cases hsecond : records[j].id with
        | none =>
            exact h.distinct j hj i hij
        | some second =>
            intro heq
            apply h.unstated i hi
            have hgiven : fresh i = second := heq
            rw [hgiven]
            exact mem_statedIds hj hsecond
    | some first =>
        cases hsecond : records[j].id with
        | none =>
            intro heq
            apply h.unstated j hj
            have hgiven : first = fresh j := heq
            rw [← hgiven]
            exact mem_statedIds hi hfirst
        | some second =>
            exact hstated i j hi hj hij first hfirst second hsecond

/-!
## The first pass

Each record becomes a product, up to the first faulty one.
-/

theorem productsOf_append (fresh : Nat → Uuid) (before after : List Record) :
    productsOf fresh (before ++ after) =
      productsOf fresh before ++ productsOf (fun i => fresh (i + before.length)) after :=
  List.mapIdx_append

theorem productsOf_cons (fresh : Nat → Uuid) (record : Record) (rest : List Record) :
    productsOf fresh (record :: rest) =
      record.product (fresh 0) :: productsOf (fun i => fresh (i + 1)) rest :=
  List.mapIdx_cons

theorem productsFrom_eq_ok {fresh : Nat → Uuid} {index : Nat} {records : List Record}
    {products : List Product} (h : productsFrom fresh index records = .ok products) :
    products = productsOf (fun i => fresh (index + i)) records := by
  induction records generalizing index products with
  | nil =>
      cases h
      rfl
  | cons record records ih =>
      rw [productsFrom] at h
      split at h
      · cases h
      · rename_i product hproduct
        split at h
        · cases h
        · rename_i others hothers
          cases h
          have hhead : product = record.product (fresh index) := by
            unfold Product.make at hproduct
            split at hproduct
            · cases hproduct
              rfl
            · cases hproduct
          have hshift : (fun i => fresh (index + 1 + i)) = fun i => fresh (index + (i + 1)) := by
            funext i
            rw [Nat.add_assoc, Nat.add_comm 1 i]
          rw [productsOf_cons, hhead, ih hothers, hshift]
          rfl

theorem ofJson_eq_ok {fresh : Nat → Uuid} {text : List Char} {catalog : List Product}
    (h : ofJson fresh text = .ok catalog) :
    ∃ records, Record.listOfJson text = .ok records ∧ catalog = productsOf fresh records := by
  unfold ofJson at h
  split at h
  · cases h
  · rename_i records hrecords
    refine ⟨records, hrecords, ?_⟩
    unfold ofRecords at h
    split at h
    · cases h
    · rename_i products hproducts
      rw [← (ofProducts_eq_ok_iff.mp h).1, productsFrom_eq_ok hproducts]
      simp only [Nat.zero_add]

theorem forall₂_productsOf (fresh : Nat → Uuid) (records : List Record) :
    List.Forall₂ (fun record product => ∃ given, product = record.product given) records
      (productsOf fresh records) := by
  induction records generalizing fresh with
  | nil =>
      exact .nil
  | cons record records ih =>
      rw [productsOf_cons]
      exact .cons ⟨_, rfl⟩ (ih _)

theorem productsFrom_append {fresh : Nat → Uuid} {index : Nat} {before : List Record}
    (hnil : ∀ i < before.length, fresh (index + i) ≠ Uuid.nil)
    (hbefore : ∀ record ∈ before, record.fault? = none) (after : List Record) :
    productsFrom fresh index (before ++ after) =
      (productsFrom fresh (index + before.length) after).map fun products =>
        productsOf (fun i => fresh (index + i)) before ++ products := by
  induction before generalizing index with
  | nil =>
      rw [List.nil_append, List.length_nil, Nat.add_zero]
      cases productsFrom fresh index after <;> rfl
  | cons record before ih =>
      have hmake := record.make_eq (hnil 0 (Nat.succ_pos before.length))
      rw [hbefore record List.mem_cons_self] at hmake
      have hshift (i : Nat) : index + 1 + i = index + (i + 1) := by
        omega
      have hlater : ∀ i < before.length, fresh (index + 1 + i) ≠ Uuid.nil := by
        intro i hi
        rw [hshift]
        exact hnil (i + 1) (Nat.succ_lt_succ hi)
      have hrest := ih hlater fun other hother =>
        hbefore other (List.mem_cons_of_mem record hother)
      simp only [hshift] at hrest
      rw [List.cons_append, productsFrom]
      simp only [Nat.add_zero] at hmake
      rw [hmake]
      simp only
      rw [hrest, productsOf_cons, List.length_cons]
      cases productsFrom fresh (index + (before.length + 1)) after <;> rfl

theorem productsFrom_of_sound {fresh : Nat → Uuid} {records : List Record}
    (hnil : ∀ i < records.length, fresh i ≠ Uuid.nil)
    (hsound : ∀ record ∈ records, record.fault? = none) :
    productsFrom fresh 0 records = .ok (productsOf fresh records) := by
  have hall : ∀ i < records.length, fresh (0 + i) ≠ Uuid.nil := by
    intro i hi
    rw [Nat.zero_add]
    exact hnil i hi
  have hproducts := productsFrom_append hall hsound []
  simp only [List.append_nil, Nat.zero_add, productsFrom, Except.map] at hproducts
  exact hproducts

theorem productsFrom_of_faulty {fresh : Nat → Uuid} {before after : List Record}
    {record : Record} {fault : ProductError}
    (hnil : ∀ i < (before ++ record :: after).length, fresh i ≠ Uuid.nil)
    (hbefore : ∀ other ∈ before, other.fault? = none) (hfault : record.fault? = some fault) :
    productsFrom fresh 0 (before ++ record :: after) = .error (.invalid before.length fault) := by
  rw [List.length_append, List.length_cons] at hnil
  have hfront : ∀ i < before.length, fresh (0 + i) ≠ Uuid.nil := by
    intro i hi
    rw [Nat.zero_add]
    exact hnil i (by omega)
  have hmake := record.make_eq (hnil before.length (by omega))
  rw [hfault] at hmake
  rw [productsFrom_append hfront hbefore, Nat.zero_add, productsFrom, hmake]
  rfl

/-!
## What becomes of the records
-/

/-- What loading some records comes to. -/
inductive Outcome (fresh : Nat → Uuid) (records : List Record) :
    Except CatalogError (List Product) → Prop
  /-- The first faulty record is reported by its position, whatever identifiers are repeated. -/
  | faulty {before after : List Record} {record : Record} {fault : ProductError}
      (split : records = before ++ record :: after)
      (sound : ∀ other ∈ before, other.fault? = none) (fault_eq : record.fault? = some fault) :
      Outcome fresh records (.error (.invalid before.length fault))
  /-- Without a faulty record, the first one that repeats an identifier is reported by it. -/
  | repeated {before after : List Record} {record : Record} {id : Uuid}
      (sound : ∀ other ∈ records, other.fault? = none)
      (split : records = before ++ record :: after)
      (distinct : (Record.statedIds before).Nodup) (id_eq : record.id = some id)
      (stated : id ∈ Record.statedIds before) :
      Outcome fresh records (.error (.duplicateId id))
  /-- Otherwise there is a product for each record. -/
  | loaded (sound : ∀ other ∈ records, other.fault? = none)
      (distinct : (Record.statedIds records).Nodup) :
      Outcome fresh records (.ok (productsOf fresh records))

theorem validate_of_mem_productsOf {fresh : Nat → Uuid} {records : List Record}
    (hnil : ∀ i < records.length, fresh i ≠ Uuid.nil)
    (hsound : ∀ record ∈ records, record.fault? = none) :
    ∀ product ∈ productsOf fresh records, product.validate = .ok () := by
  intro product hproduct
  rcases List.mem_mapIdx.mp hproduct with ⟨i, hi, heq⟩
  rw [← heq, Record.validate_product _ (hnil i hi), hsound _ (List.getElem_mem hi)]

theorem Outcome.ofRecords_eq {fresh : Nat → Uuid} {records : List Record}
    {outcome : Except CatalogError (List Product)} (h : Outcome fresh records outcome)
    (hfresh : IsFresh fresh records) : ofRecords fresh records = outcome := by
  unfold ofRecords
  cases h with
  | faulty hsplit hbefore hfault =>
      have hnil := hfresh.not_nil
      rw [hsplit] at hnil ⊢
      rw [productsFrom_of_faulty hnil hbefore hfault]
  | @repeated before after record id hsound hsplit hdistinct hid hstated =>
      have hvalid := validate_of_mem_productsOf hfresh.not_nil hsound
      rw [productsFrom_of_sound hfresh.not_nil hsound]
      rw [hsplit] at hfresh hvalid ⊢
      have hbefore := hfresh.of_append
      have hproduct : (record.product (fresh (0 + before.length))).id = id := by
        unfold Record.product
        rw [hid]
        rfl
      have hrepeated : id ∈ (productsOf fresh before).map Product.id := by
        apply (mem_ids_productsOf_iff _).mpr hstated
        intro i hi heq
        rw [← heq] at hstated
        exact hbefore.unstated i hi hstated
      rw [productsOf_append, productsOf_cons] at hvalid ⊢
      rw [← hproduct] at hrepeated
      have hcatalog : IsCatalog (productsOf fresh before) :=
        ⟨fun other hother => hvalid other (List.mem_append_left _ hother),
          (nodup_ids_productsOf_iff hbefore).mpr hdistinct⟩
      rw [← hproduct]
      exact ofProducts_of_repeated hcatalog
        (hvalid _ (List.mem_append_right _ List.mem_cons_self)) hrepeated _
  | loaded hsound hdistinct =>
      rw [productsFrom_of_sound hfresh.not_nil hsound]
      apply ofProducts_eq_ok_iff.mpr
      refine ⟨rfl, ?_, ?_⟩
      · exact validate_of_mem_productsOf hfresh.not_nil hsound
      · exact (nodup_ids_productsOf_iff hfresh).mpr hdistinct

theorem statedIds_concat (records : List Record) (record : Record) :
    Record.statedIds (records ++ [record]) = Record.statedIds records ++ record.id.toList := by
  unfold Record.statedIds
  rw [List.filterMap_append]
  cases hid : record.id with
  | none =>
      rw [List.filterMap_cons_none hid]
      rfl
  | some id =>
      rw [List.filterMap_cons_some hid]
      rfl

theorem exists_first_repeated {seen records : List Record}
    (hseen : (Record.statedIds seen).Nodup) (h : ¬(Record.statedIds (seen ++ records)).Nodup) :
    ∃ before record after id, records = before ++ record :: after ∧
      (Record.statedIds (seen ++ before)).Nodup ∧ record.id = some id ∧
      id ∈ Record.statedIds (seen ++ before) := by
  induction records generalizing seen with
  | nil =>
      rw [List.append_nil] at h
      exact absurd hseen h
  | cons record records ih =>
      by_cases hrecord : (Record.statedIds (seen ++ [record])).Nodup
      · rw [List.append_cons] at h
        rcases ih hrecord h with ⟨before, repeated, after, id, hsplit, hdistinct, hid, hstated⟩
        rw [← List.append_cons] at hdistinct hstated
        refine ⟨record :: before, repeated, after, id, ?_, hdistinct, hid, hstated⟩
        rw [hsplit, List.cons_append]
      · refine ⟨[], record, records, ?_⟩
        rw [List.append_nil]
        rw [statedIds_concat] at hrecord
        cases hid : record.id with
        | none =>
            rw [hid, Option.toList_none, List.append_nil] at hrecord
            exact absurd hseen hrecord
        | some id =>
            refine ⟨id, rfl, hseen, rfl, ?_⟩
            by_cases hstated : id ∈ Record.statedIds seen
            · exact hstated
            · rw [hid, Option.toList_some] at hrecord
              apply absurd _ hrecord
              apply List.nodup_append.mpr
              refine ⟨hseen, List.pairwise_singleton _ id, ?_⟩
              intro a ha b hb heq
              rw [heq, List.mem_singleton.mp hb] at ha
              exact hstated ha

theorem exists_outcome (fresh : Nat → Uuid) (records : List Record) :
    ∃ outcome, Outcome fresh records outcome := by
  cases hfaulty : records.find? fun record => record.fault?.isSome with
  | some record =>
      rcases List.find?_eq_some_iff_append.mp hfaulty with
        ⟨hrecord, before, after, hsplit, hbefore⟩
      rcases Option.isSome_iff_exists.mp hrecord with ⟨fault, hfault⟩
      refine ⟨_, .faulty hsplit ?_ hfault⟩
      intro other hother
      simpa using hbefore other hother
  | none =>
      have hsound : ∀ other ∈ records, other.fault? = none := by
        simpa using hfaulty
      by_cases hdistinct : (Record.statedIds records).Nodup
      · exact ⟨_, .loaded hsound hdistinct⟩
      · rcases @exists_first_repeated [] records List.nodup_nil hdistinct with
          ⟨before, record, after, id, hsplit, hbefore, hid, hstated⟩
        exact ⟨_, .repeated hsound hsplit hbefore hid hstated⟩

theorem ofRecords_eq_iff {fresh : Nat → Uuid} {records : List Record}
    (hfresh : IsFresh fresh records) (outcome : Except CatalogError (List Product)) :
    ofRecords fresh records = outcome ↔ Outcome fresh records outcome := by
  constructor
  · intro h
    rcases exists_outcome fresh records with ⟨found, hfound⟩
    rw [← h, hfound.ofRecords_eq hfresh]
    exact hfound
  · intro h
    exact h.ofRecords_eq hfresh

/-- Loading the text of some records has exactly the outcome of the records, and every catalog
that is loaded is made of valid products with distinct identifiers. -/
theorem ofJson_outcome :
    (∀ fresh text records, Record.listOfJson text = .ok records → IsFresh fresh records →
      ∀ outcome, ofJson fresh text = outcome ↔ Outcome fresh records outcome) ∧
    ∀ fresh text catalog, ofJson fresh text = .ok catalog →
      (∀ product ∈ catalog, product.validate = .ok ()) ∧ (catalog.map Product.id).Nodup := by
  constructor
  · intro fresh text records hrecords hfresh outcome
    unfold ofJson
    rw [hrecords]
    exact ofRecords_eq_iff hfresh outcome
  · intro fresh text catalog hcatalog
    have haccepted := (Accepted.ofJson hcatalog).isCatalog
    exact ⟨haccepted.valid, haccepted.distinct⟩

def blankThird : List Char :=
  "[[\"00000000000000000000000000000001\",\"Lamp\",1,\"2024-01-01\"],
    [\"00000000000000000000000000000001\",\"Desk\",2,\"2024-01-02\"],
    [null,\"\u3000\",3,\"2024-01-03\"]]".toList

def blankThirdRecords : List Record :=
  [⟨some ⟨1#128⟩, "Lamp", 1, ⟨2024, 1, 1, by decide⟩⟩,
   ⟨some ⟨1#128⟩, "Desk", 2, ⟨2024, 1, 2, by decide⟩⟩,
   ⟨none, "\u3000", 3, ⟨2024, 1, 3, by decide⟩⟩]

theorem ofJson_outcome_blankThird :
    Record.listOfJson blankThird = .ok blankThirdRecords ∧
      IsFresh (Uuid.supply 0) blankThirdRecords ∧
      ofJson (Uuid.supply 0) blankThird = .error (.invalid 2 .blankName) ∧
      ∃ lamp, ofJson (Uuid.supply 0) "[[null,\"Lamp\",1,\"2024-01-01\"]]".toList = .ok [lamp] ∧
        lamp.validate = .ok () := by
  have hrecords : Record.listOfJson blankThird = .ok blankThirdRecords := by
    decide +kernel
  have hfresh : IsFresh (Uuid.supply 0) blankThirdRecords := by
    refine ⟨?_, ?_, ?_⟩ <;> decide
  have houtcome : Outcome (Uuid.supply 0) blankThirdRecords (.error (.invalid 2 .blankName)) :=
    @Outcome.faulty _ _ (blankThirdRecords.take 2) [] _ .blankName rfl (by decide) rfl
  have hlamp : ofJson (Uuid.supply 0) "[[null,\"Lamp\",1,\"2024-01-01\"]]".toList =
      .ok [⟨Uuid.supply 0 0, "Lamp", 1, ⟨2024, 1, 1, by decide⟩⟩] := by
    decide +kernel
  exact ⟨hrecords, hfresh, (ofJson_outcome.1 _ _ _ hrecords hfresh _).mpr houtcome, _, hlamp,
    (ofJson_outcome.2 _ _ _ hlamp).1 _ List.mem_cons_self⟩

end Catalog
end SpokenSales
