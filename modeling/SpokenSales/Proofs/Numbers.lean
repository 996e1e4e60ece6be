import SpokenSales.Proofs.Catalog.Layout
import SpokenSales.Proofs.Catalog.Loading
import SpokenSales.Proofs.Query.Numbers

/-!
# Numbers are read exactly

The sales of a record are read like the numbers of a query.  A record with some number for its
sales is read exactly if the number is an integer of 64 bits without a sign, and its sales are this
integer.
-/

namespace SpokenSales

open Json

namespace Record

theorem exists_sales_iff {text : List Char} :
    (∃ sales : UInt64, WritesInteger text sales.toNat) ↔
      WritesInRange 0 (UInt64.size - 1) text := by
  constructor
  · rintro ⟨sales, hwrites⟩
    have hsize : sales.toNat < UInt64.size := sales.toNat_lt_size
    exact ⟨sales.toNat, hwrites, by omega, by omega⟩
  · rintro ⟨n, hwrites, hlow, hhigh⟩
    have hn : (UInt64.ofNat n.toNat).toNat = n.toNat := UInt64.toNat_ofNat_of_lt' (by omega)
    have hvalue : ((UInt64.ofNat n.toNat).toNat : Int) = n := by
      omega
    rw [← hvalue] at hwrites
    exact ⟨_, hwrites⟩

theorem writesInRange_of_mayTake_sales {text : List Char} (h : IsNumber text) {sales : UInt64}
    (htake : MayTake readSales text sales) : WritesInRange 0 (UInt64.size - 1) text := by
  rcases htake with ⟨rest, last, hrest, hread⟩
  unfold readSales at hread
  cases hinteger : readInteger 0 (UInt64.size - 1) (text ++ rest) with
  | error fault =>
      rw [hinteger] at hread
      cases hread
  | ok taken =>
      have htaken := (h.readInteger_eq_ok_iff hrest (by decide) (by decide)).mp hinteger
      exact ⟨taken.1, htaken.2⟩

theorem mayTake_of_readPositions {id name sales date : Element} (hid : IsValue id.value)
    (hname : IsValue name.value) (hsales : IsValue sales.value) (hdate : IsValue date.value)
    {last : Gap} {rest after : List Char} {record : Record}
    (hread : readPositions (commaSeparated ([id, name, sales, date].map Element.text) ++
      (last.text ++ ']' :: rest)) = .ok (record, after)) :
    MayTake readSales sales.value record.sales := by
  have hstarts : ∀ element ∈ [id, name, sales, date], StartsValue element.value := by
    simp only [List.forall_mem_cons]
    exact ⟨hid.startsValue, hname.startsValue, hsales.startsValue, hdate.startsValue,
      List.forall_mem_nil _⟩
  unfold readPositions at hread
  rw [readPosition_listText hstarts] at hread
  simp only [bind, Except.bind] at hread
  split at hread
  · cases hread
  rename_i taken hfirst
  rcases taken with ⟨id, text⟩
  rcases readsScalar_id.takesWhole.mayTake_of_readPosition hid hfirst with ⟨-, rfl⟩
  split at hread
  · cases hread
  rename_i taken hsecond
  rcases taken with ⟨name, text⟩
  rcases readsScalar_name.takesWhole.mayTake_of_readPosition hname hsecond with ⟨-, rfl⟩
  split at hread
  · cases hread
  rename_i taken hthird
  rcases taken with ⟨sales, text⟩
  rcases readsScalar_sales.takesWhole.mayTake_of_readPosition hsales hthird with ⟨htake, rfl⟩
  split at hread
  · cases hread
  · cases hread
    exact htake

end Record

namespace Wording

/-!
## Layouts with any number
-/

/-- Whether a text is a layout of a wording but for the sales, in whose place stands a number. -/
inductive IsLayoutWith (wording : Wording) (number : List Char) : List Char → Prop
  | object {parts further : List Member} {id? : Option Member} {name sales date : Member}
      (order : parts.Perm (id?.toList ++ name :: sales :: date :: further))
      (id_out : id? = none → wording.id = none)
      (id_eq : ∀ id ∈ id?, id.IsNamed "id" ∧ wording.IsId id.value)
      (name_eq : name.IsNamed "name" ∧ wording.IsName name.value)
      (sales_eq : sales.IsNamed "sales" ∧ sales.value = number)
      (date_eq : date.IsNamed "date" ∧ wording.IsDate date.value)
      (others : ∀ part ∈ further, Record.IsFurther part) (last : Gap) :
      IsLayoutWith wording number (objectText parts last)
  | list {id name sales date : Element} (id_eq : wording.IsId id.value)
      (name_eq : wording.IsName name.value) (sales_eq : sales.value = number)
      (date_eq : wording.IsDate date.value) (last : Gap) :
      IsLayoutWith wording number (listText [id, name, sales, date] last)

/-- Whether a record has the identifier, the name and the date of a wording, and its sales are the
integer that stands in their place. -/
structure MeansWith (wording : Wording) (number : List Char) (record : Record) : Prop where
  others : { wording with sales := record.sales }.Means record
  sales : WritesInteger number record.sales.toNat

/-- Whether a text is a list of layouts of some wordings, each with a number for the sales. -/
inductive IsCatalogTextWith (entries : List (Wording × List Char)) : List Char → Prop
  | mk {elements : List Element}
      (h : List.Forall₂ (fun entry element => entry.1.IsLayoutWith entry.2 element.value) entries
        elements) (before last after : Gap) :
      IsCatalogTextWith entries (before.text ++ (listText elements last ++ after.text))

variable {wording : Wording} {number text rest after : List Char} {record : Record}

theorem IsLayoutWith.isLayout {sales : UInt64} (h : wording.IsLayoutWith number text)
    (hsales : WritesInteger number sales.toNat) :
    { wording with sales := sales }.IsLayout text := by
  have hnumber : number = Text.decimal sales.toNat := by
    rw [hsales.eq_integer, (writesInteger_decimal sales.toNat).eq_integer]
  cases h with
  | object order id_out id_eq name_eq sales_eq date_eq others last =>
      rw [hnumber] at sales_eq
      exact @IsLayout.object { wording with sales := sales } _ _ _ _ _ _ order id_out id_eq name_eq
        sales_eq date_eq others last
  | list id_eq name_eq sales_eq date_eq last =>
      rw [hnumber] at sales_eq
      exact @IsLayout.list { wording with sales := sales } _ _ _ _ id_eq name_eq sales_eq date_eq
        last

theorem IsId.isValue {value : List Char} (h : wording.IsId value) : IsValue value := by
  unfold IsId at h
  split at h
  · rw [h]
    exact .null
  · exact h.isValue

theorem areMembers_of_perm {parts further : List Member} {id? : Option Member}
    {name sales date : Member} (order : parts.Perm (id?.toList ++ name :: sales :: date :: further))
    (id_eq : ∀ id ∈ id?, id.IsNamed "id" ∧ wording.IsId id.value)
    (name_eq : name.IsNamed "name" ∧ wording.IsName name.value)
    (sales_eq : sales.IsNamed "sales" ∧ IsValue sales.value)
    (date_eq : date.IsNamed "date" ∧ wording.IsDate date.value)
    (others : ∀ part ∈ further, Record.IsFurther part) : AreMembers parts := by
  have hwell : ∀ part ∈ parts, Quoted.IsBody part.key ∧ IsValue part.value := by
    intro part hpart
    have hcases := order.mem_iff.mp hpart
    simp only [List.mem_cons, List.mem_append, Option.mem_toList] at hcases
    rcases hcases with hid | rfl | rfl | rfl | hfurther
    · exact ⟨(id_eq part hid).1.isBody, (id_eq part hid).2.isValue⟩
    · exact ⟨name_eq.1.isBody, IsString.isValue name_eq.2⟩
    · exact ⟨sales_eq.1.isBody, sales_eq.2⟩
    · exact ⟨date_eq.1.isBody, IsString.isValue date_eq.2⟩
    · rcases others part hfurther with ⟨other, hnamed, -, hvalue⟩
      exact ⟨hnamed.isBody, hvalue⟩
  exact ⟨fun part hpart => (hwell part hpart).1, fun part hpart => (hwell part hpart).2⟩

theorem IsLayoutWith.isValue (h : wording.IsLayoutWith number text) (hnumber : IsNumber number) :
    IsValue text := by
  have hvalue := hnumber.isValue
  cases h with
  | object order id_out id_eq name_eq sales_eq date_eq others last =>
      have hparts := areMembers_of_perm order id_eq name_eq ⟨sales_eq.1, sales_eq.2 ▸ hvalue⟩
        date_eq others
      exact .object hparts.keys hparts.values last
  | list id_eq name_eq sales_eq date_eq last =>
      apply IsValue.list
      simp only [List.forall_mem_cons]
      exact ⟨id_eq.isValue, IsString.isValue name_eq, sales_eq ▸ hvalue, IsString.isValue date_eq,
        List.forall_mem_nil _⟩

theorem IsLayoutWith.writesInRange (h : wording.IsLayoutWith number text)
    (hnumber : IsNumber number) (hread : Record.reader (text ++ rest) = .ok (record, after)) :
    WritesInRange 0 (UInt64.size - 1) number := by
  have hvalue := hnumber.isValue
  cases h with
  | @object parts further id? name sales date order id_out id_eq name_eq sales_eq date_eq others
      last =>
      have hparts := areMembers_of_perm order id_eq name_eq ⟨sales_eq.1, sales_eq.2 ▸ hvalue⟩
        date_eq others
      have hmem : sales ∈ parts := by
        apply order.mem_iff.mpr
        simp only [List.mem_append, List.mem_cons, true_or, or_true]
      rcases Record.takesWholeMembers_readSlot.readRecord_objectText hparts hread with
        ⟨-, slots, hpassed, -⟩
      rcases Record.readsFields.slot_of_mem Record.salesField_mem hpassed hmem sales_eq.1 with
        ⟨taken, htake, -⟩
      rw [sales_eq.2] at htake
      exact Record.writesInRange_of_mayTake_sales hnumber htake
  | list id_eq name_eq sales_eq date_eq last =>
      unfold Record.reader readRecord at hread
      rw [listText_append, skipSpace_cons (by decide)] at hread
      simp only at hread
      split at hread
      · cases hread
      · rename_i hpositions
        have htake := Record.mayTake_of_readPositions id_eq.isValue (IsString.isValue name_eq)
          (sales_eq ▸ hvalue) (IsString.isValue date_eq) hpositions
        rw [sales_eq] at htake
        exact Record.writesInRange_of_mayTake_sales hnumber htake

theorem MeansWith.readsBack (hmeans : wording.MeansWith number record)
    (h : wording.IsLayoutWith number text) : ReadsBack Record.reader text record :=
  (h.isLayout hmeans.sales).readsBack hmeans.others

theorem exists_meansWith_iff (hmeans : ∃ base, wording.Means base) :
    (∃ record, wording.MeansWith number record) ↔ WritesInRange 0 (UInt64.size - 1) number := by
  constructor
  · rintro ⟨record, -, hsales⟩
    exact Record.exists_sales_iff.mp ⟨record.sales, hsales⟩
  · intro hrange
    rcases Record.exists_sales_iff.mpr hrange with ⟨sales, hsales⟩
    rcases hmeans with ⟨base, hid, hname, -, hdate⟩
    exact ⟨{ base with sales := sales }, ⟨hid, hname, rfl, hdate⟩, hsales⟩

theorem IsLayoutWith.reader_eq_ok_iff (h : wording.IsLayoutWith number text)
    (hnumber : IsNumber number) (hmeans : ∃ base, wording.Means base) (hrest : EndsNumber rest) :
    Record.reader (text ++ rest) = .ok (record, after) ↔
      after = rest ∧ wording.MeansWith number record := by
  constructor
  · intro hread
    rcases (exists_meansWith_iff hmeans).mpr (h.writesInRange hnumber hread) with ⟨other, hother⟩
    rw [(hother.readsBack h).reads rest hrest] at hread
    cases hread
    exact ⟨rfl, hother⟩
  · rintro ⟨rfl, hrecord⟩
    exact (hrecord.readsBack h).reads after hrest

/-!
## Catalogs with any numbers
-/

section Entries

variable {entries : List (Wording × List Char)} {records : List Record}

theorem readsBack_entries {elements : List Element}
    (h : List.Forall₂ (fun entry element => entry.1.IsLayoutWith entry.2 element.value) entries
      elements)
    (hrecords : List.Forall₂ (fun entry record => entry.1.MeansWith entry.2 record) entries
      records) :
    List.Forall₂ (fun element record => ReadsBack Record.reader element.value record) elements
      records := by
  induction h generalizing records with
  | nil =>
      cases hrecords
      exact .nil
  | cons hlayout _ ih =>
      cases hrecords with
      | cons hfirst hothers =>
          exact .cons (hfirst.readsBack hlayout) (ih hothers)

theorem isValue_elements {elements : List Element}
    (h : List.Forall₂ (fun entry element => entry.1.IsLayoutWith entry.2 element.value) entries
      elements)
    (hentries : ∀ entry ∈ entries, IsNumber entry.2 ∧ ∃ base, entry.1.Means base) :
    ∀ element ∈ elements, IsValue element.value := by
  induction h with
  | nil =>
      exact List.forall_mem_nil _
  | @cons entry element entries elements hlayout _ ih =>
      refine List.forall_mem_cons.mpr ⟨?_, ih ?_⟩
      · exact hlayout.isValue (hentries entry List.mem_cons_self).1
      · exact fun other hother => hentries other (List.mem_cons_of_mem entry hother)

theorem forall₂_meansWith {elements : List Element}
    (h : List.Forall₂ (fun entry element => entry.1.IsLayoutWith entry.2 element.value) entries
      elements)
    (hentries : ∀ entry ∈ entries, IsNumber entry.2 ∧ ∃ base, entry.1.Means base)
    (htaken : List.Forall₂ (fun element record => MayTake Record.reader element.value record)
      elements records) :
    List.Forall₂ (fun entry record => entry.1.MeansWith entry.2 record) entries records := by
  induction h generalizing records with
  | nil =>
      cases htaken
      exact .nil
  | @cons entry element entries elements hlayout _ ih =>
      cases htaken with
      | cons hfirst hothers =>
          have hentry := hentries entry List.mem_cons_self
          rcases hfirst with ⟨rest, last, hrest, hread⟩
          refine .cons ?_ (ih ?_ hothers)
          · exact ((hlayout.reader_eq_ok_iff hentry.1 hentry.2 hrest).mp hread).2
          · exact fun other hother => hentries other (List.mem_cons_of_mem entry hother)

theorem IsCatalogTextWith.listOfJson_eq_ok_iff {text : List Char}
    (h : IsCatalogTextWith entries text)
    (hentries : ∀ entry ∈ entries, IsNumber entry.2 ∧ ∃ base, entry.1.Means base) :
    Record.listOfJson text = .ok records ↔
      List.Forall₂ (fun entry record => entry.1.MeansWith entry.2 record) entries records := by
  rcases h with ⟨h, before, last, after⟩
  unfold Record.listOfJson
  rw [(ignoresSpace_list Record.reader).readAll_append]
  constructor
  · intro hlist
    rcases exists_of_readAll_eq_ok hlist with ⟨rest, hread⟩
    exact forall₂_meansWith h hentries
      (Record.takesWhole_reader.readList_listText (isValue_elements h hentries) hread).2
  · intro hrecords
    exact (readsBack_list (readsBack_entries h hrecords) last).readAll after.spaces

end Entries

theorem exists_forall₂_meansWith_iff {entries : List (Wording × List Char)}
    (hmeans : ∀ entry ∈ entries, ∃ base, entry.1.Means base) :
    (∃ records, List.Forall₂ (fun entry record => entry.1.MeansWith entry.2 record) entries
      records) ↔ ∀ entry ∈ entries, WritesInRange 0 (UInt64.size - 1) entry.2 := by
  induction entries with
  | nil =>
      exact ⟨fun _ => List.forall_mem_nil _, fun _ => ⟨[], .nil⟩⟩
  | cons entry entries ih =>
      have hothers := ih fun other hother => hmeans other (List.mem_cons_of_mem entry hother)
      have hfirst := @exists_meansWith_iff entry.1 entry.2 (hmeans entry List.mem_cons_self)
      rw [List.forall_mem_cons, ← hothers, ← hfirst]
      constructor
      · rintro ⟨records, hrecords⟩
        cases hrecords with
        | cons hrecord hrecords =>
            exact ⟨⟨_, hrecord⟩, ⟨_, hrecords⟩⟩
      · rintro ⟨⟨record, hrecord⟩, ⟨records, hrecords⟩⟩
        exact ⟨record :: records, .cons hrecord hrecords⟩

end Wording

/-!
## Numbers in queries and catalogs
-/

theorem Record.writesInteger_of_products {entries : List (Wording × List Char)}
    {records : List Record} {products : List Product}
    (hrecords : List.Forall₂ (fun entry record => entry.1.MeansWith entry.2 record) entries records)
    (hproducts : List.Forall₂ (fun record product => ∃ given, product = record.product given)
      records products) :
    List.Forall₂ (fun entry product => WritesInteger entry.2 product.sales.toNat) entries
      products := by
  induction hrecords generalizing products with
  | nil =>
      cases hproducts
      exact .nil
  | cons hentry _ ih =>
      cases hproducts with
      | cons hproduct hothers =>
          rcases hproduct with ⟨given, rfl⟩
          exact .cons hentry.sales (ih hothers)

/-- A text with some numbers is read exactly if each of them is an integer in the range of its
field, without a fraction, an exponent, or the sign of minus zero, and these are the values. -/
theorem numbers_read_exactly :
    (∀ (wording : Query.Wording) text, wording.IsText text → wording.HasNumbers →
      (∀ query, Query.ofJson text = .ok query ↔ wording.Means query) ∧
      ((∃ query, Query.ofJson text = .ok query) ↔ wording.InRange)) ∧
    ∀ entries text, Wording.IsCatalogTextWith entries text →
      (∀ entry ∈ entries, IsNumber entry.2 ∧ ∃ base, entry.1.Means base) →
      (∀ records, Record.listOfJson text = .ok records ↔
        List.Forall₂ (fun entry record => entry.1.MeansWith entry.2 record) entries records) ∧
      ((∃ records, Record.listOfJson text = .ok records) ↔
        ∀ entry ∈ entries, WritesInRange 0 (UInt64.size - 1) entry.2) ∧
      (∀ entry ∈ entries, ¬WritesInRange 0 (UInt64.size - 1) entry.2 →
        ∀ fresh, ∃ fault, Catalog.ofJson fresh text = .error (.json fault)) ∧
      ∀ fresh products, Catalog.ofJson fresh text = .ok products →
        List.Forall₂ (fun entry product => WritesInteger entry.2 product.sales.toNat) entries
          products := by
  refine ⟨?_, ?_⟩
  · intro wording text htext hnumbers
    have hread {query : Query} := @htext.ofJson_eq_ok_iff _ _ query hnumbers
    refine ⟨fun _ => hread, ?_⟩
    rw [← Query.Wording.exists_means_iff]
    exact exists_congr fun _ => hread
  · intro entries text htext hentries
    have hread {records : List Record} := @htext.listOfJson_eq_ok_iff _ records _ hentries
    have hrange : (∃ records, Record.listOfJson text = .ok records) ↔
        ∀ entry ∈ entries, WritesInRange 0 (UInt64.size - 1) entry.2 := by
      rw [← Wording.exists_forall₂_meansWith_iff fun entry hentry => (hentries entry hentry).2]
      exact exists_congr fun _ => hread
    refine ⟨fun _ => hread, hrange, ?_, ?_⟩
    · intro entry hentry hout fresh
      unfold Catalog.ofJson
      cases hlist : Record.listOfJson text with
      | error fault =>
          exact ⟨fault, rfl⟩
      | ok records =>
          exact absurd (hrange.mp ⟨records, hlist⟩ entry hentry) hout
    · intro fresh products hproducts
      rcases Catalog.ofJson_eq_ok hproducts with ⟨records, hlist, rfl⟩
      exact Record.writesInteger_of_products (hread.mp hlist)
        (Catalog.forall₂_productsOf fresh records)

def lampSelling (number : List Char) : List Char :=
  array [array [null, string "Lamp".toList, number, string "2024-02-09".toList]]

theorem isCatalogTextWith_lampSelling (number : List Char) :
    Wording.IsCatalogTextWith [(⟨none, "Lamp", 0, "2024-02-09".toList⟩, number)]
      (lampSelling number) := by
  have hstring (text : List Char) : IsString (string text) text :=
    ⟨_, rfl, Quoted.spells_flatMap_escaped text⟩
  have hlayout : (Wording.mk none "Lamp" 0 "2024-02-09".toList).IsLayoutWith number
      (array [null, string "Lamp".toList, number, string "2024-02-09".toList]) := by
    rw [← listText_compact]
    apply Wording.IsLayoutWith.list
    · exact rfl
    · exact hstring "Lamp".toList
    · exact rfl
    · exact hstring "2024-02-09".toList
  unfold lampSelling
  rw [← listText_compact, ← List.append_nil (listText _ _)]
  exact @Wording.IsCatalogTextWith.mk [_] [.compact _] (.cons hlayout .nil) .empty .empty .empty

theorem numbers_read_exactly_lampSelling :
    (∃ records,
      Record.listOfJson (lampSelling "18446744073709551615".toList) = .ok records) ∧
    (∀ fresh, ∃ fault,
      Catalog.ofJson fresh (lampSelling "18446744073709551616".toList) = .error (.json fault)) ∧
    ∀ query, Query.ofJson "[\"all\",null,null,2.024e3]".toList ≠ .ok query := by
  have hmeans : ∃ base, (Wording.mk none "Lamp" 0 "2024-02-09".toList).Means base :=
    ⟨⟨none, "Lamp", 0, ⟨2024, 2, 9, by decide⟩⟩, .none, rfl, rfl, by decide⟩
  have hwhole (whole : List Char) (h : Numeral.IsWholePart whole) :
      WritesInteger whole (Text.placeValue whole) :=
    ⟨_, .positive (h.writesUnsigned false), Numeral.isInteger_placeValue whole⟩
  have hlargest := hwhole "18446744073709551615".toList ⟨by decide, by decide⟩
  have hnext := hwhole "18446744073709551616".toList ⟨by decide, by decide⟩
  have hyear : Numeral.Writes "2.024e3".toList
      ⟨false, ['2'], some "024".toList, some (false, ['3'])⟩ :=
    .positive (@Numeral.WritesUnsigned.mk false ['2'] ".024".toList "e3".toList _ _
      ⟨by decide, by decide⟩ (.some (by decide))
      (@Numeral.WritesExponent.some 'e' [] ['3'] false (Or.inl rfl) .none (by decide)))
  refine ⟨?_, ?_, ?_⟩
  · refine (numbers_read_exactly.2 _ _ (isCatalogTextWith_lampSelling _) ?_).2.1.mpr ?_
    · exact List.forall_mem_singleton.mpr ⟨hlargest.isNumber, hmeans⟩
    · exact List.forall_mem_singleton.mpr ⟨_, hlargest, by decide +kernel, by decide +kernel⟩
  · refine (numbers_read_exactly.2 _ _ (isCatalogTextWith_lampSelling _) ?_).2.2.1 _
      List.mem_cons_self ?_
    · exact List.forall_mem_singleton.mpr ⟨hnext.isNumber, hmeans⟩
    · rintro ⟨n, hn, -, hle⟩
      rw [hn.unique hnext] at hle
      exact absurd hle (by decide +kernel)
  · intro query hread
    have hlayout : (Query.Wording.mk .all none none (some "2.024e3".toList)).IsText
        "[\"all\",null,null,2.024e3]".toList :=
      @Query.Wording.IsText.mk _ _ (@Query.Wording.IsLayout.list _ (.compact "\"all\"".toList)
        (.compact null) (.compact null) (.compact "2.024e3".toList)
        ⟨"all".toList, rfl, by decide⟩ rfl rfl rfl .empty) .empty .empty
    have hnumbers : (Query.Wording.mk .all none none (some "2.024e3".toList)).HasNumbers := by
      refine ⟨?_, ?_, ?_⟩ <;> intro text htext <;> cases htext
      exact ⟨_, hyear⟩
    have hmeans := ((numbers_read_exactly.1 _ _ hlayout hnumbers).1 query).mp hread
    have hstated := hmeans.year
    generalize query.year = stated at hstated
    cases hstated with
    | some hn =>
        have hexponent := (hyear.writesInteger_iff.mp hn).exponent
        cases hexponent

end SpokenSales
