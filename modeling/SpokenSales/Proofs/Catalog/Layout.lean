import SpokenSales.Proofs.Catalog.Wording
import SpokenSales.Proofs.Json.Whole

/-!
# Layout does not matter

What a catalog is loaded from depends on the records that its text means and not on how these are
laid out.  An object that repeats a member of a record or lacks a required one is no layout at all,
whatever the values of its members are.
-/

namespace SpokenSales

open Json

namespace Record

/-!
## Values are read whole
-/

theorem readsScalar_id : ReadsScalar readId :=
  (readsScalar_written Uuid.read? .badUuid).optional

theorem readsScalar_name : ReadsScalar readName := by
  constructor
  intro text rest name hread
  unfold readName at hread
  split at hread
  · cases hread
  · rename_i hstring
    cases hread
    exact readsScalar_string.skips hstring

theorem readsScalar_sales : ReadsScalar readSales := by
  constructor
  intro text rest sales hread
  unfold readSales at hread
  split at hread
  · cases hread
  · rename_i hinteger
    cases hread
    exact (readsScalar_integer _ _).skips hinteger

theorem readsScalar_date : ReadsScalar readDate :=
  readsScalar_written Date.read? .badDate

theorem takesWholeMembers_readSlot : TakesWholeMembers readSlot :=
  readsFields.takesWholeMembers (forall_mem_fields readsScalar_id.takesWhole
    readsScalar_name.takesWhole readsScalar_sales.takesWhole readsScalar_date.takesWhole)

theorem stopsBetween_readPositions : StopsBetween readPositions := by
  constructor
  intro elements last rest after record helements hread
  have hlater {element : Element} {others : List Element}
      (h : ∀ other ∈ element :: others, IsValue other.value) :
      ∀ other ∈ others, IsValue other.value :=
    fun other hother => h other (List.mem_cons_of_mem element hother)
  unfold readPositions at hread
  rw [readPosition_listText fun element helement => (helements element helement).startsValue]
    at hread
  simp only [bind, Except.bind] at hread
  split at hread
  · cases hread
  rename_i taken hid
  rcases taken with ⟨id, text⟩
  rcases readsScalar_id.takesWhole.readPosition_remainder helements hid with
    ⟨first, elements, rfl, rfl⟩
  split at hread
  · cases hread
  rename_i taken hname
  rcases taken with ⟨name, text⟩
  rcases readsScalar_name.takesWhole.readPosition_remainder (hlater helements) hname with
    ⟨second, elements, rfl, rfl⟩
  split at hread
  · cases hread
  rename_i taken hsales
  rcases taken with ⟨sales, text⟩
  rcases readsScalar_sales.takesWhole.readPosition_remainder (hlater (hlater helements)) hsales
    with ⟨third, elements, rfl, rfl⟩
  split at hread
  · cases hread
  rename_i taken hdate
  rcases taken with ⟨date, text⟩
  rcases readsScalar_date.takesWhole.readPosition_remainder
    (hlater (hlater (hlater helements))) hdate with ⟨fourth, elements, rfl, rfl⟩
  cases hread
  exact ⟨_, _, rfl⟩

theorem takesWhole_reader : TakesWhole reader :=
  takesWhole_readRecord takesWholeMembers_readSlot stopsBetween_readPositions

/-!
## Filled slots
-/

def Slots.has (slots : Slots) (name : String) : Bool :=
  if name = "id" then slots.id.isSome
  else if name = "name" then slots.name.isSome
  else if name = "sales" then slots.sales.isSome
  else if name = "date" then slots.date.isSome
  else false

theorem Slots.has_name (slots : Slots) :
    ∀ field ∈ fields, slots.has field.name = (field.slot slots).isSome := by
  apply forall_mem_fields <;> rfl

theorem has_of_passesMember {slots slots' : Slots} {part : Member}
    (h : PassesMember readSlot slots part slots') {name : String} (hname : name ∈ memberNames) :
    (part.IsNamed name → slots.has name = false ∧ slots'.has name = true) ∧
      (¬part.IsNamed name → slots'.has name = slots.has name) := by
  have hfields : memberNames = fields.map RecordField.name := rfl
  rw [hfields] at hname
  rcases List.mem_map.mp hname with ⟨field, hfield, rfl⟩
  rcases readsFields.slot_of_passesMember hfield h with ⟨hfills, hkeeps⟩
  rw [slots.has_name field hfield, slots'.has_name field hfield]
  constructor
  · intro hnamed
    rcases hfills hnamed with ⟨hempty, value, -, hfull⟩
    rw [hempty, hfull]
    exact ⟨rfl, rfl⟩
  · intro hnamed
    rw [hkeeps hnamed]

theorem has_of_inTurn {slots slots' : Slots} {parts : List Member}
    (h : InTurn (PassesMember readSlot) slots parts slots') {name : String}
    (hname : name ∈ memberNames) :
    (slots.has name = true → Lacks parts name) ∧ ¬Repeats parts name ∧
      (Lacks parts name → slots'.has name = slots.has name) := by
  induction h with
  | nil slots =>
      refine ⟨fun _ => List.forall_mem_nil _, ?_, fun _ => rfl⟩
      rintro ⟨before, first, between, second, after, heq, -⟩
      cases before <;> cases heq
  | @cons slots middle slots' part parts hfirst _ ih =>
      rcases has_of_passesMember hfirst hname with ⟨hfills, hkeeps⟩
      rcases ih with ⟨hlacks, hrepeats, hlast⟩
      -- A repetition is in the members to come, or the first of its two is this one.
      have hnext (hpart : part.IsNamed name → Lacks parts name) :
          ¬Repeats (part :: parts) name := by
        rintro ⟨before, first, between, second, after, heq, hnamed, hagain⟩
        cases before with
        | nil =>
            cases heq
            exact hpart hnamed second
              (List.mem_append_right between List.mem_cons_self) hagain
        | cons _ before =>
            cases heq
            exact hrepeats ⟨before, first, between, second, after, rfl, hnamed, hagain⟩
      by_cases hpart : part.IsNamed name
      · rcases hfills hpart with ⟨hempty, hfull⟩
        refine ⟨?_, hnext fun _ => hlacks hfull, ?_⟩
        · intro hhas
          rw [hempty] at hhas
          cases hhas
        · intro hnone
          exact absurd hpart (hnone part List.mem_cons_self)
      · have hsame := hkeeps hpart
        refine ⟨?_, hnext fun hnamed => absurd hnamed hpart, ?_⟩
        · intro hhas
          exact List.forall_mem_cons.mpr ⟨hpart, hlacks (hsame.trans hhas)⟩
        · intro hnone
          rw [hlast fun other hother => hnone other (List.mem_cons_of_mem part hother), hsame]

theorem has_of_complete {slots : Slots} {record : Record} (h : slots.complete = .ok record)
    {name : String} (hname : name ∈ ["name", "sales", "date"]) : slots.has name = true := by
  rcases slots with ⟨id, written, sales, date⟩
  unfold Slots.complete required at h
  simp only [bind, Except.bind] at h
  cases written with
  | none =>
      cases h
  | some written =>
      cases sales with
      | none =>
          cases h
      | some sales =>
          cases date with
          | none =>
              cases h
          | some date =>
              simp only [List.mem_cons, List.not_mem_nil, or_false] at hname
              rcases hname with rfl | rfl | rfl <;> rfl

/-!
## Objects that are no record
-/

/-- Whether some members repeat one of a record's or lack one that it must have. -/
def IsRefused (parts : List Member) : Prop :=
  (∃ name ∈ memberNames, Repeats parts name) ∨ ∃ name ∈ ["name", "sales", "date"], Lacks parts name

theorem reader_objectText_ne {parts : List Member} (hparts : AreMembers parts)
    (h : IsRefused parts) (last : Gap) (rest after : List Char) (record : Record) :
    reader (objectText parts last ++ rest) ≠ .ok (record, after) := by
  intro hread
  rcases takesWholeMembers_readSlot.readRecord_objectText hparts hread with
    ⟨-, slots, hpassed, hcomplete⟩
  rcases h with ⟨name, hname, hrepeats⟩ | ⟨name, hname, hlacks⟩
  · exact (has_of_inTurn hpassed hname).2.1 hrepeats
  · have hmember : name ∈ memberNames := List.mem_cons_of_mem "id" hname
    have hhas := has_of_complete hcomplete hname
    have hempty : Slots.has ⟨none, none, none, none⟩ name = false := by
      simp [Slots.has]
    rw [(has_of_inTurn hpassed hmember).2.2 hlacks, hempty] at hhas
    cases hhas

theorem listOfJson_ne {elements : List Element}
    (helements : ∀ element ∈ elements, IsValue element.value) {element : Element}
    (helement : element ∈ elements) {parts : List Member} {closing : Gap}
    (hvalue : element.value = objectText parts closing) (hparts : AreMembers parts)
    (h : IsRefused parts) (before last after : Gap) (records : List Record) :
    listOfJson (before.text ++ (listText elements last ++ after.text)) ≠ .ok records := by
  intro hlist
  unfold listOfJson at hlist
  rw [(ignoresSpace_list reader).readAll_append] at hlist
  rcases exists_of_readAll_eq_ok hlist with ⟨rest, hread⟩
  have hread := (takesWhole_reader.readList_listText helements hread).2
  rcases List.forall₂_iff_get.mp hread with ⟨hlength, hget⟩
  rcases List.getElem_of_mem helement with ⟨i, hi, rfl⟩
  rcases hget i hi (hlength ▸ hi) with ⟨tail, left, -, hrecord⟩
  rw [List.get_eq_getElem, hvalue] at hrecord
  exact reader_objectText_ne hparts h closing tail left _ hrecord

end Record

namespace Catalog

/-- What a text is loaded as depends on the records that it means only, whatever the layout of each
of them is, and a text with an object that repeats or lacks a member is not loaded. -/
theorem ofJson_of_layout :
    (∀ (wording : Wording) text, wording.IsLayout text → ∀ record, wording.Means record →
      ∀ rest, EndsNumber rest → Record.reader (text ++ rest) = .ok (record, rest)) ∧
    (∀ wordings text, Wording.IsCatalogText wordings text →
      ∀ records, List.Forall₂ Wording.Means wordings records →
        Record.listOfJson text = .ok records ∧
          ∀ fresh, ofJson fresh text = ofRecords fresh records) ∧
    (∀ parts, AreMembers parts → Record.IsRefused parts → ∀ last rest after record,
      Record.reader (objectText parts last ++ rest) ≠ .ok (record, after)) ∧
    ∀ elements : List Element, (∀ element ∈ elements, IsValue element.value) →
      ∀ element ∈ elements, ∀ parts closing, element.value = objectText parts closing →
        AreMembers parts → Record.IsRefused parts → ∀ (before last after : Gap) fresh,
          ∃ fault, ofJson fresh (before.text ++ (listText elements last ++ after.text)) =
            .error (.json fault) := by
  refine ⟨?_, ?_, ?_, ?_⟩
  · intro wording text hlayout record hmeans
    exact (hlayout.readsBack hmeans).reads
  · intro wordings text htext records hmeans
    refine ⟨htext.listOfJson hmeans, ?_⟩
    intro fresh
    unfold ofJson
    rw [htext.listOfJson hmeans]
  · intro parts hparts hrefused
    exact Record.reader_objectText_ne hparts hrefused
  · intro elements helements element helement parts closing hvalue hparts hrefused before last
      after fresh
    unfold ofJson
    cases hlist : Record.listOfJson (before.text ++ (listText elements last ++ after.text)) with
    | error fault =>
        exact ⟨fault, rfl⟩
    | ok records =>
        exact absurd hlist
          (Record.listOfJson_ne helements helement hvalue hparts hrefused before last after records)

/-- The members of a record, the last one first, behind one that is skipped. -/
def lampMembers : List Member :=
  [.compact ("x", "[[\"\\ud800\"]]".toList), .compact ("date", "\"2024-2-9\"".toList),
   .compact ("sales", ['5']),
   ⟨.empty, "n\\u0061me".toList, .blank, .blank, "\"Lamp\"".toList, .empty⟩]

theorem isValue_unpaired : IsValue "[[\"\\ud800\"]]".toList := by
  have hbody : Quoted.IsBody "\\ud800".toList :=
    @Quoted.IsBody.cons _ [] (@Quoted.IsPiece.unit ['d', '8', '0', '0'] 0xD800 rfl (by decide)) .nil
  have hinner := @IsValue.list [.compact _] (List.forall_mem_singleton.mpr (.string hbody)) .empty
  exact @IsValue.list [.compact _] (List.forall_mem_singleton.mpr hinner) .empty

theorem isLayout_lampMembers :
    (Wording.mk none "Lamp" 5 "2024-2-9".toList).IsLayout (objectText lampMembers .empty) := by
  have hfive : ['5'] = Text.decimal (5 : UInt64).toNat := by
    rw [Text.decimal, if_pos (by decide)]
    rfl
  have horder : lampMembers.Perm lampMembers.reverse := (List.reverse_perm lampMembers).symm
  apply @Wording.IsLayout.object _ _ [_] none _ _ _ horder
  · intro _
    rfl
  · intro id hid
    cases hid
  · exact ⟨by decide +kernel, "Lamp".toList, rfl, by decide⟩
  · exact ⟨by decide, hfive⟩
  · exact ⟨by decide, "2024-2-9".toList, rfl, by decide⟩
  · intro part hpart
    rw [List.mem_singleton.mp hpart]
    exact ⟨"x", by decide, by decide, isValue_unpaired⟩

theorem ofJson_of_layout_lampMembers :
    let lamp : Product := ⟨Uuid.supply 0 0, "Lamp", 5, ⟨2024, 2, 9, by decide⟩⟩
    ofJson (Uuid.supply 0) ('[' :: (objectText lampMembers .empty ++ [']'])) = .ok [lamp] ∧
    ofJson (Uuid.supply 0)
      (Json.array ([⟨none, "Lamp", 5, "2024-02-09".toList⟩].map Wording.write)) = .ok [lamp] ∧
    ∃ fault, ofJson (Uuid.supply 0) "[\x7b\"name\":\"Lamp\"\x7d]".toList =
      .error (.json fault) := by
  intro lamp
  have hmeans (text : List Char) (h : Date.read? text = some ⟨2024, 2, 9, by decide⟩) :
      List.Forall₂ Wording.Means [⟨none, "Lamp", 5, text⟩]
        [⟨none, "Lamp", 5, ⟨2024, 2, 9, by decide⟩⟩] :=
    .cons ⟨.none, rfl, rfl, h⟩ .nil
  have hobject := @Wording.IsCatalogText.mk [_] [.compact _] (.cons isLayout_lampMembers .nil)
    .empty .empty .empty
  let alone : Member := .compact ("name", "\"Lamp\"".toList)
  have halone : AreMembers [alone] :=
    ⟨List.forall_mem_singleton.mpr (Member.isNamed_compact ("name", _)).isBody,
      List.forall_mem_singleton.mpr (.string (Quoted.spells_flatMap_escaped "Lamp".toList).isBody)⟩
  have hlacks : Lacks [alone] "sales" := List.forall_mem_singleton.mpr (by decide)
  have hlamp : ofRecords (Uuid.supply 0) [⟨none, "Lamp", 5, ⟨2024, 2, 9, by decide⟩⟩] =
      .ok [lamp] := rfl
  refine ⟨?_, ?_, ?_⟩
  · have hloaded := (ofJson_of_layout.2.1 _ _ hobject _ (hmeans _ (by decide))).2
    exact (hloaded (Uuid.supply 0)).trans hlamp
  · have hlisted := (ofJson_of_layout.2.1 _ _ (Wording.isCatalogText_write _) _
      (hmeans "2024-02-09".toList (by decide))).2
    exact (hlisted (Uuid.supply 0)).trans hlamp
  · exact ofJson_of_layout.2.2.2 [.compact (objectText [alone] .empty)]
      (List.forall_mem_singleton.mpr (.object halone.keys halone.values .empty)) _
      List.mem_cons_self [alone] .empty rfl halone (Or.inr ⟨"sales", by decide, hlacks⟩)
      .empty .empty .empty (Uuid.supply 0)

end Catalog
end SpokenSales
