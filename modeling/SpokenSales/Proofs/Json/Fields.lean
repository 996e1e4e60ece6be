import Mathlib.Data.List.Nodup
import SpokenSales.Proofs.Json.Members
import SpokenSales.Proofs.Json.Whole

/-!
# Records by their fields

A record is read into slots, one for each field.  The value of a field is read once, into its own
slot, and members with other names are skipped.  So the members may come in any order, and in the
end every slot holds what was read from the member of its name.
-/

namespace SpokenSales
namespace Json

/-- A field of a record: the name of its member, the reader of its value, and its slot. -/
structure RecordField (σ : Type) where
  Value : Type
  name : String
  reader : Reader Value
  slot : σ → Option Value
  fill : Value → σ → σ

/-- Whether a reader of members reads each of some fields once and skips all other members. -/
structure ReadsFields (fields : List (RecordField σ)) (member : MemberReader σ) : Prop where
  distinct : (fields.map RecordField.name).Nodup
  ignores : ∀ field ∈ fields, IgnoresSpace field.reader
  known : ∀ field ∈ fields, ∀ state, member field.name.toList state =
    readOnce field.name (field.slot state) field.reader fun value => field.fill value state
  unknown : ∀ key, (∀ field ∈ fields, key ≠ field.name.toList) →
    ∀ state, member key state = skipMember state
  slot_fill : ∀ field ∈ fields, ∀ value state, field.slot (field.fill value state) = some value
  slot_fill_of_ne : ∀ field ∈ fields, ∀ other ∈ fields, field.name ≠ other.name →
    ∀ value state, other.slot (field.fill value state) = other.slot state
  ext : ∀ state state', (∀ field ∈ fields, field.slot state = field.slot state') → state = state'

def Member.IsFurther (names : List String) (part : Member) : Prop :=
  ∃ name, part.IsNamed name ∧ name ∉ names ∧ IsValue part.value

theorem Member.IsFurther.not_isNamed {names : List String} {part : Member}
    (h : part.IsFurther names) {name : String} (hname : name ∈ names) : ¬part.IsNamed name := by
  rcases h with ⟨other, hother, hnew, -⟩
  intro hnamed
  rw [hother.eq hnamed] at hnew
  exact hnew hname

variable {fields : List (RecordField σ)} {member : MemberReader σ}

theorem ReadsFields.eq_of_name_eq (h : ReadsFields fields member) {field other : RecordField σ}
    (hfield : field ∈ fields) (hother : other ∈ fields) (hname : field.name = other.name) :
    field = other :=
  List.inj_on_of_nodup_map h.distinct hfield hother hname

/-!
## Filling the slots
-/

/-- Whether the members to come lead from some slots to what is in them in the end. -/
structure LeadEach (fields : List (RecordField σ)) (state : σ) (parts : List Member) (target : σ) :
    Prop where
  each : ∀ field ∈ fields,
    Leads field.name field.reader (field.slot state) parts (field.slot target)
  known : ∀ part ∈ parts,
    (∃ field ∈ fields, part.IsNamed field.name) ∨ part.IsFurther (fields.map RecordField.name)

section Lead

variable {state target : σ} {part : Member} {parts : List Member}

theorem leadEach_further (h : ∀ part ∈ parts, part.IsFurther (fields.map RecordField.name))
    (state : σ) : LeadEach fields state parts state where
  each := by
    intro field hfield
    exact .settled _ fun part hpart =>
      (h part hpart).not_isNamed (List.mem_map_of_mem hfield)
  known := fun part hpart => Or.inr (h part hpart)

theorem LeadEach.fill (hreads : ReadsFields fields member) {field : RecordField σ}
    (hfield : field ∈ fields) {value : field.Value}
    (h : LeadEach fields (field.fill value state) parts target) (hslot : field.slot state = none)
    (hnamed : part.IsNamed field.name) (hvalue : ReadsBack field.reader part.value value) :
    LeadEach fields state (part :: parts) target where
  each := by
    intro other hother
    have hleads := h.each other hother
    by_cases hname : field.name = other.name
    · cases hreads.eq_of_name_eq hfield hother hname
      rw [hreads.slot_fill field hfield] at hleads
      rw [hslot]
      exact hleads.fill hnamed hvalue
    · rw [hreads.slot_fill_of_ne field hfield other hother hname] at hleads
      exact hleads.pass hnamed hname
  known := List.forall_mem_cons.mpr ⟨Or.inl ⟨field, hfield, hnamed⟩, h.known⟩

theorem LeadEach.fill_toList (hreads : ReadsFields fields member) {field : RecordField σ}
    (hfield : field ∈ fields) {value : field.Value} {part? : Option Member}
    (h : LeadEach fields (part?.elim state fun _ => field.fill value state) parts target)
    (hslot : field.slot state = none)
    (hpart : ∀ part ∈ part?, part.IsNamed field.name ∧ ReadsBack field.reader part.value value) :
    LeadEach fields state (part?.toList ++ parts) target := by
  cases part? with
  | none =>
      exact h
  | some part =>
      have hpart := hpart part rfl
      exact h.fill hreads hfield hslot hpart.1 hpart.2

theorem LeadEach.perm {parts' : List Member} (h : LeadEach fields state parts target)
    (hperm : parts.Perm parts') : LeadEach fields state parts' target where
  each := fun field hfield => (h.each field hfield).perm hperm
  known := fun part hpart => h.known part (hperm.mem_iff.mpr hpart)

theorem ReadsFields.takesMember (hreads : ReadsFields fields member) {field : RecordField σ}
    (hfield : field ∈ fields) (hslot : field.slot state = none) (hnamed : part.IsNamed field.name)
    {value : field.Value} (hvalue : ReadsBack field.reader part.value value) :
    TakesMember member state part (field.fill value state) := by
  refine hvalue.takesMember (hreads.ignores field hfield) field.name
    (fun value => field.fill value state) hnamed ?_
  rw [hreads.known field hfield, hslot]

theorem ReadsFields.takesMember_further (hreads : ReadsFields fields member)
    (h : part.IsFurther (fields.map RecordField.name)) (state : σ) :
    TakesMember member state part state := by
  rcases h with ⟨name, hnamed, hnew, hvalue⟩
  refine takesMember_skipped hnamed ?_ hvalue.skippedIn
  apply hreads.unknown
  intro field hfield heq
  rw [String.toList_injective heq] at hnew
  exact hnew (List.mem_map_of_mem hfield)

theorem LeadEach.exists_takesMember (hreads : ReadsFields fields member)
    (h : LeadEach fields state (part :: parts) target) :
    ∃ middle, TakesMember member state part middle ∧ LeadEach fields middle parts target := by
  have hknown := fun other hother => h.known other (List.mem_cons_of_mem part hother)
  rcases h.known part List.mem_cons_self with ⟨field, hfield, hnamed⟩ | hfurther
  · rcases (h.each field hfield).of_isNamed hnamed with ⟨hslot, value, hvalue, hleads⟩
    refine ⟨field.fill value state, ?_, ?_, hknown⟩
    · exact hreads.takesMember hfield hslot hnamed hvalue
    · intro other hother
      by_cases hname : field.name = other.name
      · cases hreads.eq_of_name_eq hfield hother hname
        rw [hreads.slot_fill field hfield]
        exact hleads
      · rw [hreads.slot_fill_of_ne field hfield other hother hname]
        exact (h.each other hother).of_not_isNamed fun hother => hname (hnamed.eq hother)
  · refine ⟨state, hreads.takesMember_further hfurther state, ?_, hknown⟩
    intro field hfield
    exact (h.each field hfield).of_not_isNamed
      (hfurther.not_isNamed (List.mem_map_of_mem hfield))

theorem LeadEach.takesMembers (hreads : ReadsFields fields member)
    (h : LeadEach fields state parts target) : TakesMembers member state parts target := by
  -- The slots change with each member, but what they lead to in the end stays the same.
  induction parts generalizing state with
  | nil =>
      rw [hreads.ext state target fun field hfield => (h.each field hfield).eq_of_nil]
      exact .nil target
  | cons part parts ih =>
      rcases h.exists_takesMember hreads with ⟨middle, hpart, hparts⟩
      exact .cons hpart (ih hparts)

end Lead

/-!
## What the slots hold

Conversely, members that were passed have left in each slot what was read from the member of its
name.
-/

theorem TakesWhole.mayTake_of_readPosition {reader : Reader α} (h : TakesWhole reader)
    {element : Element} (hvalue : IsValue element.value) {others : List Element} {gap last : Gap}
    {rest after : List Char} {value : α}
    (hread : readPosition false reader
      (remainder gap ((element :: others).map Element.text) last ']' rest) = .ok (value, after)) :
    MayTake reader element.value value ∧
      after = remainder element.after (others.map Element.text) last ']' rest := by
  have hends : EndsNumber (remainder element.after (others.map Element.text) last ']' rest) :=
    endsNumber_remainder (endsNumber_cons (by decide) rest) _ _ _
  rw [Json.readPosition_remainder hvalue.startsValue] at hread
  exact ⟨⟨_, _, hends, hread⟩, h.rest_eq hvalue hends hread⟩

theorem IgnoresSpace.readOnce_fromColon {reader : Reader α} (h : IgnoresSpace reader)
    {name : String} {seen : Option α} {put : α → σ} {part : Member} {rest last : List Char}
    {state : σ} (hread : readOnce name seen reader put (part.fromColon rest) = .ok (state, last)) :
    seen = none ∧
      ∃ value, state = put value ∧ reader (part.value ++ rest) = .ok (value, last) := by
  cases seen with
  | some _ =>
      cases hread
  | none =>
      unfold readOnce readMember Member.fromColon at hread
      rw [skipColon_append] at hread
      simp only [h.append] at hread
      split at hread
      · cases hread
      · rename_i htaken
        cases hread
        exact ⟨rfl, _, rfl, htaken⟩

namespace ReadsFields

theorem takesWholeMembers (h : ReadsFields fields member)
    (hwhole : ∀ field ∈ fields, TakesWhole field.reader) : TakesWholeMembers member := by
  constructor
  intro key rest last state state' part hvalue hrest hread
  by_cases hkey : ∃ field ∈ fields, key = field.name.toList
  · rcases hkey with ⟨field, hfield, rfl⟩
    rw [h.known field hfield] at hread
    rcases (h.ignores field hfield).readOnce_fromColon hread with ⟨-, value, -, htaken⟩
    exact (hwhole field hfield).rest_eq hvalue hrest htaken
  · have hnew : ∀ field ∈ fields, key ≠ field.name.toList :=
      fun field hfield heq => hkey ⟨field, hfield, heq⟩
    rw [h.unknown key hnew] at hread
    exact skipMember_fromColon hvalue hrest hread

variable {state state' : σ} {part : Member} {parts : List Member} {field : RecordField σ}

theorem slot_of_passesMember (h : ReadsFields fields member) (hfield : field ∈ fields)
    (hpass : PassesMember member state part state') :
    (part.IsNamed field.name → field.slot state = none ∧
      ∃ value, MayTake field.reader part.value value ∧ field.slot state' = some value) ∧
    (¬part.IsNamed field.name → field.slot state' = field.slot state) := by
  rcases hpass with ⟨key, rest, hspells, hrest, hread⟩
  by_cases hkey : ∃ other ∈ fields, key = other.name.toList
  · rcases hkey with ⟨other, hother, rfl⟩
    have hnamed : part.IsNamed other.name := hspells
    rw [h.known other hother] at hread
    rcases (h.ignores other hother).readOnce_fromColon hread with ⟨hslot, value, rfl, htaken⟩
    constructor
    · intro hname
      cases h.eq_of_name_eq hother hfield (hnamed.eq hname)
      exact ⟨hslot, value, ⟨rest, _, hrest, htaken⟩, h.slot_fill field hfield value state⟩
    · intro hname
      apply h.slot_fill_of_ne other hother field hfield
      intro heq
      rw [heq] at hnamed
      exact hname hnamed
  · have hnew : ∀ other ∈ fields, key ≠ other.name.toList :=
      fun other hother heq => hkey ⟨other, hother, heq⟩
    rw [h.unknown key hnew] at hread
    constructor
    · intro hname
      exact absurd (hspells.unique hname) (hnew field hfield)
    · intro _
      unfold skipMember at hread
      split at hread
      · cases hread
      · cases hread
        rfl

theorem slot_of_lacks (h : ReadsFields fields member) (hfield : field ∈ fields)
    (hpass : InTurn (PassesMember member) state parts state') :
    (field.slot state ≠ none → Lacks parts field.name) ∧
      (Lacks parts field.name → field.slot state' = field.slot state) := by
  induction hpass with
  | nil state =>
      exact ⟨fun _ => List.forall_mem_nil _, fun _ => rfl⟩
  | @cons state middle state' part parts hfirst _ ih =>
      rcases h.slot_of_passesMember hfield hfirst with ⟨hfills, hkeeps⟩
      constructor
      · intro hslot
        have hpart : ¬part.IsNamed field.name := fun hnamed => hslot (hfills hnamed).1
        rw [← hkeeps hpart] at hslot
        exact List.forall_mem_cons.mpr ⟨hpart, ih.1 hslot⟩
      · intro hlacks
        rw [ih.2 fun other hother => hlacks other (List.mem_cons_of_mem part hother),
          hkeeps (hlacks part List.mem_cons_self)]

theorem slot_of_mem (h : ReadsFields fields member) (hfield : field ∈ fields)
    (hpass : InTurn (PassesMember member) state parts state') (hpart : part ∈ parts)
    (hnamed : part.IsNamed field.name) :
    ∃ value, MayTake field.reader part.value value ∧ field.slot state' = some value := by
  induction hpass with
  | nil =>
      cases hpart
  | @cons state middle state' first parts hfirst hothers ih =>
      rcases List.mem_cons.mp hpart with rfl | hlater
      · -- The slot is filled now, so no later member has the name, and the slot stays as it is.
        rcases (h.slot_of_passesMember hfield hfirst).1 hnamed with ⟨-, value, htakes, hslot⟩
        have hstays := h.slot_of_lacks hfield hothers
        have hne : field.slot middle ≠ none := by
          rw [hslot]
          exact Option.some_ne_none value
        exact ⟨value, htakes, (hstays.2 (hstays.1 hne)).trans hslot⟩
      · exact ih hlater

end ReadsFields
end Json
end SpokenSales
