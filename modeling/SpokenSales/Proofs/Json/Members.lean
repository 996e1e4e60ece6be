import SpokenSales.Proofs.Json.ReadsBack

/-!
# Members in any order

An object is read into slots, one for each field.  Midway through the members the slot of a field
either is as it will be in the end, or it is empty and exactly one member to come will fill it.
-/

namespace SpokenSales
namespace Json

variable {name : String} {reader : Reader α}

/-- Whether the members to come lead from a slot of a field to what is there in the end. -/
inductive Leads (name : String) (reader : Reader α) : Option α → List Member → Option α → Prop
  | settled {parts : List Member} (slot : Option α) (h : Lacks parts name) :
      Leads name reader slot parts slot
  | ahead {before after : List Member} {part : Member} {value : α} (hnamed : part.IsNamed name)
      (hvalue : ReadsBack reader part.value value)
      (hothers : ∀ other ∈ before ++ after, ¬other.IsNamed name) :
      Leads name reader none (before ++ part :: after) (some value)

theorem Leads.eq_of_nil {slot target : Option α} (h : Leads name reader slot [] target) :
    slot = target := by
  generalize hparts : ([] : List Member) = parts at h
  cases h with
  | settled =>
      rfl
  | @ahead before =>
      cases before <;> cases hparts

theorem Leads.of_isNamed {slot target : Option α} {part : Member} {parts : List Member}
    (h : Leads name reader slot (part :: parts) target) (hpart : part.IsNamed name) :
    slot = none ∧ ∃ value, ReadsBack reader part.value value ∧
      Leads name reader (some value) parts target := by
  generalize hparts : part :: parts = all at h
  cases h with
  | settled _ hnone =>
      rw [← hparts] at hnone
      exact absurd hpart (hnone part List.mem_cons_self)
  | @ahead before after other value hnamed hvalue hothers =>
      cases before with
      | nil =>
          cases hparts
          exact ⟨rfl, value, hvalue, .settled _ hothers⟩
      | cons first before =>
          cases hparts
          exact absurd hpart (hothers part List.mem_cons_self)

theorem Leads.of_not_isNamed {slot target : Option α} {part : Member} {parts : List Member}
    (h : Leads name reader slot (part :: parts) target) (hpart : ¬part.IsNamed name) :
    Leads name reader slot parts target := by
  generalize hparts : part :: parts = all at h
  cases h with
  | settled _ hnone =>
      rw [← hparts] at hnone
      exact .settled _ fun other hother => hnone other (List.mem_cons_of_mem part hother)
  | @ahead before after other value hnamed hvalue hothers =>
      cases before with
      | nil =>
          cases hparts
          exact absurd hnamed hpart
      | cons first before =>
          cases hparts
          exact .ahead hnamed hvalue fun other hother =>
            hothers other (List.mem_cons_of_mem part hother)

theorem Leads.fill {value : α} {target : Option α} {parts : List Member} {part : Member}
    (h : Leads name reader (some value) parts target) (hnamed : part.IsNamed name)
    (hvalue : ReadsBack reader part.value value) :
    Leads name reader none (part :: parts) target := by
  cases h with
  | settled _ hnone =>
      exact @Leads.ahead _ _ _ [] parts part value hnamed hvalue hnone

theorem Leads.pass {slot target : Option α} {parts : List Member} {part : Member} {other : String}
    (h : Leads name reader slot parts target) (hnamed : part.IsNamed other) (hne : other ≠ name) :
    Leads name reader slot (part :: parts) target := by
  have hpart : ¬part.IsNamed name := fun hname => hne (hnamed.eq hname)
  cases h with
  | settled _ hnone =>
      exact .settled _ (List.forall_mem_cons.mpr ⟨hpart, hnone⟩)
  | @ahead before after filling value hfilling hvalue hothers =>
      exact @Leads.ahead _ _ _ (part :: before) after filling value hfilling hvalue
        (List.forall_mem_cons.mpr ⟨hpart, hothers⟩)

theorem Leads.perm {slot target : Option α} {parts parts' : List Member}
    (h : Leads name reader slot parts target) (hperm : parts.Perm parts') :
    Leads name reader slot parts' target := by
  cases h with
  | settled _ hnone =>
      exact .settled _ fun part hpart => hnone part (hperm.mem_iff.mpr hpart)
  | @ahead before after part value hnamed hvalue hothers =>
      have hpart : part ∈ parts' :=
        hperm.mem_iff.mp (List.mem_append_right before List.mem_cons_self)
      rcases List.append_of_mem hpart with ⟨before', after', rfl⟩
      have hrest : (before ++ after).Perm (before' ++ after') :=
        (List.perm_middle.symm.trans (hperm.trans List.perm_middle)).cons_inv
      exact .ahead hnamed hvalue fun other hother => hothers other (hrest.mem_iff.mpr hother)

end Json
end SpokenSales
