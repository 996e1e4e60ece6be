import SpokenSales.Proofs.Json.Skip

/-!
# Well-formed values

A value is a literal, a number, a string, a list or an object, and it is skipped however deeply it
is nested.  In strings the two units of a pair may stand alone.
-/

namespace SpokenSales
namespace Json

inductive IsValue : List Char → Prop
  | null : IsValue null
  | true : IsValue "true".toList
  | false : IsValue "false".toList
  | number {text : List Char} {numeral : Numeral} (h : Numeral.Writes text numeral) :
      IsValue text
  | string {body : List Char} (h : Quoted.IsBody body) : IsValue (quoted body)
  | list {elements : List Element} (h : ∀ element ∈ elements, IsValue element.value)
      (last : Gap) : IsValue (listText elements last)
  | object {parts : List Member} (hkeys : ∀ part ∈ parts, Quoted.IsBody part.key)
      (h : ∀ part ∈ parts, IsValue part.value) (last : Gap) : IsValue (objectText parts last)

theorem skippedIn_true : SkippedIn .list "true".toList :=
  skippedIn_scalar (by decide) (by decide) (by decide) (by decide) fun _ _ => rfl

theorem skippedIn_false : SkippedIn .list "false".toList :=
  skippedIn_scalar (by decide) (by decide) (by decide) (by decide) fun _ _ => rfl

theorem IsValue.skippedIn {text : List Char} (h : IsValue text) : SkippedIn .list text := by
  induction h with
  | null =>
      exact skippedIn_null
  | true =>
      exact skippedIn_true
  | false =>
      exact skippedIn_false
  | number h =>
      exact skippedIn_number h
  | string h =>
      exact skippedIn_quoted h
  | list _ last ih =>
      exact skippedIn_listText ih last
  | object hkeys _ last ih =>
      exact skippedIn_objectText hkeys ih last

theorem IsValue.startsValue {text : List Char} (h : IsValue text) : StartsValue text :=
  h.skippedIn.starts

theorem IsString.isValue {value text : List Char} (h : IsString value text) : IsValue value := by
  rcases h with ⟨body, rfl, hbody⟩
  exact .string hbody.isBody

theorem IsValue.exists_listText {more : List Char} (h : IsValue ('[' :: more)) :
    ∃ elements last, '[' :: more = listText elements last ∧
      ∀ element ∈ elements, IsValue element.value := by
  generalize htext : '[' :: more = text at h
  cases h with
  | list h last =>
      exact ⟨_, last, rfl, h⟩
  | number h =>
      rcases h.exists_cons with ⟨c, others, heq, hc⟩
      rw [← htext] at heq
      cases heq
      exact absurd hc (by decide)
  | _ =>
      cases htext

theorem IsValue.exists_objectText {more : List Char} (h : IsValue ('{' :: more)) :
    ∃ parts last, '{' :: more = objectText parts last ∧
      (∀ part ∈ parts, Quoted.IsBody part.key) ∧ ∀ part ∈ parts, IsValue part.value := by
  generalize htext : '{' :: more = text at h
  cases h with
  | object hkeys h last =>
      exact ⟨_, last, rfl, hkeys, h⟩
  | number h =>
      rcases h.exists_cons with ⟨c, others, heq, hc⟩
      rw [← htext] at heq
      cases heq
      exact absurd hc (by decide)
  | _ =>
      cases htext

end Json
end SpokenSales
