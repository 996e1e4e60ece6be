import SpokenSales.Cli.Arguments

/-!
# Words after a separator

Arguments that are read as they are can be followed by a separator and any words.  The words may
look like options: they are added as they are, and nothing else changes.
-/

namespace SpokenSales
namespace Cli

def Invocation.addWords (invocation : Invocation) (words : List String) : Invocation :=
  { invocation with words := invocation.words ++ words }

theorem longShape_eq_separator {body : List Char} (h : longShape body = .separator) :
    body = [] := by
  unfold longShape at h
  simp only at h
  split at h
  case h_1 hname hvalue =>
    have hfront : body.takeWhile (· != '=') = [] := String.ofList_eq_empty_iff.mp hname
    have hback : body.dropWhile (· != '=') = [] := by
      cases hdrop : body.dropWhile (· != '=') with
      | nil =>
          rfl
      | cons c rest =>
          rw [hdrop] at hvalue
          cases hvalue
    rw [← List.takeWhile_append_dropWhile (p := (· != '=')) (l := body), hfront, hback]
    rfl
  all_goals cases h

theorem shape_eq_separator {argument : String} (h : shape argument = .separator) :
    argument = "--" := by
  unfold shape at h
  split at h
  · rename_i body hbody
    rw [longShape_eq_separator h] at hbody
    exact String.toList_inj.mp hbody
  all_goals cases h

theorem readArguments_separator {invocation base : Invocation} {options : List String}
    (h : readArguments invocation options = .ok base) (hoptions : "--" ∉ options)
    (words : List String) :
    readArguments invocation (options ++ "--" :: words) = .ok (base.addWords words) := by
  -- Along the reading of the options: what has not failed on them goes on to the separator.
  fun_induction readArguments invocation options with
  | case1 invocation =>
      cases h
      rfl
  | case2 invocation argument rest hshape ih =>
      rw [List.cons_append, readArguments, hshape]
      exact ih h fun hmem => hoptions (List.mem_cons_of_mem argument hmem)
  | case3 invocation argument rest hshape =>
      rw [shape_eq_separator hshape] at hoptions
      exact absurd List.mem_cons_self hoptions
  | case6 invocation argument rest hshape hfirst ih =>
      rw [List.cons_append, readArguments, hshape]
      simp only [if_neg hfirst]
      exact ih h fun hmem => hoptions (List.mem_cons_of_mem argument hmem)
  | case8 invocation argument rest hshape hfirst ih =>
      rw [List.cons_append, readArguments, hshape]
      simp only [if_neg hfirst]
      exact ih h fun hmem => hoptions (List.mem_cons_of_mem argument hmem)
  | case10 invocation argument rest setting value hshape next hset ih =>
      rw [List.cons_append, readArguments, hshape]
      simp only [hset]
      exact ih h fun hmem => hoptions (List.mem_cons_of_mem argument hmem)
  | case14 invocation argument setting hshape value rest hvalue next hset ih =>
      rw [List.cons_append, List.cons_append, readArguments, hshape]
      simp only [if_neg hvalue, hset]
      exact ih h fun hmem =>
        hoptions (List.mem_cons_of_mem argument (List.mem_cons_of_mem value hmem))
  | _ =>
      cases h

theorem Invocation.set_addWords {invocation base : Invocation} {setting : Setting}
    {value : String} (h : invocation.set setting value = .ok base) (words : List String) :
    (invocation.addWords words).set setting value = .ok (base.addWords words) := by
  unfold Invocation.set at h ⊢
  cases setting
  all_goals
    simp only [Invocation.addWords] at h ⊢
    split at h
    · cases h
    · rename_i hnew
      cases h
      exact if_neg hnew

theorem Invocation.withEnvironment_addWords {invocation base : Invocation}
    {environment : Option String} (h : invocation.withEnvironment environment = .ok base)
    (words : List String) :
    (invocation.addWords words).withEnvironment environment = .ok (base.addWords words) := by
  have hcatalog : (invocation.addWords words).catalog = invocation.catalog := rfl
  unfold Invocation.withEnvironment at h ⊢
  rw [hcatalog]
  cases hpath : invocation.catalog with
  | some path =>
      rw [hpath] at h
      cases h
      rfl
  | none =>
      rw [hpath] at h
      cases environment with
      | some value =>
          exact Invocation.set_addWords h words
      | none =>
          cases h
          rfl

theorem Invocation.read_separator {options : List String} {environment : Option String}
    {base : Invocation} (h : Invocation.read options environment = .ok base)
    (hoptions : "--" ∉ options) (words : List String) :
    Invocation.read (options ++ "--" :: words) environment = .ok (base.addWords words) := by
  unfold Invocation.read at h ⊢
  split at h
  · cases h
  · rename_i invocation hread
    rw [readArguments_separator hread hoptions words]
    exact Invocation.withEnvironment_addWords h words

end Cli
end SpokenSales
