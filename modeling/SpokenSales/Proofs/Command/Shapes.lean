import SpokenSales.Proofs.Command.Vocabulary

/-!
# At most one shape

The keywords of a text decide which shape it can have.  With `top` or `bottom` it can only be a
ranked command, otherwise with `all` only an unlimited one, and without a keyword only a month and
its year.  So no text has two shapes, and the shapes may be tried in any order.
-/

namespace SpokenSales
namespace Command

open Text

/-!
## Keywords
-/

def AsksRanking (text : List Char) : Prop :=
  "top".toList ∈ words text ∨ "bottom".toList ∈ words text

def AsksAll (text : List Char) : Prop :=
  "all".toList ∈ words text

instance (text : List Char) : Decidable (AsksRanking text) := by
  unfold AsksRanking
  infer_instance

instance (text : List Char) : Decidable (AsksAll text) := by
  unfold AsksAll
  infer_instance

theorem isSome_ranking?_iff {word : List Char} :
    (ranking? word).isSome = true ↔ word = "top".toList ∨ word = "bottom".toList := by
  unfold ranking?
  by_cases htop : word = "top".toList
  · rw [if_pos htop]
    exact ⟨fun _ => Or.inl htop, fun _ => rfl⟩
  · rw [if_neg htop]
    by_cases hbottom : word = "bottom".toList
    · rw [if_pos hbottom]
      exact ⟨fun _ => Or.inr hbottom, fun _ => rfl⟩
    · rw [if_neg hbottom]
      constructor
      · intro h
        cases h
      · rintro (h | h)
        · exact absurd h htop
        · exact absurd h hbottom

theorem any_isSome_ranking?_iff {text : List Char} :
    ((words text).any fun word => (ranking? word).isSome) = true ↔ AsksRanking text := by
  rw [List.any_eq_true]
  constructor
  · rintro ⟨word, hword, hranking⟩
    rcases isSome_ranking?_iff.mp hranking with heq | heq
    · rw [heq] at hword
      exact Or.inl hword
    · rw [heq] at hword
      exact Or.inr hword
  · rintro (htop | hbottom)
    · exact ⟨_, htop, rfl⟩
    · exact ⟨_, hbottom, rfl⟩

theorem asksRanking_of_mem_words {text word : List Char} {kind : Kind} (hword : word ∈ words text)
    (hranking : ranking? word = some kind) : AsksRanking text := by
  apply any_isSome_ranking?_iff.mp
  apply List.any_eq_true.mpr
  refine ⟨word, hword, ?_⟩
  rw [hranking]
  rfl

/-!
## Keywords of each shape
-/

theorem asksRanking_of_ranked?_eq_some {text : List Char} {query : Query}
    (h : ranked? text = some query) : AsksRanking text := by
  unfold ranked? at h
  split at h
  · cases h
  · rename_i hfirst
    rcases mem_words_of_firstWord?_eq_some hfirst with ⟨word, hword, hranking⟩
    exact asksRanking_of_mem_words hword hranking

theorem keywords_of_unlimited?_eq_some {text : List Char} {query : Query}
    (h : unlimited? text = some query) : ¬AsksRanking text ∧ AsksAll text := by
  unfold unlimited? at h
  split at h
  · cases h
  · rename_i hranking
    refine ⟨fun hasks => hranking (any_isSome_ranking?_iff.mpr hasks), ?_⟩
    split at h
    · cases h
    · rename_i hfirst
      rcases mem_words_of_firstWord?_eq_some hfirst with ⟨word, hword, hall⟩
      split at hall
      · rename_i hmeaning
        unfold isAll at hmeaning
        rw [of_decide_eq_true hmeaning] at hword
        exact hword
      · cases hall

theorem keywords_of_monthYear?_eq_some {text : List Char} {query : Query}
    (h : monthYear? text = some query) : ¬AsksRanking text ∧ ¬AsksAll text := by
  unfold monthYear? at h
  split at h
  · cases h
  · rename_i hnone
    constructor
    · intro hasks
      rcases List.any_eq_true.mp (any_isSome_ranking?_iff.mpr hasks) with ⟨word, hword, hranking⟩
      apply hnone
      apply List.any_eq_true.mpr
      refine ⟨word, hword, ?_⟩
      rw [hranking, Bool.true_or]
    · intro hasks
      apply hnone
      apply List.any_eq_true.mpr
      exact ⟨_, hasks, rfl⟩

/-- The only shape that a text can have, by its keywords. -/
def Shape.ofKeywords (text : List Char) : Shape :=
  if AsksRanking text then .ranked
  else if AsksAll text then .unlimited
  else .monthYear

theorem Shape.eq_ofKeywords {shape : Shape} {text : List Char} {query : Query}
    (h : shape.query? text = some query) : shape = ofKeywords text := by
  unfold ofKeywords
  cases shape with
  | ranked =>
      rw [if_pos (asksRanking_of_ranked?_eq_some h)]
  | unlimited =>
      rcases keywords_of_unlimited?_eq_some h with ⟨hranking, hall⟩
      rw [if_neg hranking, if_pos hall]
  | monthYear =>
      rcases keywords_of_monthYear?_eq_some h with ⟨hranking, hall⟩
      rw [if_neg hranking, if_neg hall]

theorem Shape.query?_eq_none {shape : Shape} {text : List Char} (h : shape ≠ ofKeywords text) :
    shape.query? text = none := by
  apply Option.eq_none_iff_forall_ne_some.mpr
  intro query hquery
  exact h (eq_ofKeywords hquery)

/-!
## The order of the shapes
-/

/-- The first of some shapes that a text has, and the query that it gives. -/
def recognizeIn? (order : List Shape) (normal : List Char) : Option (Shape × Query) :=
  order.findSome? fun shape => (shape.query? normal).map fun query => (shape, query)

/-- The query of a text if the shapes are tried in a certain order. -/
def parseIn (order : List Shape) (text : List Char) : Query :=
  match recognizeIn? order (normalize text) with
  | some (_, query) => query
  | none => Query.unrecognized

theorem parse_eq_parseIn (text : List Char) : parse text = parseIn shapes text := rfl

theorem recognizeIn?_eq {order : List Shape} {normal : List Char}
    (h : Shape.ofKeywords normal ∈ order) :
    recognizeIn? order normal =
      ((Shape.ofKeywords normal).query? normal).map fun query =>
        (Shape.ofKeywords normal, query) := by
  unfold recognizeIn?
  induction order with
  | nil =>
      cases h
  | cons shape order ih =>
      rw [List.findSome?_cons]
      by_cases heq : shape = Shape.ofKeywords normal
      · rw [heq]
        cases hquery : (Shape.ofKeywords normal).query? normal with
        | some query =>
            rfl
        | none =>
            -- The shape fails, and so do all shapes that are still to be tried.
            apply List.findSome?_eq_none_iff.mpr
            intro other _
            by_cases hother : other = Shape.ofKeywords normal
            · rw [hother, hquery]
              rfl
            · rw [Shape.query?_eq_none hother]
              rfl
      · have hmem : Shape.ofKeywords normal ∈ order := by
          rcases List.mem_cons.mp h with hhead | htail
          · exact absurd hhead.symm heq
          · exact htail
        rw [Shape.query?_eq_none heq]
        exact ih hmem

theorem mem_shapes (shape : Shape) : shape ∈ shapes := by
  cases shape <;> decide

theorem parseIn_eq_parse {order : List Shape} (h : order.Perm shapes) (text : List Char) :
    parseIn order text = parse text := by
  have horder := recognizeIn?_eq (h.mem_iff.mpr (mem_shapes (Shape.ofKeywords (normalize text))))
  have hshapes := recognizeIn?_eq (mem_shapes (Shape.ofKeywords (normalize text)))
  rw [parse_eq_parseIn]
  unfold parseIn
  rw [horder, hshapes]

theorem parse_of_asksRanking {text : List Char} (hasks : AsksRanking (normalize text))
    (hranked : ranked? (normalize text) = none) : parse text = Query.unrecognized := by
  have hshape : Shape.ofKeywords (normalize text) = .ranked := if_pos hasks
  have hquery : (Shape.ofKeywords (normalize text)).query? (normalize text) = none := by
    rw [hshape]
    exact hranked
  rw [parse_eq_parseIn]
  unfold parseIn
  rw [recognizeIn?_eq (mem_shapes _), hquery]
  rfl

theorem parse_of_query? {shape : Shape} {text : List Char} {query : Query}
    (h : shape.query? (normalize text) = some query) : parse text = query := by
  rw [Shape.eq_ofKeywords h] at h
  rw [parse_eq_parseIn]
  unfold parseIn
  rw [recognizeIn?_eq (mem_shapes _), h]
  rfl

theorem exists_query?_of_parse_ne {text : List Char} (h : parse text ≠ Query.unrecognized) :
    ∃ shape, Shape.query? shape (normalize text) = some (parse text) := by
  have hparse := recognizeIn?_eq (mem_shapes (Shape.ofKeywords (normalize text)))
  rw [parse_eq_parseIn] at h ⊢
  unfold parseIn at h ⊢
  rw [hparse] at h ⊢
  cases hquery : (Shape.ofKeywords (normalize text)).query? (normalize text) with
  | none =>
      rw [hquery] at h
      exact absurd rfl h
  | some query =>
      exact ⟨_, hquery⟩

/-- A text has at most one shape, so that the shapes may be tried in any order.  A text with a
ranking keyword that is no ranked command has no shape at all. -/
theorem at_most_one_shape :
    (∀ text shape query, Shape.query? shape text = some query →
      ∀ other, other ≠ shape → Shape.query? other text = none) ∧
    (∀ order, order.Perm shapes → ∀ text, parseIn order text = parse text) ∧
    ∀ text, AsksRanking (normalize text) → ranked? (normalize text) = none →
      parse text = Query.unrecognized := by
  refine ⟨?_, ?_, ?_⟩
  · intro text shape query hquery other hother
    apply Shape.query?_eq_none
    rw [← Shape.eq_ofKeywords hquery]
    exact hother
  · intro order horder text
    exact parseIn_eq_parse horder text
  · intro text hasks hranked
    exact parse_of_asksRanking hasks hranked

theorem at_most_one_shape_zero :
    Shape.ranked.query? "top 2 of all march 2024".toList =
        some (Query.top 2 (some 3) (some 2024)) ∧
      Shape.unlimited.query? "top 2 of all march 2024".toList = none ∧
      parseIn [.monthYear, .unlimited, .ranked] "Top 0 of all March 2024".toList =
        parse "Top 0 of all March 2024".toList ∧
      parse "Top 0 of all March 2024".toList = Query.unrecognized := by
  have hquery : Shape.ranked.query? "top 2 of all march 2024".toList =
      some (Query.top 2 (some 3) (some 2024)) := by
    decide +kernel
  have hasks : AsksRanking (normalize "Top 0 of all March 2024".toList) := by
    decide +kernel
  have hranked : ranked? (normalize "Top 0 of all March 2024".toList) = none := by
    decide +kernel
  exact ⟨hquery, at_most_one_shape.1 _ _ _ hquery _ (by decide),
    at_most_one_shape.2.1 _ (by decide) _, at_most_one_shape.2.2 _ hasks hranked⟩

end Command
end SpokenSales
