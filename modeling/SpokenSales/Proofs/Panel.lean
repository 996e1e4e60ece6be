import Mathlib.Data.List.Nodup
import SpokenSales.Proofs.FrontEnds
import SpokenSales.Proofs.Query.Answer

/-!
# One catalog for a panel

A panel resolves its catalog at the first call that needs one.  From then on it answers from that
catalog, whatever becomes of the file, the variable and the supply of identifiers.  What it reports
about the loading, it reports at that call.
-/

namespace SpokenSales
namespace Panel

/-!
## Runs
-/

structure Moment where
  setting : Setting
  answers : Answers
  call : Call

structure Outcome where
  reply : Reply
  events : List Log.Event
  lines : List Log.Line

def State.after (state : State) (moment : Moment) : State :=
  (call moment.setting moment.answers state moment.call).1

def State.outcome (state : State) (moment : Moment) : Outcome :=
  let (after, reply, events) := call moment.setting moment.answers state moment.call
  ⟨reply, events, written after events⟩

def State.outcomes (state : State) : List Moment → List Outcome
  | [] => []
  | moment :: later => state.outcome moment :: (state.after moment).outcomes later

def State.afterAll (state : State) (moments : List Moment) : State :=
  moments.foldl State.after state

theorem outcomes_append (state : State) (moments later : List Moment) :
    state.outcomes (moments ++ later) =
      state.outcomes moments ++ (state.afterAll moments).outcomes later := by
  induction moments generalizing state with
  | nil =>
      rfl
  | cons moment moments ih =>
      rw [List.cons_append, State.outcomes, ih]
      rfl

/-- Whether a call is answered from the catalog. -/
def Call.needsCatalog : Call → Bool
  | .voice _ | .reset => true
  | .version | .interpret _ | .openLog .. | .logStatus | .panic .. => false

/-- Whether a call is the first of a run to need the catalog. -/
structure IsFirst (moments before : List Moment) (first : Moment) (after : List Moment) :
    Prop where
  split : moments = before ++ first :: after
  unneeded : ∀ moment ∈ before, moment.call.needsCatalog = false
  needed : first.call.needsCatalog = true

theorem exists_isFirst (moments : List Moment) :
    (∀ moment ∈ moments, moment.call.needsCatalog = false) ∨
      ∃ before first after, IsFirst moments before first after := by
  induction moments with
  | nil =>
      exact Or.inl (List.forall_mem_nil _)
  | cons moment moments ih =>
      cases hneeded : moment.call.needsCatalog with
      | true =>
          exact Or.inr ⟨[], moment, moments, rfl, List.forall_mem_nil _, hneeded⟩
      | false =>
          rcases ih with hnone | ⟨before, first, after, hfirst⟩
          · exact Or.inl (List.forall_mem_cons.mpr ⟨hneeded, hnone⟩)
          · refine Or.inr ⟨moment :: before, first, after, ?_, ?_, hfirst.needed⟩
            · rw [hfirst.split]
              rfl
            · exact List.forall_mem_cons.mpr ⟨hneeded, hfirst.unneeded⟩

theorem IsFirst.mem {moments before after : List Moment} {first : Moment}
    (h : IsFirst moments before first after) : first ∈ moments := by
  rw [h.split]
  exact List.mem_append_right before List.mem_cons_self

theorem IsFirst.not_after {moments before after before' after' : List Moment}
    {first first' : Moment} (h : IsFirst moments before first after)
    (h' : IsFirst moments before' first' after') {front : List Moment}
    (hbefore : before' = before ++ front) : front = [] := by
  cases front with
  | nil =>
      rfl
  | cons moment front =>
      -- The call that needs the catalog would be among those that do not.
      have hsplit := h.split.symm.trans h'.split
      rw [hbefore, List.append_assoc] at hsplit
      have hmoment := (List.cons.inj (List.append_cancel_left hsplit)).1
      have hneeded := h.needed
      rw [hmoment, h'.unneeded moment] at hneeded
      · cases hneeded
      · rw [hbefore]
        exact List.mem_append_right before List.mem_cons_self

theorem IsFirst.eq {moments before after before' after' : List Moment} {first first' : Moment}
    (h : IsFirst moments before first after) (h' : IsFirst moments before' first' after') :
    before' = before ∧ first' = first ∧ after' = after := by
  have hsplit := h.split.symm.trans h'.split
  have hbefore : before' = before := by
    rcases List.append_eq_append_iff.mp hsplit with ⟨front, hfront, -⟩ | ⟨front, hfront, -⟩
    · rw [hfront, h.not_after h' hfront, List.append_nil]
    · rw [hfront, h'.not_after h hfront, List.append_nil]
  rw [hbefore] at hsplit
  have hrest := List.cons.inj (List.append_cancel_left hsplit)
  exact ⟨hbefore, hrest.1.symm, hrest.2.symm⟩

/-!
## Resolving
-/

/-- Which catalog is found as things are at a call, and what is reported: the one of the file at
the trimmed value of the variable, if it is set and not blank and the file loads, and otherwise the
sample. -/
inductive Moment.Resolves (moment : Moment) : List Product → List Log.Event → Prop
  | unnamed
      (h : ∀ raw ∈ moment.setting.catalogVariable, Text.isBlankText raw.toList = true) :
      Resolves moment (Catalog.sample moment.setting.fresh) []
  | loaded {raw : String} {catalog : List Product}
      (hraw : moment.setting.catalogVariable = some raw)
      (hnamed : Text.isBlankText raw.toList = false)
      (h : Catalog.ofFile moment.setting.fresh (String.ofList (Text.trim raw.toList))
        moment.answers.catalogFile = .ok catalog) :
      Resolves moment catalog [.catalogLoaded catalog.length]
  | failed {raw : String} {error : CatalogError}
      (hraw : moment.setting.catalogVariable = some raw)
      (hnamed : Text.isBlankText raw.toList = false)
      (h : Catalog.ofFile moment.setting.fresh (String.ofList (Text.trim raw.toList))
        moment.answers.catalogFile = .error error) :
      Resolves moment (Catalog.sample moment.setting.fresh) [.sampleUsed error]

theorem catalogPath?_of_named {setting : Setting} {raw : String}
    (hraw : setting.catalogVariable = some raw) (hnamed : Text.isBlankText raw.toList = false) :
    setting.catalogPath? = some (String.ofList (Text.trim raw.toList)) := by
  have hne : (String.ofList (Text.trim raw.toList)).isEmpty ≠ true := by
    intro hempty
    have hnil := String.ofList_eq_empty_iff.mp (String.isEmpty_iff.mp hempty)
    rw [Text.trim_eq_nil_iff.mp hnil] at hnamed
    cases hnamed
  unfold Setting.catalogPath?
  simp only [hraw]
  exact if_neg hne

theorem catalogPath?_of_unnamed {setting : Setting}
    (h : ∀ raw ∈ setting.catalogVariable, Text.isBlankText raw.toList = true) :
    setting.catalogPath? = none := by
  unfold Setting.catalogPath?
  cases hraw : setting.catalogVariable with
  | none =>
      rfl
  | some raw =>
      have hempty := String.ofList_eq_empty_iff.mpr (Text.trim_eq_nil_iff.mpr (h raw hraw))
      exact if_pos (String.isEmpty_iff.mpr hempty)

theorem resolves_resolve (moment : Moment) :
    moment.Resolves (resolve moment.setting moment.answers).1
      (resolve moment.setting moment.answers).2 := by
  by_cases hunnamed :
      ∀ raw ∈ moment.setting.catalogVariable, Text.isBlankText raw.toList = true
  · unfold resolve
    rw [catalogPath?_of_unnamed hunnamed]
    exact .unnamed hunnamed
  · push Not at hunnamed
    rcases hunnamed with ⟨raw, hraw, hblank⟩
    have hnamed := Bool.eq_false_iff.mpr hblank
    unfold resolve
    simp only [catalogPath?_of_named hraw hnamed]
    split
    · rename_i hfile
      exact .loaded hraw hnamed hfile
    · rename_i hfile
      exact .failed hraw hnamed hfile

/-!
## Reports of the loading
-/

def isLoad : Log.Event → Bool
  | .catalogLoaded _ | .sampleUsed _ => true
  | _ => false

def isLoadLine (line : Log.Line) : Bool :=
  "event=catalog_load ".toList.isPrefixOf line.message.toList

theorem isPrefixOf_append {mark front back : String}
    (h : mark.toList.length ≤ front.toList.length) :
    mark.toList.isPrefixOf (front ++ back).toList = mark.toList.isPrefixOf front.toList := by
  rw [String.toList_append, Bool.eq_iff_iff, List.isPrefixOf_iff_prefix, List.isPrefixOf_iff_prefix]
  constructor
  · intro hprefix
    exact List.prefix_of_prefix_length_le hprefix (List.prefix_append _ _) h
  · intro hprefix
    exact hprefix.trans (List.prefix_append _ _)

theorem isLoadLine_line (event : Log.Event) : isLoadLine event.line = isLoad event := by
  unfold isLoadLine Log.Event.line Log.Event.message
  cases event with
  | understood | notUnderstood | finished | opened | panicked =>
      change _ = false
      exact (isPrefixOf_append (by decide)).trans (by decide)
  | answered =>
      change _ = false
      simp only [String.append_assoc]
      exact (isPrefixOf_append (by decide)).trans (by decide)
  | catalogLoaded | sampleUsed =>
      change _ = true
      exact (isPrefixOf_append (by decide)).trans (by decide)
  | listening | updateIgnored | recognizerFailed =>
      decide

def Outcome.loads (outcome : Outcome) : List Log.Event :=
  outcome.events.filter isLoad

theorem countP_written_le (state : State) (events : List Log.Event) :
    (written state events).countP isLoadLine ≤ (events.filter isLoad).length := by
  unfold written
  split
  · exact Nat.zero_le _
  · unfold Log.keep
    rename_i active _
    calc ((events.map Log.Event.line).filter fun line => line.level.passes active.level).countP
          isLoadLine
        ≤ (events.map Log.Event.line).countP isLoadLine := List.filter_sublist.countP_le
      _ = events.countP isLoad := by
          rw [List.countP_map]
          exact List.countP_congr fun event _ => by rw [Function.comp_apply, isLoadLine_line]
      _ = (events.filter isLoad).length := List.countP_eq_length_filter

theorem countP_lines_le (state : State) (moments : List Moment) :
    ((state.outcomes moments).flatMap Outcome.lines).countP isLoadLine ≤
      ((state.outcomes moments).map Outcome.loads).flatten.length := by
  induction moments generalizing state with
  | nil =>
      exact Nat.le_refl 0
  | cons moment moments ih =>
      rw [State.outcomes, List.flatMap_cons, List.map_cons, List.flatten_cons, List.countP_append,
        List.length_append]
      exact Nat.add_le_add (countP_written_le _ _) (ih _)

/-!
## One call
-/

/-- Whether a view lists some products, with neither kind nor warning. -/
structure View.Lists (view : View) (listed : List Product) : Prop where
  items : List.Forall₂ Item.Shows view.items listed
  kind : Kind.ofLabel? view.kind.toList = some .unrecognized
  showWarning : view.showWarning = false
  empty : listed = [] → view.message = "No products."
  found : listed ≠ [] → view.message = s!"Found {listed.length} product(s)."

def View.ids (view : View) : List String :=
  view.items.map Item.id

/-- Whether a call gets its answer from a catalog, if it needs one.  Everything that the answer to
a command shows is also in the listing `whole`, which is the answer to a reset. -/
structure AnsweredFrom (catalog : List Product) (whole : View) (moment : Moment)
    (outcome : Outcome) : Prop where
  voice : ∀ text, moment.call = .voice text → ∃ view, outcome.reply = .view view ∧
    view.Shows (Assistant.respond catalog text) ∧ view.ids.Nodup ∧ view.ids ⊆ whole.ids
  reset : moment.call = .reset → outcome.reply = .view whole

theorem lists_listing (catalog : List Product) :
    (listing catalog).Lists (mostRecentFirst catalog) where
  items := forall₂_items (mostRecentFirst catalog)
  kind := Query.ofLabel?_label _
  showWarning := rfl
  empty := by
    intro hempty
    exact if_pos (List.length_eq_zero_iff.mpr hempty)
  found := by
    intro hfound
    exact if_neg fun hlength => hfound (List.length_eq_zero_iff.mp hlength)

def shownIds (products : List Product) : List String :=
  products.map fun product => String.ofList product.id.write

theorem exists_lists_listing (catalog : List Product) :
    ∃ listed, Query.IsRanking .all catalog listed ∧ (listing catalog).Lists listed :=
  ⟨_, isRanking_mostRecentFirst catalog, lists_listing catalog⟩

theorem ids_view (response : Response) : (view response).ids = shownIds response.products :=
  List.map_map

theorem ids_listing (catalog : List Product) :
    (listing catalog).ids = shownIds (mostRecentFirst catalog) :=
  List.map_map

theorem nodup_shownIds {products : List Product} (h : (products.map Product.id).Nodup) :
    (shownIds products).Nodup := by
  have hshown : shownIds products =
      (products.map Product.id).map fun id => String.ofList id.write := by
    rw [List.map_map]
    rfl
  rw [hshown]
  apply h.map
  intro id other hsame
  exact Uuid.write_injective (String.ofList_injective hsame)

theorem nodup_ids_listing {catalog : List Product} (h : (catalog.map Product.id).Nodup) :
    (listing catalog).ids.Nodup := by
  rw [ids_listing]
  apply nodup_shownIds
  exact ((mostRecentFirst_perm catalog).map Product.id).nodup_iff.mpr h

theorem nodup_ids_view {catalog : List Product} (h : (catalog.map Product.id).Nodup)
    (text : String) : (view (Assistant.respond catalog text)).ids.Nodup := by
  rcases (Command.parse text.toList).exists_answer_append_perm catalog with ⟨left, hperm⟩
  rw [ids_view]
  apply nodup_shownIds
  have hsub : ((Command.parse text.toList).found catalog).Sublist catalog := List.filter_sublist
  have hall := (hperm.map Product.id).nodup_iff.mpr (h.sublist (hsub.map Product.id))
  rw [List.map_append] at hall
  exact hall.sublist (List.sublist_append_left _ _)

theorem ids_view_subset (catalog : List Product) (text : String) :
    (view (Assistant.respond catalog text)).ids ⊆ (listing catalog).ids := by
  rw [ids_view, ids_listing]
  apply List.map_subset
  intro product hproduct
  rcases (Command.parse text.toList).exists_answer_append_perm catalog with ⟨left, hperm⟩
  have hfound := hperm.subset (List.mem_append_left left hproduct)
  exact (mostRecentFirst_perm catalog).mem_iff.mpr (List.filter_sublist.subset hfound)

section Step

variable {state : State} {moment : Moment} {catalog : List Product}

theorem obtain_of_some (h : state.catalog = some catalog) (setting : Setting)
    (answers : Answers) : state.obtain setting answers = (catalog, []) := by
  unfold State.obtain
  rw [h]

theorem obtain_of_none (h : state.catalog = none) (setting : Setting) (answers : Answers) :
    state.obtain setting answers = resolve setting answers := by
  unfold State.obtain
  rw [h]

theorem catalog_after_of_unneeded (h : moment.call.needsCatalog = false) :
    (state.after moment).catalog = state.catalog := by
  unfold State.after
  cases hcall : moment.call with
  | voice | reset =>
      rw [hcall] at h
      cases h
  | version | interpret | openLog | logStatus | panic =>
      rfl

theorem catalog_after_of_needed (state : State) (h : moment.call.needsCatalog = true) :
    (state.after moment).catalog = some (state.obtain moment.setting moment.answers).1 := by
  unfold State.after
  cases hcall : moment.call with
  | voice | reset =>
      rfl
  | version | interpret | openLog | logStatus | panic =>
      rw [hcall] at h
      cases h

theorem catalog_after_of_some (h : state.catalog = some catalog) :
    (state.after moment).catalog = some catalog := by
  cases hneeded : moment.call.needsCatalog with
  | true =>
      rw [catalog_after_of_needed state hneeded, obtain_of_some h]
  | false =>
      rw [catalog_after_of_unneeded hneeded, h]

theorem answeredFrom_outcome (state : State) (moment : Moment)
    (hcatalog : (state.obtain moment.setting moment.answers).1 = catalog)
    (hdistinct : (catalog.map Product.id).Nodup) :
    AnsweredFrom catalog (listing catalog) moment (state.outcome moment) := by
  constructor
  · intro text hcall
    refine ⟨view (Assistant.respond catalog text), ?_, view_shows catalog text,
      nodup_ids_view hdistinct text, ids_view_subset catalog text⟩
    unfold State.outcome
    rw [hcall]
    exact @call_voice _ _ _ _ hcatalog text text [] [] rfl rfl (List.append_nil _).symm
  · intro hcall
    unfold State.outcome
    rw [hcall, ← hcatalog]
    rfl

theorem answeredFrom_of_unneeded {whole : View} {outcome : Outcome}
    (h : moment.call.needsCatalog = false) : AnsweredFrom catalog whole moment outcome := by
  constructor
  · intro text hcall
    rw [hcall] at h
    cases h
  · intro hcall
    rw [hcall] at h
    cases h

theorem filter_isLoad_obtain (state : State) (setting : Setting) (answers : Answers) :
    (state.obtain setting answers).2.filter isLoad = (state.obtain setting answers).2 := by
  unfold State.obtain resolve
  cases state.catalog with
  | some catalog =>
      rfl
  | none =>
      simp only
      split
      · rfl
      · split <;> rfl

theorem isLoad_understanding (text : String) : isLoad (Assistant.understanding text) = false := by
  unfold Assistant.understanding
  simp only
  split <;> rfl

theorem filter_isLoad_events (catalog : List Product) (text : String) :
    (Assistant.events catalog text).filter isLoad = [] := by
  have hanswering : isLoad (Assistant.answering (Assistant.respond catalog text)) = false := rfl
  unfold Assistant.events
  rw [List.filter_cons_of_neg (Bool.eq_false_iff.mp (isLoad_understanding text)),
    List.filter_cons_of_neg (Bool.eq_false_iff.mp hanswering), List.filter_nil]

theorem loads_outcome_of_needed (state : State) (h : moment.call.needsCatalog = true) :
    (state.outcome moment).loads = (state.obtain moment.setting moment.answers).2 := by
  unfold State.outcome Outcome.loads
  cases hcall : moment.call with
  | voice text =>
      change List.filter isLoad
        ((state.obtain moment.setting moment.answers).2 ++ Assistant.events _ _) = _
      rw [List.filter_append, filter_isLoad_obtain, filter_isLoad_events, List.append_nil]
  | reset =>
      exact filter_isLoad_obtain state moment.setting moment.answers
  | version | interpret | openLog | logStatus | panic =>
      rw [hcall] at h
      cases h

theorem loads_outcome_of_unneeded (h : moment.call.needsCatalog = false) :
    (state.outcome moment).loads = [] := by
  unfold State.outcome Outcome.loads
  cases hcall : moment.call with
  | voice | reset =>
      rw [hcall] at h
      cases h
  | version | logStatus | panic =>
      rfl
  | interpret text =>
      exact List.filter_cons_of_neg (Bool.eq_false_iff.mp (isLoad_understanding text))
  | openLog level directory =>
      unfold call
      simp only
      split <;> rfl

theorem loads_outcome_of_some (h : state.catalog = some catalog) :
    (state.outcome moment).loads = [] := by
  cases hneeded : moment.call.needsCatalog with
  | true =>
      rw [loads_outcome_of_needed state hneeded, obtain_of_some h]
  | false =>
      exact loads_outcome_of_unneeded hneeded

/-- Whether two calls are the same and would start the log with the same success.  Nothing else
around them has to be the same. -/
structure Alike (moment other : Moment) : Prop where
  call : moment.call = other.call
  start : moment.answers.start = other.answers.start

theorem call_of_alike (h : state.catalog = some catalog) {other : Moment}
    (halike : Alike moment other) :
    call moment.setting moment.answers state moment.call =
      call other.setting other.answers state other.call := by
  rw [halike.call]
  unfold call
  simp only [obtain_of_some h, halike.start]

end Step

/-!
## Many calls
-/

section Run

variable {state : State} {catalog : List Product}

theorem outcomes_of_some (h : state.catalog = some catalog)
    (hdistinct : (catalog.map Product.id).Nodup) (moments : List Moment) :
    List.Forall₂ (AnsweredFrom catalog (listing catalog)) moments (state.outcomes moments) ∧
      (state.outcomes moments).map Outcome.loads = List.replicate moments.length [] := by
  induction moments generalizing state with
  | nil =>
      exact ⟨.nil, rfl⟩
  | cons moment moments ih =>
      rcases ih (catalog_after_of_some h) with ⟨hanswered, hloads⟩
      have hobtain := congrArg Prod.fst (obtain_of_some h moment.setting moment.answers)
      refine ⟨.cons (answeredFrom_outcome state moment hobtain hdistinct) hanswered, ?_⟩
      rw [State.outcomes, List.map_cons, hloads, List.length_cons, List.replicate_succ,
        loads_outcome_of_some h]

theorem outcomes_of_alike (h : state.catalog = some catalog) {moments others : List Moment}
    (halike : List.Forall₂ Alike moments others) :
    state.outcomes moments = state.outcomes others := by
  induction halike generalizing state with
  | nil =>
      rfl
  | @cons moment other moments others hfirst hrest ih =>
      have hcall := call_of_alike h hfirst
      have houtcome : state.outcome moment = state.outcome other := by
        unfold State.outcome
        rw [hcall]
      have hafter : state.after moment = state.after other := by
        unfold State.after
        rw [hcall]
      rw [State.outcomes, State.outcomes, houtcome, ih (catalog_after_of_some h), hafter]

theorem outcomes_of_unneeded (state : State) {moments : List Moment}
    (h : ∀ moment ∈ moments, moment.call.needsCatalog = false) (catalog : List Product)
    (whole : View) :
    List.Forall₂ (AnsweredFrom catalog whole) moments (state.outcomes moments) ∧
      (state.outcomes moments).map Outcome.loads = List.replicate moments.length [] ∧
        (state.afterAll moments).catalog = state.catalog := by
  induction moments generalizing state with
  | nil =>
      exact ⟨.nil, rfl, rfl⟩
  | cons moment moments ih =>
      rcases List.forall_mem_cons.mp h with ⟨hmoment, hmoments⟩
      rcases ih (state.after moment) hmoments with ⟨hanswered, hloads, hcatalog⟩
      refine ⟨.cons (answeredFrom_of_unneeded hmoment) hanswered, ?_, ?_⟩
      · rw [State.outcomes, List.map_cons, hloads, List.length_cons, List.replicate_succ,
          loads_outcome_of_unneeded hmoment]
      · exact hcatalog.trans (catalog_after_of_unneeded hmoment)

theorem outcomes_of_isFirst {moments before after : List Moment} {first : Moment}
    (hfirst : IsFirst moments before first after) (hnone : state.catalog = none)
    (hdistinct : ((resolve first.setting first.answers).1.map Product.id).Nodup) :
    let resolved := resolve first.setting first.answers
    List.Forall₂ (AnsweredFrom resolved.1 (listing resolved.1)) moments (state.outcomes moments) ∧
      (state.outcomes moments).map Outcome.loads =
        List.replicate before.length [] ++ resolved.2 :: List.replicate after.length [] ∧
      ∀ others, List.Forall₂ Alike after others →
        state.outcomes (before ++ first :: others) = state.outcomes moments := by
  intro resolved
  rcases outcomes_of_unneeded state hfirst.unneeded resolved.1 (listing resolved.1) with
    ⟨hbefore, hsilent, hcatalog⟩
  rw [hnone] at hcatalog
  have hobtain := obtain_of_none hcatalog first.setting first.answers
  have hcell := catalog_after_of_needed (state.afterAll before) hfirst.needed
  rw [hobtain] at hcell
  rcases outcomes_of_some hcell hdistinct after with ⟨hafter, hquiet⟩
  have hanswered := answeredFrom_outcome (state.afterAll before) first (congrArg Prod.fst hobtain)
    hdistinct
  have hreported := loads_outcome_of_needed (state.afterAll before) hfirst.needed
  rw [hobtain] at hreported
  rw [hfirst.split, outcomes_append, State.outcomes]
  refine ⟨List.rel_append hbefore (.cons hanswered hafter), ?_, ?_⟩
  · rw [List.map_append, List.map_cons, hsilent, hreported, hquiet]
  · intro others halike
    rw [outcomes_append, State.outcomes, outcomes_of_alike hcell halike]

end Run

/-!
## Identifiers of the sample
-/

/-- Whether a setting supplies different identifiers for the records of the sample. -/
def Setting.SuppliesSample (setting : Setting) : Prop :=
  ((List.range Catalog.sampleRows.length).map setting.fresh).Nodup

instance (setting : Setting) : Decidable setting.SuppliesSample :=
  inferInstanceAs (Decidable (List.Nodup _))

theorem Moment.Resolves.nodup_ids {moment : Moment} {catalog : List Product}
    {reports : List Log.Event} (h : moment.Resolves catalog reports)
    (hsupply : moment.setting.SuppliesSample) : (catalog.map Product.id).Nodup := by
  have hsample : ((Catalog.sample moment.setting.fresh).map Product.id).Nodup := hsupply
  cases h with
  | unnamed =>
      exact hsample
  | loaded _ _ hfile =>
      exact (Catalog.Accepted.ofFile hfile).isCatalog.distinct
  | failed =>
      exact hsample

/-!
## One catalog
-/

/-- Whether all calls of a run are answered from one catalog, of which `whole` is the listing.  It is
the one that is found at the first call that needs it.  How the loading went is reported there and
nowhere else, and whatever changes afterwards is without effect. -/
structure OneCatalog (moments : List Moment) (catalog : List Product) (whole : View) : Prop where
  listed : ∃ listed, Query.IsRanking .all catalog listed ∧ whole.Lists listed
  distinct : whole.ids.Nodup
  answered : List.Forall₂ (AnsweredFrom catalog whole) moments (State.initial.outcomes moments)
  resolved : ∀ before first after, IsFirst moments before first after →
    ∃ reports, first.Resolves catalog reports ∧
      (State.initial.outcomes moments).map Outcome.loads =
        List.replicate before.length [] ++ reports :: List.replicate after.length []
  kept : ∀ before first after others, IsFirst moments before first after →
    List.Forall₂ Alike after others →
      State.initial.outcomes (before ++ first :: others) = State.initial.outcomes moments
  silent : (∀ moment ∈ moments, moment.call.needsCatalog = false) →
    ((State.initial.outcomes moments).map Outcome.loads).flatten = []
  reportedOnce :
    ((State.initial.outcomes moments).flatMap Outcome.lines).countP isLoadLine ≤ 1

theorem Moment.Resolves.length_reports_le {moment : Moment} {catalog : List Product}
    {reports : List Log.Event} (h : moment.Resolves catalog reports) : reports.length ≤ 1 := by
  cases h with
  | unnamed =>
      exact Nat.zero_le 1
  | loaded =>
      exact Nat.le_refl 1
  | failed =>
      exact Nat.le_refl 1

theorem exists_oneCatalog_of_isFirst {moments before after : List Moment} {first : Moment}
    (hfirst : IsFirst moments before first after) (hsupply : first.setting.SuppliesSample) :
    ∃ catalog, OneCatalog moments catalog (listing catalog) := by
  have hresolves := resolves_resolve first
  have hdistinct := hresolves.nodup_ids hsupply
  rcases outcomes_of_isFirst hfirst (rfl : State.initial.catalog = none) hdistinct with
    ⟨hanswered, hloads, hkept⟩
  refine ⟨_, exists_lists_listing _, nodup_ids_listing hdistinct, hanswered, ?_, ?_, ?_, ?_⟩
  · intro before' first' after' hfirst'
    rcases hfirst.eq hfirst' with ⟨rfl, rfl, rfl⟩
    exact ⟨_, hresolves, hloads⟩
  · intro before' first' after' others hfirst' halike
    rcases hfirst.eq hfirst' with ⟨rfl, rfl, rfl⟩
    exact hkept others halike
  · intro hunneeded
    have hneeded := hfirst.needed
    rw [hunneeded first hfirst.mem] at hneeded
    cases hneeded
  · have hlength : ((State.initial.outcomes moments).map Outcome.loads).flatten.length ≤ 1 := by
      rw [hloads, List.flatten_append, List.flatten_cons, List.flatten_replicate_nil,
        List.flatten_replicate_nil, List.nil_append, List.append_nil]
      exact hresolves.length_reports_le
    exact (countP_lines_le State.initial moments).trans hlength

theorem oneCatalog_of_unneeded {moments : List Moment}
    (h : ∀ moment ∈ moments, moment.call.needsCatalog = false) :
    OneCatalog moments [] (listing []) := by
  rcases outcomes_of_unneeded State.initial h [] (listing []) with ⟨hanswered, hloads, -⟩
  have hnever (before first after) : ¬IsFirst moments before first after := by
    intro hfirst
    have hneeded := hfirst.needed
    rw [h first hfirst.mem] at hneeded
    cases hneeded
  have hsilent : ((State.initial.outcomes moments).map Outcome.loads).flatten = [] := by
    rw [hloads, List.flatten_replicate_nil]
  refine ⟨exists_lists_listing [], nodup_ids_listing List.nodup_nil, hanswered, ?_, ?_,
    fun _ => hsilent, ?_⟩
  · intro before first after hfirst
    exact absurd hfirst (hnever before first after)
  · intro before first after others hfirst
    exact absurd hfirst (hnever before first after)
  · have hle := countP_lines_le State.initial moments
    rw [hsilent] at hle
    exact hle.trans (Nat.zero_le 1)

/-- Whatever calls are made, and however the surroundings change between them, one catalog answers
them all. -/
theorem outcomes_one_catalog (moments : List Moment)
    (h : ∀ moment ∈ moments, moment.setting.SuppliesSample) :
    ∃ catalog whole, OneCatalog moments catalog whole := by
  rcases exists_isFirst moments with hunneeded | ⟨before, first, after, hfirst⟩
  · exact ⟨[], _, oneCatalog_of_unneeded hunneeded⟩
  · rcases exists_oneCatalog_of_isFirst hfirst (h first hfirst.mem) with ⟨catalog, hcatalog⟩
    exact ⟨catalog, _, hcatalog⟩

/-- A log is opened, a command comes while the catalog file is missing, and the file appears before
the listing is asked for. -/
def lateFile : List Moment :=
  let setting : BitVec 122 → Setting := fun seed => ⟨some " /data/sales.json ", Uuid.supply seed⟩
  [⟨setting 0, ⟨.error .notFound, .started⟩, .openLog "info" "/data/log"⟩,
   ⟨setting 100, ⟨.error .notFound, .started⟩, .voice "top 1 in march"⟩,
   ⟨setting 200, ⟨.ok [91, 93], .started⟩, .reset⟩]

theorem answer_bestOfMarch :
    (Query.top 1 (some 3) none).answer (Catalog.sample (Uuid.supply 100)) =
      [⟨Uuid.supply 100 7, "Monitor", 230, ⟨2025, 3, 25, by decide⟩⟩] := by
  have hranking : Query.IsRanking .top
      ((Query.top 1 (some 3) none).found (Catalog.sample (Uuid.supply 100)))
      [⟨Uuid.supply 100 7, "Monitor", 230, ⟨2025, 3, 25, by decide⟩⟩,
       ⟨Uuid.supply 100 3, "Monitor", 200, ⟨2024, 3, 18, by decide⟩⟩,
       ⟨Uuid.supply 100 2, "Desk Chair", 80, ⟨2024, 3, 5, by decide⟩⟩] :=
    Query.isRanking_of_pairwise_outranks (by decide +kernel) (by decide +kernel)
  rw [Query.answer_eq_kept]
  exact congrArg (Query.kept _) ((Query.isRanking_mergeSort .top _).eq hranking)

theorem view_bestOfMarch :
    view (Assistant.respond (Catalog.sample (Uuid.supply 100)) "top 1 in march") =
      ⟨[⟨"00000000-0000-4000-8000-00000000006b", "Monitor", 230, "2025-03-25"⟩], "top",
        "Found 1 product(s).", false⟩ := by
  have hparse : Command.parse "top 1 in march".toList = .top 1 (some 3) none := by
    decide +kernel
  unfold Assistant.respond
  rw [hparse]
  simp only [answer_bestOfMarch]
  decide +kernel

theorem length_items_sample : (listing (Catalog.sample (Uuid.supply 100))).items.length = 9 := by
  show ((mostRecentFirst _).map item).length = 9
  rw [List.length_map, (mostRecentFirst_perm _).length_eq]
  rfl

theorem outcomes_one_catalog_lateFile :
    let monitor : Item := ⟨"00000000-0000-4000-8000-00000000006b", "Monitor", 230, "2025-03-25"⟩
    (∀ moment ∈ lateFile, moment.setting.SuppliesSample) ∧
      (∃ catalog whole, OneCatalog lateFile catalog whole ∧ whole.items.length = 9 ∧
        (State.initial.outcomes lateFile).map Outcome.reply =
          [.text "", .view ⟨[monitor], "top", "Found 1 product(s).", false⟩, .view whole]) ∧
      (State.initial.outcomes lateFile).map Outcome.loads =
        [[], [.sampleUsed (.unreadable "/data/sales.json" .notFound)], []] := by
  intro monitor
  have hsupply : ∀ moment ∈ lateFile, moment.setting.SuppliesSample := by
    decide +kernel
  have hreplies : (State.initial.outcomes lateFile).map Outcome.reply =
      [.text "",
        .view (view (Assistant.respond (Catalog.sample (Uuid.supply 100)) "top 1 in march")),
        .view (listing (Catalog.sample (Uuid.supply 100)))] :=
    rfl
  rcases outcomes_one_catalog lateFile hsupply with ⟨catalog, whole, hone⟩
  have hwhole : whole = listing (Catalog.sample (Uuid.supply 100)) := by
    have hanswered := hone.answered
    generalize State.initial.outcomes lateFile = outcomes at hanswered hreplies
    rcases hanswered with _ | ⟨-, _ | ⟨-, _ | ⟨hlast, ⟨⟩⟩⟩⟩
    have hreset := hlast.reset rfl
    simp only [List.map_cons, List.map_nil, List.cons.injEq, hreset] at hreplies
    exact Reply.view.inj hreplies.2.2.1
  refine ⟨hsupply, ⟨catalog, whole, hone, ?_, ?_⟩, by decide +kernel⟩
  · rw [hwhole, length_items_sample]
  · rw [hwhole, hreplies, view_bestOfMarch]

end Panel
end SpokenSales
