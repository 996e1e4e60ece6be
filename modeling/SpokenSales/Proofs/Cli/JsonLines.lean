import Mathlib.Data.List.Forall2
import SpokenSales.Proofs.Cli.Input
import SpokenSales.Proofs.Cli.Printed
import SpokenSales.Proofs.Cli.Reset

/-!
# One line of JSON for each command

In JSON every command is answered with one line, whatever the names of the products are.  The line
tells a program that reads it all that the response says.
-/

namespace SpokenSales

theorem Catalog.IsCatalog.answer {catalog : List Product} (h : IsCatalog catalog) (query : Query) :
    IsCatalog (query.answer catalog) := by
  rcases query.exists_answer_append_perm catalog with ⟨left, hperm⟩
  have hfound : IsCatalog (query.found catalog) := h.sublist List.filter_sublist
  exact (hfound.perm hperm.symm).sublist (List.sublist_append_left _ left)

theorem Assistant.warning_respond (catalog : List Product) (text : String) :
    (respond catalog text).warning =
      if (respond catalog text).query.kind = .unrecognized then some .unrecognized else none := by
  unfold respond Query.isRecognized
  simp only
  split
  · rename_i hrecognized
    exact (if_neg (bne_iff_ne.mp hrecognized)).symm
  · rename_i hunrecognized
    rw [bne_iff_ne, not_not] at hunrecognized
    exact (if_pos hunrecognized).symm

namespace Cli

/-- Whether a text is an object that carries a response: the query, the products as a text of a
catalog, and a warning that is null if the command was recognized. -/
def Carries (text : List Char) (response : Response) : Prop :=
  ∃ products query warning,
    Json.entriesOf text =
        .ok [("products", products), ("query", query), ("warning", warning)] ∧
      Query.ofJson query = .ok response.query ∧
      (∀ fresh, Catalog.ofJson fresh products = .ok response.products) ∧
      (warning = "null".toList ↔ response.query.kind ≠ .unrecognized)

theorem carries_jsonResponse {catalog : List Product} (h : Catalog.IsCatalog catalog)
    (text : String) :
    Carries (jsonResponse (Assistant.respond catalog text)) (Assistant.respond catalog text) := by
  refine ⟨_, _, _, entriesOf_jsonResponse _, ofJson_sortedQuery _, ?_, ?_⟩
  · intro fresh
    exact ofJson_sortedProducts fresh (h.answer _)
  · refine warningText_eq_null_iff.trans ?_
    rw [Assistant.warning_respond, ite_eq_right_iff]
    exact imp_congr_right fun _ => iff_of_false (Option.some_ne_none _) id

theorem printResponse_json (response : Response) :
    printResponse true response = jsonResponse response ++ ['\n'] := by
  unfold printResponse unlines
  rw [if_pos rfl, List.flatMap_cons, List.flatMap_nil, List.append_nil]

theorem flatMap_printResponse_json (catalog : List Product) (texts : List String) :
    (texts.flatMap fun text => printResponse true (Assistant.respond catalog text)) =
      unlines (texts.map fun text => jsonResponse (Assistant.respond catalog text)) := by
  unfold unlines
  simp only [List.flatMap_map, printResponse_json]

/-- A command is answered with one line that carries the response.  A run on an input prints as
many lines as there are commands among the lines that it reads, and each of them carries the
response to the command at the same place. -/
theorem json_line_for_each_command {catalog : List Product} (h : Catalog.Accepted catalog) :
    (∀ text, ∃ line, printResponse true (Assistant.respond catalog text) = line ++ ['\n'] ∧
        '\n' ∉ line ∧ Carries line (Assistant.respond catalog text)) ∧
      ∀ fresh invocation answers, TakesInput fresh invocation answers catalog →
        invocation.json = true → ∀ texts unread, Text.ReadsAs answers.input texts unread →
          ∃ lines : List (List Char), (run fresh invocation answers).output = unlines lines ∧
            Text.Consists (Text.encode (run fresh invocation answers).output)
                (lines.map Text.encode) ∧
              List.Forall₂ (fun line text => Carries line (Assistant.respond catalog text)) lines
                (spoken texts) := by
  have hcatalog := h.isCatalog
  constructor
  · intro text
    refine ⟨_, printResponse_json _, ?_, carries_jsonResponse hcatalog text⟩
    exact (onOneLine_jsonResponse _).not_mem_feed
  · intro fresh invocation answers htakes hjson texts unread hreads
    rcases htakes.exists_run_eq with ⟨log, events, hrun⟩
    have houtput : (run fresh invocation answers).output =
        unlines ((spoken texts).map fun text => jsonResponse (Assistant.respond catalog text)) := by
      have hreport := hrun answers.input texts unread hreads
      rw [hjson] at hreport
      rw [← flatMap_printResponse_json]
      exact congrArg Report.output hreport
    have hlines : ∀ line ∈ (spoken texts).map fun text =>
        jsonResponse (Assistant.respond catalog text), Json.OnOneLine line := by
      intro line hline
      rcases List.mem_map.mp hline with ⟨text, -, rfl⟩
      exact onOneLine_jsonResponse _
    refine ⟨_, houtput, ?_, ?_⟩
    · rw [houtput]
      apply consists_unlines
      · intro line hline
        exact (hlines line hline).not_mem_feed
      · intro line hline hlast
        exact (hlines line hline).not_mem_return (List.mem_of_getLast? hlast)
    · rw [List.forall₂_map_left_iff, List.forall₂_same]
      intro text _
      exact carries_jsonResponse hcatalog text

/-- A name with quotes, a backslash, a control character and a line feed does not break the line,
and a blank line of the input has no line in the output. -/
theorem json_line_for_each_command_distantSales :
    let fresh := Uuid.supply 0
    let invocation : Invocation := ⟨[], some "sales.json", false, true, none, none⟩
    let input := Text.encode "bottom 2".toList ++ 10 :: (Text.encode " ".toList ++
      10 :: Text.encode "play".toList)
    let answers : Answers := ⟨.started, .ok (savedJson distantSales), input⟩
    Catalog.Accepted distantSales ∧ TakesInput fresh invocation answers distantSales ∧
      Text.ReadsAs input ["bottom 2", " ", "play"] [] ∧
      ∃ first second : List Char,
        Text.Consists (Text.encode (run fresh invocation answers).output)
            [Text.encode first, Text.encode second] ∧
          Carries first (Assistant.respond distantSales "bottom 2") ∧
          Carries second (Assistant.respond distantSales "play") := by
  intro fresh invocation input answers
  have hproducts : Catalog.ofProducts distantSales = .ok distantSales := rfl
  have haccepted : Catalog.Accepted distantSales := .ofProducts hproducts
  have htakes : TakesInput fresh invocation answers distantSales := by
    refine ⟨⟨⟨(none, []), rfl⟩, ?_⟩, rfl, rfl⟩
    exact ⟨_, openCatalog_savedJson haccepted.isCatalog fresh invocation "sales.json"⟩
  have hreads : Text.ReadsAs input ["bottom 2", " ", "play"] [] := by
    apply Text.Consists.readsAs
    exact .feed (by decide +kernel) (by decide +kernel) (.feed (by decide +kernel)
      (by decide +kernel) (.unfinished (by decide +kernel) (by decide +kernel)))
  have hspoken : spoken ["bottom 2", " ", "play"] = ["bottom 2", "play"] := by decide +kernel
  rcases (json_line_for_each_command haccepted).2 fresh invocation answers htakes rfl _ _ hreads
    with ⟨lines, -, hlines, hcarries⟩
  rw [hspoken] at hcarries
  cases hcarries with
  | @cons first _ _ _ hfirst hothers =>
      cases hothers with
      | @cons second _ _ _ hsecond hnone =>
          cases hnone
          exact ⟨haccepted, htakes, hreads, first, second, hlines, hfirst, hsecond⟩

end Cli
end SpokenSales
