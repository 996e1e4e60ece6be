import SpokenSales.Cli.Run
import SpokenSales.Proofs.Catalog.Loading
import SpokenSales.Proofs.Text.Lines

/-!
# Commands on the input

A run that gets neither a command nor the request for a listing from its arguments answers the
lines of its input, one after another.  It stops at the first line that is no text.
-/

namespace SpokenSales
namespace Cli

/-- Whether a run comes to answer from a catalog: nothing goes wrong before the catalog has been
loaded. -/
structure Serves (fresh : Nat → Uuid) (invocation : Invocation) (answers : Answers)
    (catalog : List Product) : Prop where
  log : ∃ opened, openLog invocation answers.start = .ok opened
  loaded : ∃ events, openCatalog fresh invocation answers.catalogFile = .ok (catalog, events)

/-- Whether a run that answers from a catalog takes the commands from its input. -/
structure TakesInput (fresh : Nat → Uuid) (invocation : Invocation) (answers : Answers)
    (catalog : List Product) : Prop extends Serves fresh invocation answers catalog where
  reset : invocation.reset = false
  words : invocation.words = []

theorem Serves.exists_run_eq {fresh : Nat → Uuid} {invocation : Invocation} {answers : Answers}
    {catalog : List Product} (h : Serves fresh invocation answers catalog) :
    ∃ log events, ∀ input, run fresh invocation { answers with input := input } =
      ⟨(answer invocation catalog input).output, (answer invocation catalog input).failure, log,
        events ++ (answer invocation catalog input).events⟩ := by
  rcases h.log with ⟨⟨log, logEvents⟩, hlog⟩
  rcases h.loaded with ⟨catalogEvents, hloaded⟩
  refine ⟨log, logEvents ++ catalogEvents, ?_⟩
  intro input
  unfold run
  simp only [hlog, hloaded]

theorem Serves.output_and_failure {fresh : Nat → Uuid} {invocation : Invocation}
    {answers : Answers} {catalog : List Product} (h : Serves fresh invocation answers catalog) :
    (run fresh invocation answers).output =
        (answer invocation catalog answers.input).output ∧
      (run fresh invocation answers).failure =
        (answer invocation catalog answers.input).failure := by
  rcases h.exists_run_eq with ⟨log, events, hrun⟩
  have hreport := hrun answers.input
  exact ⟨congrArg Report.output hreport, congrArg Report.failure hreport⟩

theorem answer_of_reset {invocation : Invocation} (h : invocation.reset = true)
    (catalog : List Product) (input : List UInt8) :
    answer invocation catalog input =
      ⟨printListing invocation.json (mostRecentFirst catalog), none, []⟩ :=
  if_pos h

theorem Serves.listing_of_reset {fresh : Nat → Uuid} {invocation : Invocation}
    {answers : Answers} {catalog : List Product} (h : Serves fresh invocation answers catalog)
    (hreset : invocation.reset = true) :
    (run fresh invocation answers).output =
      printListing invocation.json (mostRecentFirst catalog) := by
  rw [h.output_and_failure.1, answer_of_reset hreset]

theorem answer_of_words {invocation : Invocation} (hreset : invocation.reset = false)
    (hwords : invocation.words ≠ []) (catalog : List Product) (input : List UInt8) :
    answer invocation catalog input =
      answerCommand invocation.json catalog (" ".intercalate invocation.words) := by
  have hempty : invocation.words.isEmpty = false := List.isEmpty_eq_false_iff.mpr hwords
  unfold answer
  rw [hreset, hempty, if_neg Bool.false_ne_true, if_neg Bool.false_ne_true]

/-!
## Lines and commands
-/

/-- The texts that are taken for commands, which the blank ones are not. -/
def spoken (texts : List String) : List String :=
  texts.filter fun text => Text.trim text.toList ≠ []

theorem spoken_cons (text : String) (texts : List String) :
    spoken (text :: texts) =
      if Text.isBlankText text.toList = true then spoken texts else text :: spoken texts := by
  unfold spoken
  rw [List.filter_cons]
  split
  · rename_i hspoken
    rw [if_neg]
    rw [← Text.trim_eq_nil_iff]
    exact of_decide_eq_true hspoken
  · rename_i hblank
    rw [if_pos]
    rw [← Text.trim_eq_nil_iff]
    simpa using hblank

theorem answerLines_append (json : Bool) (catalog : List Product) (texts : List String)
    {unread : List (List UInt8)}
    (hstops : ∀ line ∈ unread.head?, ∀ text : String, Text.encode text.toList ≠ line) :
    answerLines json catalog (texts.map (fun text => Text.encode text.toList) ++ unread) =
      ⟨(spoken texts).flatMap fun text => printResponse json (Assistant.respond catalog text),
        if unread = [] then none else some (.input .notText),
        (spoken texts).flatMap (Assistant.events catalog)⟩ := by
  induction texts with
  | nil =>
      cases unread with
      | nil =>
          rfl
      | cons line unread =>
          have hread : Text.decode? line = none := Text.decode?_eq_none_iff.mpr (hstops line rfl)
          rw [List.map_nil, List.nil_append, answerLines, hread, if_neg (List.cons_ne_nil _ _)]
          rfl
  | cons text texts ih =>
      have hread : Text.decode? (Text.encode text.toList) = some text :=
        Text.decode?_eq_some_iff.mpr rfl
      rw [List.map_cons, List.cons_append, answerLines, hread]
      simp only [ih, spoken_cons]
      split
      · rfl
      · rfl

theorem TakesInput.exists_run_eq {fresh : Nat → Uuid} {invocation : Invocation}
    {answers : Answers} {catalog : List Product} (h : TakesInput fresh invocation answers catalog) :
    ∃ log events, ∀ input texts unread, Text.ReadsAs input texts unread →
      run fresh invocation { answers with input := input } =
        ⟨(spoken texts).flatMap fun text =>
            printResponse invocation.json (Assistant.respond catalog text),
          if unread = [] then none else some (.input .notText), log,
          events ++ (spoken texts).flatMap (Assistant.events catalog)⟩ := by
  rcases h.toServes.exists_run_eq with ⟨log, events, hrun⟩
  refine ⟨log, events, ?_⟩
  intro input texts unread hreads
  have hanswer : answer invocation catalog input =
      answerLines invocation.json catalog (Text.lines input) := by
    unfold answer
    rw [h.reset, h.words]
    rfl
  rw [hrun, hanswer, hreads.consists.lines_eq, answerLines_append _ _ _ hreads.stops]

/-- The input has lines, and so many of them are texts as come before the first that is none.
The commands among these are answered in order, and no other command is.  The run succeeds if all
lines are texts.  Otherwise it fails, and the error output says that the next line was not read. -/
theorem run_readsInput {fresh : Nat → Uuid} {invocation : Invocation} {answers : Answers}
    {catalog : List Product} (h : TakesInput fresh invocation answers catalog) :
    (∃ texts unread, Text.ReadsAs answers.input texts unread) ∧
      ∀ texts unread, Text.ReadsAs answers.input texts unread →
        let report := run fresh invocation answers
        let started := run fresh invocation { answers with input := [] }
        report.output = ((spoken texts).flatMap fun text =>
            printResponse invocation.json (Assistant.respond catalog text)) ∧
          report.events = started.events ++ (spoken texts).flatMap (Assistant.events catalog) ∧
          (unread = [] → report.exitCode = 0 ∧ report.errorOutput = "") ∧
          (unread ≠ [] → report.exitCode = 1 ∧ report.errorOutput =
            "error: failed to read stdin: stream did not contain valid UTF-8\n") := by
  rcases h.exists_run_eq with ⟨log, events, hrun⟩
  constructor
  · exact Text.exists_readsAs answers.input
  · intro texts unread hreads report started
    have hreport : report = _ := hrun answers.input texts unread hreads
    have hstarted : started = _ := hrun [] [] [] Text.readsAs_nil
    rw [hreport, hstarted]
    refine ⟨rfl, ?_, ?_, ?_⟩
    · rw [List.append_assoc]
      rfl
    · rintro rfl
      exact ⟨rfl, rfl⟩
    · intro hunread
      rw [if_neg hunread]
      exact ⟨rfl, rfl⟩

/-- A blank line with a wide space in it is passed over, and after a line that is no text the
command that follows it is not answered. -/
theorem run_readsInput_twoCommands :
    let catalog := Catalog.sample (Uuid.supply 0)
    let invocation : Invocation := ⟨[], none, false, false, none, none⟩
    let input := Text.encode "top 1".toList ++ 13 :: 10 :: (Text.encode "\u3000 ".toList ++
      10 :: (Text.encode "bottom two".toList ++ 10 :: ([0xFF] ++ 10 :: Text.encode "all".toList)))
    let report := run (Uuid.supply 0) invocation ⟨.started, .error .notFound, input⟩
    TakesInput (Uuid.supply 0) invocation ⟨.started, .error .notFound, input⟩ catalog ∧
      Text.ReadsAs input ["top 1", "\u3000 ", "bottom two"]
        [[0xFF], Text.encode "all".toList] ∧
      report.output = printResponse false (Assistant.respond catalog "top 1") ++
        printResponse false (Assistant.respond catalog "bottom two") ∧
      report.exitCode = 1 := by
  intro catalog invocation input report
  have htakes : TakesInput (Uuid.supply 0) invocation ⟨.started, .error .notFound, input⟩
      catalog :=
    ⟨⟨⟨_, rfl⟩, ⟨_, rfl⟩⟩, rfl, rfl⟩
  have hreads : Text.ReadsAs input ["top 1", "\u3000 ", "bottom two"]
      [[0xFF], Text.encode "all".toList] := by
    constructor
    · exact .returnFeed (by decide +kernel) (.feed (by decide +kernel) (by decide +kernel)
        (.feed (by decide +kernel) (by decide +kernel) (.feed (by decide +kernel)
          (by decide +kernel) (.unfinished (by decide +kernel) (by decide +kernel)))))
    · rintro _ ⟨⟩
      exact Text.decode?_eq_none_iff.mp (by decide +kernel)
  have hspoken : spoken ["top 1", "\u3000 ", "bottom two"] = ["top 1", "bottom two"] := by
    decide +kernel
  rcases (run_readsInput htakes).2 _ _ hreads with ⟨houtput, -, -, hfailed⟩
  rw [hspoken] at houtput
  refine ⟨htakes, hreads, ?_, (hfailed (List.cons_ne_nil _ _)).1⟩
  rw [houtput, List.flatMap_cons, List.flatMap_cons, List.flatMap_nil, List.append_nil]

end Cli
end SpokenSales
