import SpokenSales.Proofs.Cli.Rows
import SpokenSales.Proofs.Log.Setup

/-!
# How a run ends

A run needs a log if the arguments name a directory for it, then a catalog, and then, if it takes
its commands from the input, an input that is a text.  It succeeds exactly if it gets all of them,
and otherwise it fails with the first that it does not get.  What the commands say does not matter.
-/

namespace SpokenSales
namespace Cli

/-!
## The catalog that is named
-/

theorem Invocation.eq_of_withEnvironment {given invocation : Invocation}
    {environment : Option String} (h : given.withEnvironment environment = .ok invocation) :
    invocation = { given with catalog := given.catalog.or environment } := by
  unfold Invocation.withEnvironment at h
  cases hpath : given.catalog with
  | some path =>
      rw [hpath] at h
      cases h
      rw [Option.some_or, ← hpath]
  | none =>
      rw [hpath] at h
      cases environment with
      | none =>
          cases h
          rw [Option.none_or, ← hpath]
      | some path =>
          simp only [Invocation.set] at h
          split at h
          · cases h
          · cases h
            rfl

theorem Invocation.exists_of_read {arguments : List String} {environment : Option String}
    {invocation : Invocation} (h : Invocation.read arguments environment = .ok invocation) :
    ∃ given, readArguments Invocation.empty arguments = .ok given ∧
      invocation = { given with catalog := given.catalog.or environment } := by
  unfold Invocation.read at h
  split at h
  · cases h
  · rename_i given hgiven
    exact ⟨given, hgiven, Invocation.eq_of_withEnvironment h⟩

/-- The catalog that a run answers from: the sample, unless a file is named. -/
inductive Obtains (fresh : Nat → Uuid) :
    Option String → Except Storage.Fault (List UInt8) → List Product → Prop
  | sample (file : Except Storage.Fault (List UInt8)) :
      Obtains fresh none file (Catalog.sample fresh)
  | file {path : String} {file : Except Storage.Fault (List UInt8)} {catalog : List Product}
      (hload : Catalog.ofFile fresh path file = .ok catalog) :
      Obtains fresh (some path) file catalog

inductive CatalogFails (fresh : Nat → Uuid) :
    Option String → Except Storage.Fault (List UInt8) → CatalogError → Prop
  | file {path : String} {file : Except Storage.Fault (List UInt8)} {error : CatalogError}
      (hload : Catalog.ofFile fresh path file = .error error) :
      CatalogFails fresh (some path) file error

section Catalogs

variable {fresh : Nat → Uuid} {file : Except Storage.Fault (List UInt8)}

theorem obtains_or_fails (fresh : Nat → Uuid) (path : Option String)
    (file : Except Storage.Fault (List UInt8)) :
    (∃ catalog, Obtains fresh path file catalog) ∨ ∃ error, CatalogFails fresh path file error := by
  cases path with
  | none =>
      exact Or.inl ⟨_, .sample file⟩
  | some path =>
      cases hload : Catalog.ofFile fresh path file with
      | ok catalog =>
          exact Or.inl ⟨catalog, .file hload⟩
      | error error =>
          exact Or.inr ⟨error, .file hload⟩

theorem Obtains.openCatalog {invocation : Invocation} {catalog : List Product}
    (h : Obtains fresh invocation.catalog file catalog) :
    ∃ events, openCatalog fresh invocation file = .ok (catalog, events) := by
  unfold Cli.openCatalog
  generalize invocation.catalog = named at h ⊢
  cases h with
  | sample =>
      exact ⟨_, rfl⟩
  | file hload =>
      simp only [hload]
      exact ⟨_, rfl⟩

theorem CatalogFails.openCatalog {invocation : Invocation} {error : CatalogError}
    (h : CatalogFails fresh invocation.catalog file error) :
    openCatalog fresh invocation file = .error (.catalog error) := by
  unfold Cli.openCatalog
  generalize invocation.catalog = named at h ⊢
  cases h with
  | file hload =>
      simp only [hload]

end Catalogs

/-!
## The log that is asked for
-/

def Invocation.logAsked? (invocation : Invocation) : Option Log.Request :=
  invocation.logDirectory.map fun directory =>
    ⟨invocation.logLevel.getD Log.Level.default.label, directory⟩

/-- Whether nothing is wrong with the log: none is asked for, or the request is in order and its
start succeeds. -/
inductive LogsWell : Option Log.Request → Log.Start → Prop
  | off (start : Log.Start) : LogsWell none start
  | started {asked : Log.Request} {active : Log.Active} (hfor : asked.For active) :
      LogsWell (some asked) .started

inductive LogFails : Option Log.Request → Log.Start → Log.SetupError → Prop
  | faulty {asked : Log.Request} {error : Log.SetupError} (hfaulty : asked.Faulty error)
      (start : Log.Start) : LogFails (some asked) start error
  | directory {asked : Log.Request} {active : Log.Active} (hfor : asked.For active)
      (fault : Storage.Fault) :
      LogFails (some asked) (.directoryNotMade fault) (.directoryNotMade active.directory fault)
  | backend {asked : Log.Request} {active : Log.Active} (hfor : asked.For active)
      (wording : String) : LogFails (some asked) (.notStarted wording) (.notStarted wording)

section Logs

variable {invocation : Invocation} {start : Log.Start}

theorem logsWell_or_fails (asked : Option Log.Request) (start : Log.Start) :
    LogsWell asked start ∨ ∃ error, LogFails asked start error := by
  cases asked with
  | none =>
      exact Or.inl (.off start)
  | some asked =>
      rcases asked.faulty_or_for with ⟨error, hfaulty⟩ | ⟨active, hfor⟩
      · exact Or.inr ⟨error, .faulty hfaulty start⟩
      · cases start with
        | started =>
            exact Or.inl (.started hfor)
        | directoryNotMade fault =>
            exact Or.inr ⟨_, .directory hfor fault⟩
        | notStarted wording =>
            exact Or.inr ⟨_, .backend hfor wording⟩

theorem logRequest?_eq (invocation : Invocation) :
    invocation.logRequest? =
      invocation.logAsked?.map fun asked => Log.request none asked.level asked.directory := by
  unfold Invocation.logRequest? Invocation.logAsked?
  cases invocation.logDirectory with
  | none =>
      rfl
  | some directory =>
      rfl

theorem LogsWell.openLog (h : LogsWell invocation.logAsked? start) :
    ∃ opened, openLog invocation start = .ok opened := by
  unfold Cli.openLog
  rw [logRequest?_eq]
  generalize invocation.logAsked? = asked at h ⊢
  cases h with
  | off =>
      exact ⟨_, rfl⟩
  | started hfor =>
      rw [Option.map_some, Log.request_of_for hfor]
      exact ⟨_, rfl⟩

theorem LogFails.openLog {error : Log.SetupError}
    (h : LogFails invocation.logAsked? start error) :
    openLog invocation start = .error (.log error) := by
  unfold Cli.openLog
  rw [logRequest?_eq]
  generalize invocation.logAsked? = asked at h ⊢
  cases h with
  | faulty hfaulty =>
      rw [Option.map_some, Log.request_of_faulty hfaulty]
      rfl
  | directory hfor fault =>
      rw [Option.map_some, Log.request_of_for hfor]
      rfl
  | backend hfor wording =>
      rw [Option.map_some, Log.request_of_for hfor]
      rfl

end Logs

/-!
## What a run gets
-/

/-- Whether a run gets all that it needs. -/
structure Supplied (fresh : Nat → Uuid) (invocation : Invocation) (answers : Answers) : Prop where
  log : LogsWell invocation.logAsked? answers.start
  catalog : ∃ catalog, Obtains fresh invocation.catalog answers.catalogFile catalog
  input : invocation.reset = false → invocation.words = [] → Text.IsUtf8 answers.input

/-- The first thing that a run needs and does not get. -/
inductive FailsFirst (fresh : Nat → Uuid) (invocation : Invocation) (answers : Answers) :
    Failure → Prop
  | log {error : Log.SetupError} (h : LogFails invocation.logAsked? answers.start error) :
      FailsFirst fresh invocation answers (.log error)
  | catalog {error : CatalogError} (hlog : LogsWell invocation.logAsked? answers.start)
      (h : CatalogFails fresh invocation.catalog answers.catalogFile error) :
      FailsFirst fresh invocation answers (.catalog error)
  | input {catalog : List Product} (hlog : LogsWell invocation.logAsked? answers.start)
      (hcatalog : Obtains fresh invocation.catalog answers.catalogFile catalog)
      (hreset : invocation.reset = false) (hwords : invocation.words = [])
      (h : ¬Text.IsUtf8 answers.input) : FailsFirst fresh invocation answers (.input .notText)

section Runs

variable {fresh : Nat → Uuid} {invocation : Invocation} {answers : Answers}
  {catalog : List Product}

theorem supplied_or_failsFirst (fresh : Nat → Uuid) (invocation : Invocation)
    (answers : Answers) : Supplied fresh invocation answers ∨
      ∃ failure, FailsFirst fresh invocation answers failure := by
  rcases logsWell_or_fails invocation.logAsked? answers.start with hlog | ⟨error, herror⟩
  · rcases obtains_or_fails fresh invocation.catalog answers.catalogFile with
      ⟨catalog, hcatalog⟩ | ⟨error, herror⟩
    · by_cases hinput : invocation.reset = false → invocation.words = [] →
          Text.IsUtf8 answers.input
      · exact Or.inl ⟨hlog, ⟨catalog, hcatalog⟩, hinput⟩
      · rw [Classical.not_imp, Classical.not_imp] at hinput
        rcases hinput with ⟨hreset, hwords, hbytes⟩
        exact Or.inr ⟨_, .input hlog hcatalog hreset hwords hbytes⟩
    · exact Or.inr ⟨_, .catalog hlog herror⟩
  · exact Or.inr ⟨_, .log herror⟩

theorem Obtains.serves (h : Obtains fresh invocation.catalog answers.catalogFile catalog)
    (hlog : LogsWell invocation.logAsked? answers.start) : Serves fresh invocation answers catalog :=
  ⟨hlog.openLog, h.openCatalog⟩

theorem TakesInput.exists_failure_eq (h : TakesInput fresh invocation answers catalog) :
    ∃ unread : List (List UInt8), (unread = [] ↔ Text.IsUtf8 answers.input) ∧
      (run fresh invocation answers).failure =
        if unread = [] then none else some (.input .notText) := by
  rcases h.exists_run_eq with ⟨log, events, hrun⟩
  rcases Text.exists_readsAs answers.input with ⟨texts, unread, hreads⟩
  refine ⟨unread, hreads.unread_eq_nil_iff, ?_⟩
  exact congrArg Report.failure (hrun answers.input texts unread hreads)

theorem Supplied.failure_run (h : Supplied fresh invocation answers) :
    (run fresh invocation answers).failure = none := by
  rcases h.catalog with ⟨catalog, hcatalog⟩
  have hserves : Serves fresh invocation answers catalog := hcatalog.serves h.log
  cases hreset : invocation.reset with
  | true =>
      rw [hserves.output_and_failure.2, answer_of_reset hreset]
  | false =>
      by_cases hwords : invocation.words = []
      · have htakes : TakesInput fresh invocation answers catalog := ⟨hserves, hreset, hwords⟩
        rcases htakes.exists_failure_eq with ⟨unread, hunread, hfailure⟩
        rw [hfailure, if_pos (hunread.mpr (h.input hreset hwords))]
      · rw [hserves.output_and_failure.2, answer_of_words hreset hwords]
        rfl

theorem FailsFirst.failure_run {failure : Failure}
    (h : FailsFirst fresh invocation answers failure) :
    (run fresh invocation answers).failure = some failure := by
  cases h with
  | log h =>
      unfold run
      rw [h.openLog]
  | catalog hlog h =>
      rcases hlog.openLog with ⟨opened, hopened⟩
      unfold run
      simp only [hopened, h.openCatalog]
  | input hlog hcatalog hreset hwords h =>
      have htakes := TakesInput.mk (hcatalog.serves hlog) hreset hwords
      rcases htakes.exists_failure_eq with ⟨unread, hunread, hfailure⟩
      rw [hfailure, if_neg (fun hnil => h (hunread.mp hnil))]

theorem LogFails.output_run {error : Log.SetupError}
    (h : LogFails invocation.logAsked? answers.start error) :
    (run fresh invocation answers).output = [] := by
  unfold run
  rw [h.openLog]

theorem CatalogFails.output_run {error : CatalogError}
    (h : CatalogFails fresh invocation.catalog answers.catalogFile error) :
    (run fresh invocation answers).output = [] := by
  rcases logsWell_or_fails invocation.logAsked? answers.start with hlog | ⟨error, herror⟩
  · rcases hlog.openLog with ⟨opened, hopened⟩
    unfold run
    simp only [hopened, h.openCatalog]
  · exact herror.output_run

theorem failure_run_eq_none_iff :
    (run fresh invocation answers).failure = none ↔ Supplied fresh invocation answers := by
  constructor
  · intro hnone
    rcases supplied_or_failsFirst fresh invocation answers with hsupplied | ⟨failure, hfailure⟩
    · exact hsupplied
    · rw [hfailure.failure_run] at hnone
      cases hnone
  · exact Supplied.failure_run

theorem FailsFirst.eq {failure other : Failure} (h : FailsFirst fresh invocation answers failure)
    (hother : FailsFirst fresh invocation answers other) : failure = other :=
  Option.some.inj (h.failure_run.symm.trans hother.failure_run)

/-!
## The exit code
-/

theorem Report.exitCode_eq_zero_iff {report : Report} :
    report.exitCode = 0 ↔ report.failure = none := by
  unfold Report.exitCode
  cases report.failure with
  | none =>
      exact iff_of_true rfl rfl
  | some failure =>
      exact iff_of_false (show (1 : UInt32) ≠ 0 by decide) (Option.some_ne_none failure)

/-- How a run ends: with success if it gets all that it needs, or else with the first failure.
Nothing is printed if the log or the catalog fails. -/
structure Report.Ends (report : Report) (fresh : Nat → Uuid) (invocation : Invocation)
    (answers : Answers) : Prop where
  succeeds : report.exitCode = 0 ↔ Supplied fresh invocation answers
  silent : Supplied fresh invocation answers → report.errorOutput = ""
  fails : ¬Supplied fresh invocation answers → report.exitCode = 1 ∧
    ∃ failure, FailsFirst fresh invocation answers failure ∧
      report.errorOutput = "error: " ++ failure.message ++ "\n"
  unanswered : (∃ error, LogFails invocation.logAsked? answers.start error) ∨
    (∃ error, CatalogFails fresh invocation.catalog answers.catalogFile error) → report.output = []

theorem ends_run (fresh : Nat → Uuid) (invocation : Invocation) (answers : Answers) :
    (run fresh invocation answers).Ends fresh invocation answers where
  succeeds := Report.exitCode_eq_zero_iff.trans failure_run_eq_none_iff
  silent := by
    intro hsupplied
    unfold Report.errorOutput
    rw [hsupplied.failure_run]
  fails := by
    intro hnot
    rcases supplied_or_failsFirst fresh invocation answers with hsupplied | ⟨failure, hfailure⟩
    · exact absurd hsupplied hnot
    · unfold Report.exitCode Report.errorOutput
      rw [hfailure.failure_run]
      exact ⟨rfl, failure, hfailure, rfl⟩
  unanswered := by
    rintro (⟨error, herror⟩ | ⟨error, herror⟩)
    · exact herror.output_run
    · exact herror.output_run

theorem exitCode_congr {fresh' : Nat → Uuid} {invocation' : Invocation} {answers' : Answers}
    (h : Supplied fresh' invocation' answers' ↔ Supplied fresh invocation answers) :
    (run fresh' invocation' answers').exitCode = (run fresh invocation answers).exitCode := by
  have hsome : (run fresh' invocation' answers').failure.isSome =
      (run fresh invocation answers).failure.isSome := by
    rw [Bool.eq_iff_iff, Option.isSome_iff_ne_none, Option.isSome_iff_ne_none, ne_eq, ne_eq,
      failure_run_eq_none_iff, failure_run_eq_none_iff, h]
  unfold Report.exitCode
  rw [hsome]

/-!
## What does not matter
-/

theorem supplied_words_iff (hwords : invocation.words ≠ []) {words : List String}
    (hother : words ≠ []) :
    Supplied fresh { invocation with words := words } answers ↔
      Supplied fresh invocation answers := by
  constructor
  · intro h
    exact ⟨h.log, h.catalog, fun _ hnil => absurd hnil hwords⟩
  · intro h
    exact ⟨h.log, h.catalog, fun _ hnil => absurd hnil hother⟩

theorem supplied_input_iff {input : List UInt8}
    (hinput : Text.IsUtf8 input ↔ Text.IsUtf8 answers.input) :
    Supplied fresh invocation { answers with input := input } ↔
      Supplied fresh invocation answers := by
  constructor
  · intro h
    exact ⟨h.log, h.catalog, fun hreset hwords => hinput.mp (h.input hreset hwords)⟩
  · intro h
    exact ⟨h.log, h.catalog, fun hreset hwords => hinput.mpr (h.input hreset hwords)⟩

theorem run_of_words (hreset : invocation.reset = false) (hwords : invocation.words ≠ [])
    (input : List UInt8) :
    run fresh invocation { answers with input := input } = run fresh invocation answers := by
  unfold run
  simp only [answer_of_words hreset hwords]

theorem onOneLine_writeList (products : List Product) :
    Json.OnOneLine (Product.writeList products) := by
  apply Json.onOneLine_array
  intro text htext
  rcases List.mem_map.mp htext with ⟨product, -, rfl⟩
  exact (Json.isCompact_object fun _ => isCompact_of_mem_members).oneLine

/-- Whether an output is a listing of some products: their rows, or one line of JSON that is read
back as their records and, if they are a catalog, as that catalog. -/
structure IsListing (json : Bool) (output : List Char) (listed : List Product) : Prop where
  inRows : json = false → Lists output none listed
  inJson : json = true → ∃ line, output = line ++ ['\n'] ∧ '\n' ∉ line ∧
    Record.listOfJson line = .ok (listed.map Product.record) ∧
    (Catalog.IsCatalog listed → ∀ fresh, Catalog.ofJson fresh line = .ok listed)

theorem isListing_printListing (json : Bool) (listed : List Product) :
    IsListing json (printListing json listed) listed where
  inRows := by
    rintro rfl
    exact lists_unlines none listed
  inJson := by
    rintro rfl
    have hnone : ∀ c ∈ ([] : List Char), Json.isSpace c = true := List.forall_mem_nil _
    refine ⟨Product.writeList listed, List.append_nil _, (onOneLine_writeList listed).not_mem_feed,
      ?_, ?_⟩
    · rw [← Record.listOfJson_writeList listed hnone, List.append_nil]
    · intro hlisted fresh
      rw [← Catalog.ofJson_writeList_append fresh hlisted hnone, List.append_nil]

theorem Obtains.isCatalog {path : Option String} {file : Except Storage.Fault (List UInt8)}
    (h : Obtains fresh path file catalog) (hpath : path ≠ none) : Catalog.IsCatalog catalog := by
  cases h with
  | sample =>
      exact absurd rfl hpath
  | file hload =>
      exact (Catalog.Accepted.ofFile hload).isCatalog

theorem Obtains.exists_listing (h : Obtains fresh invocation.catalog answers.catalogFile catalog)
    (hlog : LogsWell invocation.logAsked? answers.start) (hreset : invocation.reset = true) :
    let report := run fresh invocation answers
    ∃ listed, Query.IsRanking .all catalog listed ∧
      (invocation.catalog ≠ none → Catalog.IsCatalog listed) ∧
      IsListing invocation.json report.output listed ∧ ∀ words input,
        (run fresh { invocation with words := words } { answers with input := input }).output =
          report.output := by
  intro report
  have houtput : report.output = printListing invocation.json (mostRecentFirst catalog) :=
    (h.serves hlog).listing_of_reset hreset
  refine ⟨mostRecentFirst catalog, isRanking_mostRecentFirst catalog, ?_, ?_, ?_⟩
  · intro hpath
    exact (h.isCatalog hpath).perm (mostRecentFirst_perm catalog).symm
  · rw [houtput]
    exact isListing_printListing _ _
  · intro words input
    have hserves : Serves fresh { invocation with words := words } { answers with input := input }
        catalog := Obtains.serves h hlog
    rw [houtput, hserves.listing_of_reset hreset]

/-- Arguments that are read, and a catalog that the environment may name, make a run that ends with
success exactly if it gets all that it needs, and otherwise with the first failure.  A listing is
that of the whole catalog whatever is said or read, and a command of the arguments is answered
whatever is read.  Commands do not change the exit code, be they understood or not: others may take
their place, and on the input more of them may stand between the lines. -/
theorem run_ends {arguments : List String} {environment : Option String}
    (hread : Invocation.read arguments environment = .ok invocation) (answers : Answers) :
    let report := run fresh invocation answers
    (∃ given, readArguments Invocation.empty arguments = .ok given ∧
      invocation = { given with catalog := given.catalog.or environment }) ∧
    report.Ends fresh invocation answers ∧
    (invocation.reset = true → LogsWell invocation.logAsked? answers.start →
      ∀ catalog, Obtains fresh invocation.catalog answers.catalogFile catalog →
        ∃ listed, Query.IsRanking .all catalog listed ∧
          (invocation.catalog ≠ none → Catalog.IsCatalog listed) ∧
          IsListing invocation.json report.output listed ∧ ∀ words input,
            (run fresh { invocation with words := words } { answers with input := input }).output =
              report.output) ∧
    (invocation.reset = false → invocation.words ≠ [] →
      ∀ input, run fresh invocation { answers with input := input } = report) ∧
    (invocation.words ≠ [] → ∀ words, words ≠ [] →
      (run fresh { invocation with words := words } answers).exitCode = report.exitCode) ∧
    ∀ front commands back, answers.input = front ++ back → Text.EndsLine front →
      (run fresh invocation
        { answers with input := front ++ (Text.encode commands ++ back) }).exitCode =
          report.exitCode := by
  intro report
  refine ⟨Invocation.exists_of_read hread, ends_run fresh invocation answers, ?_, ?_, ?_, ?_⟩
  · intro hreset hlog catalog hcatalog
    exact hcatalog.exists_listing hlog hreset
  · intro hreset hwords input
    exact run_of_words hreset hwords input
  · intro hwords words hother
    exact exitCode_congr (supplied_words_iff hwords hother)
  · intro front commands back hinput hfront
    apply exitCode_congr
    apply supplied_input_iff
    rw [hinput, hfront.isUtf8_append_iff, hfront.isUtf8_append_iff, Text.isUtf8_encode_append_iff]

end Runs

theorem obtains_distantSales (fresh : Nat → Uuid) (path : String) :
    Obtains fresh (some path) (.ok (savedJson distantSales)) distantSales := by
  have haccepted : Catalog.ofProducts distantSales = .ok distantSales := rfl
  exact .file (ofFile_savedJson (Catalog.ofProducts_eq_ok_iff.mp haccepted).2 fresh path)

theorem not_isUtf8_brokenLine : ¬Text.IsUtf8 (Text.encode "all\n".toList ++ [0xFF, 10]) := by
  rintro ⟨text, htext⟩
  exact Text.decode?_eq_none_iff.mp (by decide +kernel) text htext

theorem isRanking_distantSales : Query.IsRanking .all distantSales distantSales.reverse :=
  Query.isRanking_of_pairwise_outranks distantSales.reverse_perm (by decide +kernel)

/-- The log is started and the environment names a catalog, but the second line of the input is no
text.  A command that is not understood changes nothing in front of it.  With `--reset` there is a
listing all the same, in text and in JSON. -/
theorem run_ends_brokenLine :
    let fresh := Uuid.supply 0
    let arguments := ["--log-dir", "/var/log", "--json"]
    let invocation : Invocation :=
      ⟨[], some "sales.json", false, true, none, some "/var/log"⟩
    let front := Text.encode "all\n".toList
    let file := savedJson distantSales
    let answers : Answers := ⟨.started, .ok file, front ++ [0xFF, 10]⟩
    let report := run fresh invocation answers
    let longer := front ++ (Text.encode "hello\n".toList ++ [0xFF, 10])
    let lister : Bool → Invocation := fun json =>
      ⟨["play"], some "sales.json", true, json, none, none⟩
    Invocation.read arguments (some "sales.json") = .ok invocation ∧
      FailsFirst fresh invocation answers (.input .notText) ∧ report.exitCode = 1 ∧
      report.errorOutput = "error: failed to read stdin: stream did not contain valid UTF-8\n" ∧
      Command.parse "hello".toList = Query.unrecognized ∧
      (run fresh invocation { answers with input := longer }).exitCode = 1 ∧
      Invocation.read ["play", "--reset"] (some "sales.json") = .ok (lister false) ∧
      (run fresh (lister false) answers).exitCode = 0 ∧
      Lists (run fresh (lister false) answers).output none distantSales.reverse ∧
      Invocation.read ["--json", "--reset", "play"] (some "sales.json") = .ok (lister true) ∧
      ∃ line, (run fresh (lister true) answers).output = line ++ ['\n'] ∧
        Catalog.ofJson fresh line = .ok distantSales.reverse := by
  intro fresh arguments invocation front file answers report longer lister
  have hread : Invocation.read arguments (some "sales.json") = .ok invocation := by
    decide +kernel
  have hfor : Log.Request.For ⟨"debug", "/var/log"⟩ ⟨.debug, "/var/log"⟩ :=
    ⟨Or.inl (by decide), by decide, by decide, by decide⟩
  have hobtains : Obtains fresh (some "sales.json") answers.catalogFile distantSales :=
    obtains_distantSales fresh "sales.json"
  have hfirst : FailsFirst fresh invocation answers (.input .notText) :=
    .input (.started hfor) hobtains rfl rfl not_isUtf8_brokenLine
  rcases run_ends hread answers with ⟨-, hends, -, -, -, hcommands⟩
  rcases hends.fails fun hsupplied => not_isUtf8_brokenLine (hsupplied.input rfl rfl) with
    ⟨hone, failure, hfailure, herror⟩
  rw [hfailure.eq hfirst] at herror
  have hsame := hcommands front "hello\n".toList [0xFF, 10] rfl (Or.inr (by decide +kernel))
  have hreset (json : Bool) (words : List String)
      (hlister : Invocation.read words (some "sales.json") = .ok (lister json)) :
      (run fresh (lister json) answers).exitCode = 0 ∧
        IsListing json (run fresh (lister json) answers).output distantSales.reverse := by
    rcases run_ends hlister answers with ⟨-, hended, hlisting, -⟩
    rcases hlisting rfl (.off _) distantSales hobtains with ⟨listed, hranking, -, hlisted, -⟩
    rw [hranking.eq isRanking_distantSales] at hlisted
    refine ⟨hended.succeeds.mpr ⟨.off _, ⟨_, hobtains⟩, ?_⟩, hlisted⟩
    rintro ⟨⟩
  have hrows : Invocation.read ["play", "--reset"] (some "sales.json") = .ok (lister false) := by
    decide +kernel
  have hjson : Invocation.read ["--json", "--reset", "play"] (some "sales.json") =
      .ok (lister true) := by
    decide +kernel
  rcases (hreset true _ hjson).2.inJson rfl with ⟨line, houtput, -, -, hloads⟩
  have hreversed : Catalog.IsCatalog distantSales.reverse :=
    (hobtains.isCatalog (Option.some_ne_none _)).perm distantSales.reverse_perm.symm
  exact ⟨hread, hfirst, hone, herror, by decide +kernel, hsame.trans hone, hrows,
    (hreset false _ hrows).1, (hreset false _ hrows).2.inRows rfl, hjson, line, houtput,
    hloads hreversed fresh⟩

end Cli
end SpokenSales
