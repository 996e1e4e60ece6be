import SpokenSales.Panel
import SpokenSales.Proofs.Cli.Arguments
import SpokenSales.Proofs.Cli.JsonLines
import SpokenSales.Proofs.Cli.Rows
import SpokenSales.Proofs.Command.Layout

/-!
# The front ends agree

A command can be given to the panel, to the command line as arguments, and to the command line as
a line of the input.  Each way prepares the text a little differently and shows the response in its
own form, but what is shown is the one response of the assistant to the text.
-/

namespace SpokenSales

theorem Assistant.respond_congr (catalog : List Product) {text other : String}
    (h : Command.parse text.toList = Command.parse other.toList) :
    respond catalog text = respond catalog other := by
  unfold respond
  rw [h]

/-!
## The panel
-/

namespace Panel

structure Item.Shows (item : Item) (product : Product) : Prop where
  id : Uuid.read? item.id.toList = some product.id
  name : item.name = product.name
  sales : item.sales = product.sales
  date : Date.read? item.date.toList = some product.date

/-- Whether a view shows a response: the label of the kind, the products in order, and a message
that is the warning if nothing was understood and otherwise says how many products were found. -/
structure View.Shows (view : View) (response : Response) : Prop where
  kind : Kind.ofLabel? view.kind.toList = some response.query.kind
  items : List.Forall₂ Item.Shows view.items response.products
  showWarning : view.showWarning = true ↔ response.query.kind = .unrecognized
  warned : response.query.kind = .unrecognized → view.message = Warning.unrecognized.message
  empty : response.query.kind ≠ .unrecognized → view.items = [] → view.message = "No products."
  found : response.query.kind ≠ .unrecognized → view.items ≠ [] →
    view.message = s!"Found {view.items.length} product(s)."

theorem item_shows (product : Product) : (item product).Shows product where
  id := by
    simp only [item, String.toList_ofList]
    exact Uuid.read?_write product.id
  name := rfl
  sales := rfl
  date := by
    simp only [item, String.toList_ofList]
    exact Date.read?_write product.date

theorem forall₂_items (products : List Product) :
    List.Forall₂ Item.Shows (products.map item) products := by
  rw [List.forall₂_map_left_iff, List.forall₂_same]
  intro product _
  exact item_shows product

theorem length_items_view (response : Response) :
    (view response).items.length = response.products.length :=
  List.length_map item

theorem message_view (catalog : List Product) (text : String) :
    (view (Assistant.respond catalog text)).message =
      if (Assistant.respond catalog text).query.kind = .unrecognized then
        Warning.unrecognized.message
      else foundMessage (Assistant.respond catalog text).products.length := by
  have hwarning := Assistant.warning_respond catalog text
  unfold view
  simp only [hwarning]
  split_ifs
  · rfl
  · rfl

theorem view_shows (catalog : List Product) (text : String) :
    (view (Assistant.respond catalog text)).Shows (Assistant.respond catalog text) where
  kind := Query.ofLabel?_label _
  items := forall₂_items _
  showWarning := by
    have hwarning := Assistant.warning_respond catalog text
    unfold view
    simp only [hwarning]
    split
    · rename_i hkind
      exact iff_of_true rfl hkind
    · rename_i hkind
      exact iff_of_false Bool.false_ne_true hkind
  warned := by
    intro hkind
    rw [message_view, if_pos hkind]
  empty := by
    intro hkind hempty
    rw [message_view, if_neg hkind, ← length_items_view, hempty]
    rfl
  found := by
    intro hkind hfound
    rw [message_view, if_neg hkind, ← length_items_view]
    exact if_neg fun hlength => hfound (List.eq_nil_of_length_eq_zero hlength)

theorem obtain_of_file {setting : Setting} {answers : Answers} {path : String}
    {catalog : List Product} (hpath : setting.catalogPath? = some path)
    (hfile : Catalog.ofFile setting.fresh path answers.catalogFile = .ok catalog) :
    (State.initial.obtain setting answers).1 = catalog := by
  unfold State.obtain State.initial resolve
  simp only [hpath, hfile]

theorem call_voice {setting : Setting} {answers : Answers} {state : State}
    {catalog : List Product} (hcatalog : (state.obtain setting answers).1 = catalog)
    {text spoken : String} {front back : List Char} (hfront : Text.isBlankText front = true)
    (hback : Text.isBlankText back = true) (hspoken : spoken.toList = front ++ text.toList ++ back) :
    (call setting answers state (.voice spoken)).2.1 =
      .view (view (Assistant.respond catalog text)) := by
  have hparse : Command.parse (String.ofList (Text.trim spoken.toList)).toList =
      Command.parse text.toList := by
    rw [String.toList_ofList, Command.parse_trim, hspoken, Command.parse_surrounded hfront hback]
  rw [← hcatalog, ← Assistant.respond_congr _ hparse]
  rfl

end Panel

/-!
## The command line
-/

namespace Cli

/-- Whether a run succeeds and prints a response: one line of JSON that carries it, or else a listing
of its products, after the warning if nothing was understood. -/
structure Report.Prints (report : Report) (json : Bool) (response : Response) : Prop where
  succeeds : report.exitCode = 0
  silent : report.errorOutput = ""
  inJson : json = true →
    ∃ line, report.output = line ++ ['\n'] ∧ '\n' ∉ line ∧ Carries line response
  inRows : json = false → Lists report.output
    (if response.query.kind = .unrecognized then some .unrecognized else none) response.products

theorem prints_printResponse {catalog : List Product} (h : Catalog.IsCatalog catalog)
    {report : Report} {json : Bool} {text : String} (hfailure : report.failure = none)
    (houtput : report.output = printResponse json (Assistant.respond catalog text)) :
    report.Prints json (Assistant.respond catalog text) where
  succeeds := by
    unfold Report.exitCode
    rw [hfailure]
    rfl
  silent := by
    unfold Report.errorOutput
    rw [hfailure]
  inJson := by
    intro hjson
    rw [hjson, printResponse_json] at houtput
    exact ⟨_, houtput, (onOneLine_jsonResponse _).not_mem_feed, carries_jsonResponse h text⟩
  inRows := by
    intro hjson
    rw [houtput, hjson, ← Assistant.warning_respond]
    exact listsResponse_printResponse catalog text

/-- How a line of the input may end: with the input, with a line feed, or with a carriage return
and a line feed. -/
inductive LineEnd : List UInt8 → Prop
  | input : LineEnd []
  | feed : LineEnd [10]
  | returnFeed : LineEnd [13, 10]

theorem LineEnd.exists_readsAs {ending : List UInt8} (h : LineEnd ending) {text : String}
    (hne : text.toList ≠ []) (hfeed : '\n' ∉ text.toList) :
    ∃ heard : String, ∃ back, Text.ReadsAs (Text.encode text.toList ++ ending) [heard] [] ∧
      text.toList = heard.toList ++ back ∧ Text.isBlankText back = true := by
  have hbytes : Text.encode text.toList ≠ [] := fun hnil => hne (Text.encode_eq_nil_iff.mp hnil)
  have hline : 10 ∉ Text.encode text.toList := fun hmem =>
    hfeed (Text.mem_of_mem_encode (by decide) hmem)
  have hwhole : text.toList = text.toList ++ [] := (List.append_nil _).symm
  cases h with
  | input =>
      refine ⟨text, [], Text.Consists.readsAs ?_, hwhole, rfl⟩
      rw [List.append_nil]
      exact .unfinished hbytes hline
  | returnFeed =>
      exact ⟨text, [], Text.Consists.readsAs (.returnFeed hline .nil), hwhole, rfl⟩
  | feed =>
      -- The carriage return of the text is dropped with the line feed that follows it.
      by_cases hreturn : (Text.encode text.toList).getLast? = some 13
      · rcases Text.exists_concat_of_getLast?_encode (c := '\r') (by decide) hreturn with
          ⟨front, hfront⟩
        have hencoded : Text.encode ['\r'] = [13] := by decide +kernel
        rw [hfront, Text.encode_append, hencoded] at hline ⊢
        refine ⟨String.ofList front, ['\r'], Text.Consists.readsAs ?_, ?_, by decide⟩
        · rw [List.append_assoc, List.map_singleton, String.toList_ofList]
          exact .returnFeed (fun hmem => hline (List.mem_append_left _ hmem)) .nil
        · rw [String.toList_ofList]
      · exact ⟨text, [], Text.Consists.readsAs (.feed hline hreturn .nil), hwhole, rfl⟩

section Runs

variable {fresh : Nat → Uuid} {invocation : Invocation} {answers : Answers}
  {catalog : List Product}

theorem Serves.addWords (h : Serves fresh invocation answers catalog) (words : List String) :
    Serves fresh (invocation.addWords words) answers catalog :=
  ⟨h.log, h.loaded⟩

theorem prints_of_words (hcatalog : Catalog.IsCatalog catalog)
    (h : Serves fresh invocation answers catalog) (hreset : invocation.reset = false)
    (hwords : invocation.words ≠ []) :
    (run fresh invocation answers).Prints invocation.json
      (Assistant.respond catalog (" ".intercalate invocation.words)) := by
  rcases h.output_and_failure with ⟨houtput, hfailure⟩
  rw [answer_of_words hreset hwords] at houtput hfailure
  exact prints_printResponse hcatalog hfailure houtput

theorem prints_addWords (hcatalog : Catalog.IsCatalog catalog)
    (h : TakesInput fresh invocation answers catalog) {words : List String} (hwords : words ≠ []) :
    (run fresh (invocation.addWords words) answers).Prints invocation.json
      (Assistant.respond catalog (" ".intercalate words)) := by
  have hadded : (invocation.addWords words).words = words := by
    unfold Invocation.addWords
    rw [h.words, List.nil_append]
  have hprints := prints_of_words hcatalog (h.toServes.addWords words) h.reset
    (hadded.trans_ne hwords)
  rw [hadded] at hprints
  exact hprints

theorem prints_of_line (hcatalog : Catalog.IsCatalog catalog)
    (h : TakesInput fresh invocation answers catalog) {text : String}
    (htrim : Text.trim text.toList ≠ []) (hfeed : '\n' ∉ text.toList) {ending : List UInt8}
    (hending : LineEnd ending) :
    (run fresh invocation { answers with input := Text.encode text.toList ++ ending }).Prints
      invocation.json (Assistant.respond catalog text) := by
  have hne : text.toList ≠ [] := by
    intro hnil
    rw [hnil] at htrim
    exact htrim rfl
  rcases hending.exists_readsAs hne hfeed with ⟨heard, back, hreads, htext, hback⟩
  have hparse : Command.parse heard.toList = Command.parse text.toList := by
    rw [htext]
    exact (Command.Relaid.trailing heard.toList back hback).parse_eq
  have hspoken : spoken [heard] = [heard] := by
    rw [spoken_cons, if_neg]
    · rfl
    · intro hblank
      rw [ne_eq, Text.trim_eq_nil_iff, htext] at htrim
      apply htrim
      unfold Text.isBlankText at hblank hback ⊢
      rw [List.all_append, hblank, hback]
      rfl
  rcases h.exists_run_eq with ⟨log, events, hrun⟩
  have hreport := hrun _ [heard] [] hreads
  rw [hspoken, List.flatMap_singleton, Assistant.respond_congr catalog hparse] at hreport
  exact prints_printResponse hcatalog (congrArg Report.failure hreport)
    (congrArg Report.output hreport)

end Runs

end Cli

/-- Some words are given to each front end.  The panel may get white space around them, the command
line gets them as arguments after a separator or joined in a line of its input.  All of them show
the response of the assistant to the joined words. -/
theorem front_ends_agree {catalog : List Product} (hcatalog : Catalog.Accepted catalog)
    {words : List String} (hspoken : Text.trim (" ".intercalate words).toList ≠ [])
    (hfeed : '\n' ∉ (" ".intercalate words).toList) :
    let text := " ".intercalate words
    let response := Assistant.respond catalog text
    (∀ setting answers state front back spoken,
        (Panel.State.obtain state setting answers).1 = catalog →
        Text.isBlankText front = true → Text.isBlankText back = true →
        spoken.toList = front ++ text.toList ++ back →
        ∃ view, (Panel.call setting answers state (.voice spoken)).2.1 = .view view ∧
          view.Shows response) ∧
      ∀ fresh options environment base answers,
        Cli.Invocation.read options environment = .ok base → "--" ∉ options →
        Cli.TakesInput fresh base answers catalog →
        (∃ invocation, Cli.Invocation.read (options ++ "--" :: words) environment = .ok invocation ∧
          (Cli.run fresh invocation answers).Prints base.json response) ∧
        ∀ ending, Cli.LineEnd ending →
          (Cli.run fresh base { answers with input := Text.encode text.toList ++ ending }).Prints
            base.json response := by
  intro text response
  have hloaded := hcatalog.isCatalog
  constructor
  · intro setting answers state front back spoken hobtain hfront hback hpadded
    exact ⟨_, Panel.call_voice hobtain hfront hback hpadded, Panel.view_shows catalog text⟩
  · intro fresh options environment base answers hread hoptions htakes
    constructor
    · have hwords : words ≠ [] := by
        rintro rfl
        exact hspoken (by decide)
      exact ⟨_, Cli.Invocation.read_separator hread hoptions words,
        Cli.prints_addWords hloaded htakes hwords⟩
    · intro ending hending
      exact Cli.prints_of_line hloaded htakes hspoken hfeed hending

/-- One of the words looks like an option, there is white space around the text that the panel gets,
and the panel resolves its catalog for the command. -/
theorem front_ends_agree_distantSales :
    let words := ["top", "--json", "1"]
    let text := " ".intercalate words
    let response := Assistant.respond Cli.distantSales text
    let fresh := Uuid.supply 0
    let file := Except.ok (Cli.savedJson Cli.distantSales)
    let options := ["--json", "--catalog=sales.json"]
    let base : Cli.Invocation := ⟨[], some "sales.json", false, true, none, none⟩
    let answers : Cli.Answers := ⟨.started, file, []⟩
    Catalog.Accepted Cli.distantSales ∧ Text.trim text.toList ≠ [] ∧ '\n' ∉ text.toList ∧
      Cli.Invocation.read options none = .ok base ∧
      Cli.TakesInput fresh base answers Cli.distantSales ∧
      (∃ view, (Panel.call ⟨some " sales.json ", fresh⟩ ⟨file, .started⟩ .initial
          (.voice "\u3000top --json 1 \n")).2.1 = .view view ∧ view.Shows response) ∧
      (∃ invocation, Cli.Invocation.read (options ++ "--" :: words) none = .ok invocation ∧
        (Cli.run fresh invocation answers).Prints true response) ∧
      (Cli.run fresh base { answers with input := Text.encode text.toList ++ [13, 10] }).Prints
        true response := by
  intro words text response fresh file options base answers
  have hproducts : Catalog.ofProducts Cli.distantSales = .ok Cli.distantSales := rfl
  have haccepted : Catalog.Accepted Cli.distantSales := .ofProducts hproducts
  have hspoken : Text.trim text.toList ≠ [] := by decide +kernel
  have hfeed : '\n' ∉ text.toList := by decide +kernel
  have hread : Cli.Invocation.read options none = .ok base := by decide +kernel
  have htakes : Cli.TakesInput fresh base answers Cli.distantSales := by
    refine ⟨⟨⟨(none, []), rfl⟩, ?_⟩, rfl, rfl⟩
    exact ⟨_, Cli.openCatalog_savedJson haccepted.isCatalog fresh base "sales.json"⟩
  have hobtain : (Panel.State.initial.obtain ⟨some " sales.json ", fresh⟩
      ⟨file, .started⟩).1 = Cli.distantSales := by
    have hpath : Panel.Setting.catalogPath? ⟨some " sales.json ", fresh⟩ = some "sales.json" := by
      decide +kernel
    exact Panel.obtain_of_file hpath (Cli.ofFile_savedJson haccepted.isCatalog fresh "sales.json")
  rcases front_ends_agree haccepted hspoken hfeed with ⟨hpanel, hrun⟩
  rcases hrun fresh options none base answers hread (by decide) htakes with ⟨hwords, hlines⟩
  refine ⟨haccepted, hspoken, hfeed, hread, htakes, ?_, hwords, hlines [13, 10] .returnFeed⟩
  exact hpanel _ _ _ ['\u3000'] [' ', '\n'] _ hobtain (by decide) (by decide) (by decide +kernel)

end SpokenSales
