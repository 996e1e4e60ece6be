import SpokenSales.Proofs.Cli.Input
import SpokenSales.Proofs.Cli.Printed
import SpokenSales.Proofs.Cli.Reset
import SpokenSales.Proofs.Date.Plain

/-!
# Rows of text

In text every product is printed as one row, which ends with its sales and its date.  A row is one
line unless the name of the product has a line feed in it.  Names are printed as they are, so each
line feed in a name breaks the row, and what is printed then has more lines than rows.
-/

namespace SpokenSales
namespace Cli

/-!
## One row
-/

/-- Whether a row has the name, the sales and the date of a product, in this order. -/
def IsRowOf (line : List Char) (product : Product) : Prop :=
  ∃ gap, gap ≠ [] ∧ (∀ c ∈ gap, c = ' ') ∧ line = product.name.toList ++
    (gap ++ (Text.decimal product.sales.toNat ++ (" sales  ".toList ++ product.date.write)))

theorem isRowOf_row (product : Product) : IsRowOf (row product) product := by
  refine ⟨List.replicate (16 - product.name.toList.length) ' ' ++ ' ' ::
    List.replicate (6 - (Text.decimal product.sales.toNat).length) ' ', ?_, ?_, ?_⟩
  · exact List.append_ne_nil_of_right_ne_nil _ (List.cons_ne_nil _ _)
  · intro c hc
    rcases List.mem_append.mp hc with hc | hc
    · exact List.eq_of_mem_replicate hc
    · rcases List.mem_cons.mp hc with rfl | hc
      · rfl
      · exact List.eq_of_mem_replicate hc
  · unfold row padRight padLeft
    simp only [List.append_assoc, List.cons_append]

theorem IsRowOf.exists_append {line : List Char} {product : Product} (h : IsRowOf line product) :
    ∃ back, line = product.name.toList ++ back ∧ back ≠ [] ∧ '\n' ∉ back ∧ '\r' ∉ back := by
  rcases h with ⟨gap, hne, hgap, rfl⟩
  have hback {c : Char} (hspace : c ≠ ' ') (hminus : c ≠ '-') (hplus : c ≠ '+')
      (hdigit : Text.isDigit c = false) (hword : c ∉ " sales  ".toList) :
      c ∉ gap ++
        (Text.decimal product.sales.toNat ++ (" sales  ".toList ++ product.date.write)) := by
    intro hc
    rcases List.mem_append.mp hc with hc | hc
    · exact hspace (hgap c hc)
    rcases List.mem_append.mp hc with hc | hc
    · rw [Text.isDigit_of_mem_decimal hc] at hdigit
      cases hdigit
    rcases List.mem_append.mp hc with hc | hc
    · exact hword hc
    · exact Date.not_mem_write hminus hplus hdigit hc
  refine ⟨_, rfl, List.append_ne_nil_of_left_ne_nil hne _, ?_, ?_⟩
  · exact hback (by decide) (by decide) (by decide) (by decide) (by decide)
  · exact hback (by decide) (by decide) (by decide) (by decide) (by decide)

theorem IsRowOf.mem_feed_iff {line : List Char} {product : Product} (h : IsRowOf line product) :
    '\n' ∈ line ↔ '\n' ∈ product.name.toList := by
  rcases h.exists_append with ⟨back, rfl, -, hfeed, -⟩
  rw [List.mem_append]
  exact or_iff_left hfeed

theorem IsRowOf.count_feed {line : List Char} {product : Product} (h : IsRowOf line product) :
    line.count '\n' = product.name.toList.count '\n' := by
  rcases h.exists_append with ⟨back, rfl, -, hfeed, -⟩
  rw [List.count_append, List.count_eq_zero.mpr hfeed, Nat.add_zero]

theorem IsRowOf.getLast?_ne {line : List Char} {product : Product} (h : IsRowOf line product) :
    line.getLast? ≠ some '\r' := by
  rcases h.exists_append with ⟨back, rfl, hne, -, hreturn⟩
  rw [List.getLast?_append_of_ne_nil _ hne]
  intro hlast
  exact hreturn (List.mem_of_getLast? hlast)

/-!
A row can be read from its end.
-/

theorem append_cons_inj_of_not_mem {as bs xs ys : List α} {c : α} (hx : c ∉ xs) (hy : c ∉ ys)
    (h : as ++ c :: xs = bs ++ c :: ys) : as = bs ∧ xs = ys := by
  rcases List.append_eq_append_iff.mp h with ⟨more, rfl, hmore⟩ | ⟨more, rfl, hmore⟩
  · cases more with
    | nil =>
        cases hmore
        exact ⟨(List.append_nil as).symm, rfl⟩
    | cons d more =>
        cases hmore
        exact absurd (List.mem_append_right more List.mem_cons_self) hx
  · cases more with
    | nil =>
        cases hmore
        exact ⟨List.append_nil bs, rfl⟩
    | cons d more =>
        cases hmore
        exact absurd (List.mem_append_right more List.mem_cons_self) hy

theorem IsRowOf.exists_front {line : List Char} {product : Product} (h : IsRowOf line product) :
    ∃ front, line = (front ++ ' ' :: Text.decimal product.sales.toNat) ++ " sales ".toList ++
      ' ' :: product.date.write := by
  rcases h with ⟨gap, hne, hgap, rfl⟩
  rcases List.eq_nil_or_concat gap with rfl | ⟨front, last, rfl⟩
  · exact absurd rfl hne
  · have hlast : last = ' ' := hgap last (by simp)
    refine ⟨product.name.toList ++ front, ?_⟩
    rw [hlast]
    simp only [List.concat_eq_append, List.append_assoc, List.cons_append, List.nil_append]
    rfl

theorem not_mem_decimal (n : Nat) : ' ' ∉ Text.decimal n := by
  intro hc
  exact absurd (Text.isDigit_of_mem_decimal hc) (by decide)

theorem not_mem_write (date : Date) : ' ' ∉ date.write :=
  Date.not_mem_write (by decide) (by decide) (by decide)

theorem IsRowOf.unique {line : List Char} {product other : Product} (h : IsRowOf line product)
    (hother : IsRowOf line other) : product.sales = other.sales ∧ product.date = other.date := by
  rcases h.exists_front with ⟨front, hline⟩
  rcases hother.exists_front with ⟨front', hline'⟩
  rw [hline] at hline'
  -- Neither the date nor the sales have a space in them, so the last spaces cut both rows alike.
  rcases append_cons_inj_of_not_mem (not_mem_write _) (not_mem_write _) hline' with ⟨hfront, hdate⟩
  rcases append_cons_inj_of_not_mem (not_mem_decimal _) (not_mem_decimal _)
    (List.append_cancel_right hfront) with ⟨-, hsales⟩
  have hvalue := Text.readDecimal_decimal product.sales.toNat
  rw [hsales, Text.readDecimal_decimal] at hvalue
  exact ⟨UInt64.toNat_inj.mp hvalue.symm, Date.write_inj.mp hdate⟩

theorem not_isRowOf {line front word : List Char} (hline : line = front ++ ' ' :: word)
    (hword : ' ' ∉ word) {c : Char} (hc : c ∈ word) (hminus : c ≠ '-') (hplus : c ≠ '+')
    (hdigit : Text.isDigit c = false) (product : Product) : ¬IsRowOf line product := by
  intro h
  rcases h.exists_front with ⟨before, heq⟩
  rw [hline] at heq
  rw [(append_cons_inj_of_not_mem hword (not_mem_write _) heq).2] at hc
  exact Date.not_mem_write hminus hplus hdigit hc

theorem not_isRowOf_noProducts (product : Product) : ¬IsRowOf "No products.".toList product := by
  apply @not_isRowOf _ "No".toList "products.".toList rfl (by decide) 'p' (by decide) <;> decide

theorem not_isRowOf_warningLine (warning : Warning) (product : Product) :
    ¬IsRowOf (warningLine warning) product := by
  cases warning with
  | unrecognized =>
      apply @not_isRowOf _ "warning: Please say a number after".toList "'top'".toList
        (by decide) (by decide) 't' (by decide) <;> decide

/-!
## Listings
-/

/-- Whether an output lists some products after a warning, if there is one.  There is one row for
each product, or one line that says that there is none.  The output has as many line feeds as rows,
but for those in the names, so that its lines are the rows exactly if no name has a line feed. -/
structure Lists (output : List Char) (warning : Option Warning) (listed : List Product) :
    Prop where
  output_eq : output = unlines ((warning.map warningLine).toList ++ rows listed)
  none : listed = [] → rows listed = ["No products.".toList]
  each : listed ≠ [] → List.Forall₂ IsRowOf (rows listed) listed
  feeds : output.count '\n' = warning.toList.length + max 1 listed.length +
    (listed.map fun product => product.name.toList.count '\n').sum
  unbroken : Text.Consists (Text.encode output)
      (((warning.map warningLine).toList ++ rows listed).map Text.encode) ↔
    ∀ product ∈ listed, '\n' ∉ product.name.toList

theorem count_unlines (texts : List (List Char)) :
    (unlines texts).count '\n' = texts.length + (texts.map (List.count '\n')).sum := by
  induction texts with
  | nil =>
      rfl
  | cons text texts ih =>
      rw [unlines_cons, List.count_append, List.count_cons_self, ih, List.map_cons, List.sum_cons,
        List.length_cons]
      omega

theorem rows_nil : rows [] = ["No products.".toList] := rfl

theorem rows_of_ne_nil {listed : List Product} (h : listed ≠ []) : rows listed = listed.map row :=
  if_neg fun hempty => h (List.isEmpty_iff.mp hempty)

theorem forall₂_isRowOf (listed : List Product) :
    List.Forall₂ IsRowOf (listed.map row) listed := by
  rw [List.forall₂_map_left_iff, List.forall₂_same]
  intro product _
  exact isRowOf_row product

theorem count_warningLine (warning : Warning) : (warningLine warning).count '\n' = 0 := by
  cases warning with
  | unrecognized =>
      decide

theorem mem_listing {warning : Option Warning} {listed : List Product} {line : List Char}
    (h : line ∈ (warning.map warningLine).toList ++ rows listed) :
    line.count '\n' = 0 ∧ line.getLast? ≠ some '\r' ∨ ∃ product ∈ listed, line = row product := by
  rcases List.mem_append.mp h with hwarning | hrow
  · cases warning with
    | none =>
        cases hwarning
    | some warning =>
        left
        rw [Option.map_some, Option.toList_some, List.mem_singleton] at hwarning
        rw [hwarning]
        cases warning with
        | unrecognized =>
            decide
  · by_cases hlisted : listed = []
    · left
      rw [hlisted, rows_nil, List.mem_singleton] at hrow
      rw [hrow]
      decide
    · right
      rw [rows_of_ne_nil hlisted] at hrow
      rcases List.mem_map.mp hrow with ⟨product, hproduct, rfl⟩
      exact ⟨product, hproduct, rfl⟩

theorem lists_unlines (warning : Option Warning) (listed : List Product) :
    Lists (unlines ((warning.map warningLine).toList ++ rows listed)) warning listed where
  output_eq := rfl
  none := by
    rintro rfl
    exact rows_nil
  each := by
    intro hlisted
    rw [rows_of_ne_nil hlisted]
    exact forall₂_isRowOf listed
  feeds := by
    have hwarning : ((warning.map warningLine).toList.map (List.count '\n')).sum = 0 := by
      cases warning with
      | none =>
          rfl
      | some warning =>
          simp only [Option.map_some, Option.toList_some, List.map_cons, List.map_nil,
            count_warningLine, List.sum_singleton]
    have hlength : (warning.map warningLine).toList.length = warning.toList.length := by
      cases warning <;> rfl
    rw [count_unlines, List.map_append, List.sum_append, List.length_append, hwarning, hlength]
    by_cases hlisted : listed = []
    · rw [hlisted]
      rfl
    · have hpos : 0 < listed.length := List.length_pos_iff.mpr hlisted
      have hcount : ((rows listed).map (List.count '\n')).sum =
          (listed.map fun product => product.name.toList.count '\n').sum := by
        rw [rows_of_ne_nil hlisted, List.map_map]
        exact congrArg List.sum
          (List.map_congr_left fun product _ => (isRowOf_row product).count_feed)
      rw [hcount, rows_of_ne_nil hlisted, List.length_map, max_eq_right hpos]
      omega
  unbroken := by
    constructor
    · -- No line has a line feed in it, so no row has one.
      intro hlines product hproduct hfeed
      have hlisted : listed ≠ [] := List.ne_nil_of_mem hproduct
      have hrow : row product ∈ (warning.map warningLine).toList ++ rows listed := by
        rw [rows_of_ne_nil hlisted]
        exact List.mem_append_right _ (List.mem_map_of_mem hproduct)
      exact hlines.not_mem _ (List.mem_map_of_mem hrow)
        (Text.mem_encode_feed ((isRowOf_row product).mem_feed_iff.mpr hfeed))
    · intro hnames
      apply consists_unlines
      · intro line hline
        rcases mem_listing hline with ⟨hcount, -⟩ | ⟨product, hproduct, rfl⟩
        · exact List.count_eq_zero.mp hcount
        · exact fun hfeed => hnames product hproduct ((isRowOf_row product).mem_feed_iff.mp hfeed)
      · intro line hline
        rcases mem_listing hline with ⟨-, hlast⟩ | ⟨product, hproduct, rfl⟩
        · exact hlast
        · exact (isRowOf_row product).getLast?_ne

/-!
## Runs
-/

section Runs

variable {fresh : Nat → Uuid} {invocation : Invocation} {answers : Answers}
  {catalog : List Product}

/-- Whether an output is the response to a command in text. -/
def ListsResponse (catalog : List Product) (output : List Char) (text : String) : Prop :=
  Lists output (Assistant.respond catalog text).warning (Assistant.respond catalog text).products

theorem listsResponse_printResponse (catalog : List Product) (text : String) :
    ListsResponse catalog (printResponse false (Assistant.respond catalog text)) text := by
  unfold printResponse
  rw [if_neg Bool.false_ne_true]
  exact lists_unlines _ _

theorem Serves.output_of_reset (h : Serves fresh invocation answers catalog)
    (htext : invocation.json = false) (hreset : invocation.reset = true) :
    (run fresh invocation answers).output = unlines (rows (mostRecentFirst catalog)) := by
  rw [h.listing_of_reset hreset]
  unfold printListing
  rw [htext, if_neg Bool.false_ne_true]

/-- A run in text prints listings: one if the arguments ask for it or have a command, else one for
each command of the input.  No row is taken for a warning, for the line that there are no products,
or for the row of a product with other sales or of another day. -/
theorem text_listings (h : Serves fresh invocation answers catalog)
    (htext : invocation.json = false) :
    (invocation.reset = true →
      Lists (run fresh invocation answers).output none (mostRecentFirst catalog)) ∧
    (invocation.reset = false → invocation.words ≠ [] →
      ListsResponse catalog (run fresh invocation answers).output
        (" ".intercalate invocation.words)) ∧
    (invocation.reset = false → invocation.words = [] →
      ∀ texts unread, Text.ReadsAs answers.input texts unread →
        ∃ outputs : List (List Char), (run fresh invocation answers).output = outputs.flatten ∧
          List.Forall₂ (ListsResponse catalog) outputs (spoken texts)) ∧
    ∀ line product, IsRowOf line product →
      (∀ warning, line ≠ warningLine warning) ∧ line ≠ "No products.".toList ∧
        ∀ other, IsRowOf line other → product.sales = other.sales ∧ product.date = other.date := by
  refine ⟨?_, ?_, ?_, ?_⟩
  · intro hreset
    rw [h.output_of_reset htext hreset]
    exact lists_unlines none (mostRecentFirst catalog)
  · intro hreset hwords
    rw [h.output_and_failure.1, answer_of_words hreset hwords]
    unfold answerCommand
    dsimp only
    rw [htext]
    exact listsResponse_printResponse catalog _
  · intro hreset hwords texts unread hreads
    have htakes : TakesInput fresh invocation answers catalog := ⟨h, hreset, hwords⟩
    rcases htakes.exists_run_eq with ⟨log, events, hrun⟩
    refine ⟨(spoken texts).map fun text => printResponse false (Assistant.respond catalog text),
      ?_, ?_⟩
    · have houtput : (run fresh invocation answers).output = (spoken texts).flatMap fun text =>
          printResponse invocation.json (Assistant.respond catalog text) :=
        congrArg Report.output (hrun answers.input texts unread hreads)
      rw [houtput, htext, List.flatMap_def]
    · rw [List.forall₂_map_left_iff, List.forall₂_same]
      intro text _
      exact listsResponse_printResponse catalog text
  · intro line product hrow
    refine ⟨?_, ?_, fun other hother => hrow.unique hother⟩
    · rintro warning rfl
      exact not_isRowOf_warningLine warning product hrow
    · rintro rfl
      exact not_isRowOf_noProducts product hrow

end Runs

def listingInText : Invocation :=
  ⟨[], some "sales.json", true, false, none, none⟩

def desk : Product :=
  ⟨Uuid.supply 0 0, "Desk", 9, ⟨2025, 6, 2, by decide⟩⟩

def lamp : Product :=
  ⟨Uuid.supply 0 1, "Lamp", 5, ⟨2025, 6, 1, by decide⟩⟩

/-- A lamp whose name begins with the row of a desk. -/
def forgedLamp : Product :=
  ⟨Uuid.supply 0 0, "Desk                  9 sales  2025-06-02\nLamp            ", 5,
    ⟨2025, 6, 1, by decide⟩⟩

def forgedAnswers : Answers :=
  ⟨.started, .ok (savedJson [forgedLamp]), []⟩

theorem serves_forgedLamp :
    Serves (Uuid.supply 0) listingInText forgedAnswers [forgedLamp] := by
  have haccepted : Catalog.ofProducts [forgedLamp] = .ok [forgedLamp] := rfl
  have hcatalog := (Catalog.ofProducts_eq_ok_iff.mp haccepted).2
  exact ⟨⟨(none, []), rfl⟩, ⟨_, openCatalog_savedJson hcatalog _ listingInText "sales.json"⟩⟩

theorem text_listings_forgedLamp :
    Lists (run (Uuid.supply 0) listingInText forgedAnswers).output none
      (mostRecentFirst [forgedLamp]) :=
  (text_listings serves_forgedLamp rfl).1 rfl

theorem row_forgedLamp : row forgedLamp = row desk ++ '\n' :: row lamp := by
  decide +kernel

/-- The listing of one product may be that of two. -/
theorem exists_forged_row :
    Serves (Uuid.supply 0) listingInText forgedAnswers [forgedLamp] ∧
      (run (Uuid.supply 0) listingInText forgedAnswers).output = unlines [row desk, row lamp] ∧
      (run (Uuid.supply 0) listingInText forgedAnswers).output.count '\n' ≠
        [forgedLamp].length := by
  have hlisted : mostRecentFirst [forgedLamp] = [forgedLamp] :=
    List.perm_singleton.mp (mostRecentFirst_perm [forgedLamp])
  have houtput : (run (Uuid.supply 0) listingInText forgedAnswers).output =
      unlines [row desk, row lamp] := by
    rw [serves_forgedLamp.output_of_reset rfl rfl, hlisted]
    change unlines [row forgedLamp] = _
    rw [row_forgedLamp, unlines_cons, unlines_cons, unlines_cons, List.append_assoc,
      List.cons_append]
  refine ⟨serves_forgedLamp, houtput, ?_⟩
  rw [houtput, count_unlines]
  exact (Nat.lt_add_right _ (by decide : 1 < 2)).ne'

end Cli
end SpokenSales
