import SpokenSales.Panel
import SpokenSales.Proofs.Json.Compact
import SpokenSales.Proofs.Uuid
import SpokenSales.Session

/-!
# One event, one line

A message consists of fixed words, labels, numbers and identifiers, and of texts that come from
outside.  What is said never gets into a message, and the text of a panic is put on one line.
The other texts from outside are repeated as they are, so a line break in one of them breaks the
message.
-/

namespace SpokenSales

/-- Whether a text has no line break. -/
def Unbroken (text : String) : Prop :=
  '\n' ∉ text.toList ∧ '\r' ∉ text.toList

instance (text : String) : Decidable (Unbroken text) :=
  inferInstanceAs (Decidable (_ ∧ _))

theorem unbroken_append_iff {front back : String} :
    Unbroken (front ++ back) ↔ Unbroken front ∧ Unbroken back := by
  unfold Unbroken
  rw [String.toList_append, List.mem_append, List.mem_append, not_or, not_or]
  exact and_and_and_comm

theorem unbroken_ofList {text : List Char} (h : ∀ c ∈ text, c ≠ '\n' ∧ c ≠ '\r') :
    Unbroken (String.ofList text) := by
  unfold Unbroken
  rw [String.toList_ofList]
  exact ⟨fun hmem => (h _ hmem).1 rfl, fun hmem => (h _ hmem).2 rfl⟩

/-!
## Numbers and identifiers
-/

theorem unbroken_number (n : Nat) : Unbroken (toString n) := by
  have hdigit : ∀ c ∈ (toString n).toList, c.isDigit = true := by
    intro c hc
    rw [Nat.toString_eq_repr, Nat.toList_repr] at hc
    exact Nat.isDigit_of_mem_toDigits (by decide) (by decide) hc
  constructor
  · intro hmem
    exact absurd (hdigit _ hmem) (by decide)
  · intro hmem
    exact absurd (hdigit _ hmem) (by decide)

theorem Uuid.unbroken_write (id : Uuid) : Unbroken (String.ofList id.write) := by
  apply unbroken_ofList
  intro c hc
  rcases mem_hyphenate hc with rfl | hdigits
  · decide
  · have hline := Json.onOneLine_fixedHex 32 id.value.toNat
    constructor
    · rintro rfl
      exact hline.not_mem_feed hdigits
    · rintro rfl
      exact hline.not_mem_return hdigits

namespace Log

theorem unbroken_singleLine (limit : Nat) (text : List Char) :
    Unbroken (String.ofList (singleLine limit text)) := by
  have hflat : ∀ c ∈ text.map fun c => if c = '\n' ∨ c = '\r' then ' ' else c,
      c ≠ '\n' ∧ c ≠ '\r' := by
    intro c hc
    rcases List.mem_map.mp hc with ⟨d, -, rfl⟩
    split
    · decide
    · rename_i hbreak
      exact not_or.mp hbreak
  unfold singleLine
  simp only
  split
  · rw [String.ofList_append, String.ofList_toList, unbroken_append_iff]
    exact ⟨unbroken_ofList fun c hc => hflat c (List.mem_of_mem_take hc), by decide⟩
  · exact unbroken_ofList hflat

theorem unbroken_payloadText (payload : Option String) : Unbroken (payloadText payload) := by
  cases payload with
  | none =>
      decide
  | some text =>
      exact unbroken_singleLine payloadLimit text.toList

theorem Level.unbroken_label (level : Level) : Unbroken level.label := by
  cases level <;> decide

end Log

theorem Kind.unbroken_label (kind : Kind) : Unbroken kind.label := by
  cases kind <;> decide

theorem Command.Shape.unbroken_label (shape : Shape) : Unbroken shape.label := by
  cases shape <;> decide

theorem ProductError.unbroken_message (fault : ProductError) : Unbroken fault.message := by
  cases fault <;> decide

/-!
## Messages
-/

/-- The texts that the message of a catalog error repeats as they are. -/
def CatalogError.verbatim : CatalogError → List String
  | unreadable path fault => [path, fault.message]
  | json fault => [fault.message]
  | invalid .. => []
  | duplicateId _ => []

theorem CatalogError.unbroken_message_iff (error : CatalogError) :
    Unbroken error.message ↔ ∀ text ∈ error.verbatim, Unbroken text := by
  unfold message verbatim
  cases error with
  | unreadable path fault =>
      simp +decide only [unbroken_append_iff, true_and, and_true, List.forall_mem_cons]
      exact Iff.rfl
  | json fault =>
      simp +decide only [unbroken_append_iff, true_and, List.forall_mem_singleton]
      exact Iff.rfl
  | invalid index fault =>
      simp +decide only [unbroken_append_iff, unbroken_number, true_and, iff_true]
      exact fault.unbroken_message
  | duplicateId id =>
      simp +decide only [unbroken_append_iff, true_and, iff_true]
      exact id.unbroken_write

namespace Log

/-- The texts that the message of an event repeats as they are. -/
def Event.verbatim : Event → List String
  | sampleUsed reason => reason.verbatim
  | opened _ directory => [directory]
  | panicked location _ => [location]
  | _ => []

theorem Event.unbroken_message_iff (event : Event) :
    Unbroken event.message ↔ ∀ text ∈ event.verbatim, Unbroken text := by
  unfold message verbatim
  cases event with
  | understood shape kind =>
      simp +decide only [unbroken_append_iff, true_and, and_true, iff_true]
      exact ⟨shape.unbroken_label, kind.unbroken_label⟩
  | notUnderstood | finished | catalogLoaded =>
      simp +decide only [unbroken_append_iff, unbroken_number]
  | answered recognized kind results =>
      simp +decide only [unbroken_append_iff, unbroken_number, true_and, and_true, iff_true]
      exact ⟨by cases recognized <;> decide, kind.unbroken_label⟩
  | listening | updateIgnored | recognizerFailed =>
      decide
  | sampleUsed reason =>
      simp +decide only [unbroken_append_iff, true_and]
      exact reason.unbroken_message_iff
  | opened level directory =>
      simp +decide only [unbroken_append_iff, true_and, and_true, List.forall_mem_singleton]
      exact and_iff_right level.unbroken_label
  | panicked location payload =>
      simp +decide only [unbroken_append_iff, true_and, and_true, List.forall_mem_singleton]
      exact and_iff_left (unbroken_payloadText payload)

theorem Event.unbroken_message {event : Event} (h : event.verbatim = []) :
    Unbroken event.message := by
  apply event.unbroken_message_iff.mpr
  rw [h]
  exact List.forall_mem_nil _

end Log

/-!
## What is said
-/

theorem Assistant.unbroken_message_of_mem_events {catalog : List Product} {text : String}
    {event : Log.Event} (h : event ∈ events catalog text) : Unbroken event.message := by
  apply Log.Event.unbroken_message
  rcases List.mem_cons.mp h with rfl | hanswering
  · unfold understanding
    simp only
    split <;> rfl
  · rw [List.mem_singleton.mp hanswering]
    rfl

theorem Session.unbroken_message_of_mem_events {session : Session} {signal : Signal}
    {event : Log.Event} (h : event ∈ session.events signal) : Unbroken event.message := by
  apply Log.Event.unbroken_message
  cases signal with
  | start =>
      rw [List.mem_singleton.mp h]
      rfl
  | update update =>
      unfold events at h
      simp only at h
      split at h
      · rw [List.mem_singleton.mp h]
        rfl
      · split at h
        · rw [List.mem_singleton.mp h]
          rfl
        · cases h
  | fail =>
      unfold events at h
      simp only at h
      split at h
      · rw [List.mem_singleton.mp h]
        rfl
      · cases h
  | stop =>
      cases h

/-!
## What is repeated as it is
-/

/-- A message is on one line if nothing that it repeats as it is has a line break.  What is said is
not repeated, neither by the assistant nor by a session. -/
theorem one_event_one_line (event : Log.Event) :
    (Unbroken event.message ↔ ∀ text ∈ event.verbatim, Unbroken text) ∧
    ((∃ catalog text, event ∈ Assistant.events catalog text) → Unbroken event.message) ∧
    ((∃ (session : Session) (signal : Signal), event ∈ session.events signal) →
      Unbroken event.message) := by
  refine ⟨event.unbroken_message_iff, ?_, ?_⟩
  · rintro ⟨catalog, text, h⟩
    exact Assistant.unbroken_message_of_mem_events h
  · rintro ⟨session, signal, h⟩
    exact Session.unbroken_message_of_mem_events h

/-- A directory with a line break in its name breaks the line that reports the start of the log,
and so does the path of a catalog file that cannot be read. -/
theorem Panel.exists_broken_lines :
    (let (state, _, events) := call ⟨none, Uuid.supply 0⟩ ⟨.error .notFound, .started⟩ .initial
        (.openLog "info" "/tmp/a\nb")
      ∃ line ∈ written state events, ¬Unbroken line.message) ∧
    let (state, _, events) := call ⟨some "/tmp/a\nb", Uuid.supply 0⟩
        ⟨.error .notFound, .started⟩ ⟨none, some ⟨.info, "/tmp/logs"⟩⟩ .reset
      ∃ line ∈ written state events, ¬Unbroken line.message := by
  decide +kernel

end SpokenSales
