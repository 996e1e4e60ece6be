import SpokenSales.Session

/-!
# The history of a session

A session keeps one text and one flag.  What they are is a matter of the signals that came since
the session was idle, in whatever order these came.
-/

namespace SpokenSales

/-!
## Listening and hearing

These notions are about a history alone, the oldest signal first.
-/

/-- Whether the recognizer no longer listens after a signal. -/
def Signal.Ends : Signal → Prop
  | .start => False
  | .update given => given.isFinal = true
  | .fail | .stop => True

namespace Session

/-- Some start has no end after it. -/
def Listens (history : List Signal) : Prop :=
  ∃ before after, history = before ++ .start :: after ∧ ∀ signal ∈ after, ¬signal.Ends

/-- The update came while the recognizer was listening, and since then there was neither a start
nor another update of that kind. -/
def HeardLast (history : List Signal) (update : Update) : Prop :=
  ∃ before after, history = before ++ .update update :: after ∧ Listens before ∧
    .start ∉ after ∧
      ∀ front later rest, after = front ++ .update later :: rest →
        ¬Listens (before ++ .update update :: front)

theorem concat_eq_append_cons {α : Type} {items before after : List α} {item last : α}
    (h : items ++ [last] = before ++ item :: after) :
    (items = before ∧ last = item ∧ after = []) ∨
      ∃ front, items = before ++ item :: front ∧ after = front ++ [last] := by
  rcases List.eq_nil_or_concat after with rfl | ⟨front, other, rfl⟩
  · left
    rcases List.append_inj' h rfl with ⟨hitems, hlast⟩
    exact ⟨hitems, List.head_eq_of_cons_eq hlast, rfl⟩
  · right
    rw [List.concat_eq_append, ← List.cons_append, ← List.append_assoc] at h
    rcases List.append_inj' h rfl with ⟨hitems, hlast⟩
    exact ⟨front, hitems, by rw [List.concat_eq_append, hlast]⟩

theorem not_listens_nil : ¬Listens [] := by
  rintro ⟨before, after, hhistory, -⟩
  exact absurd hhistory.symm (List.append_ne_nil_of_right_ne_nil before (List.cons_ne_nil _ _))

theorem not_heardLast_nil (update : Update) : ¬HeardLast [] update := by
  rintro ⟨before, after, hhistory, -⟩
  exact absurd hhistory.symm (List.append_ne_nil_of_right_ne_nil before (List.cons_ne_nil _ _))

theorem listens_concat {history : List Signal} {signal : Signal} :
    Listens (history ++ [signal]) ↔ signal = .start ∨ Listens history ∧ ¬signal.Ends := by
  constructor
  · rintro ⟨before, after, hhistory, hafter⟩
    rcases concat_eq_append_cons hhistory with ⟨-, hsignal, -⟩ | ⟨front, rfl, rfl⟩
    · exact Or.inl hsignal
    · right
      constructor
      · exact ⟨before, front, rfl, fun other hother => hafter other (List.mem_append_left _ hother)⟩
      · exact hafter signal (List.mem_append_right _ (List.mem_singleton_self signal))
  · rintro (rfl | ⟨⟨before, after, rfl, hafter⟩, hends⟩)
    · exact ⟨history, [], rfl, fun other hother => absurd hother List.not_mem_nil⟩
    · exists before, after ++ [signal]
      constructor
      · rw [List.append_assoc, List.cons_append]
      · intro other hother
        rcases List.mem_append.mp hother with hother | hother
        · exact hafter other hother
        · rw [List.mem_singleton.mp hother]
          exact hends

theorem heardLast_concat {history : List Signal} {signal : Signal} {update : Update} :
    HeardLast (history ++ [signal]) update ↔
      (signal = .update update ∧ Listens history) ∨
        (HeardLast history update ∧ signal ≠ .start ∧
          ∀ later, signal = .update later → ¬Listens history) := by
  constructor
  · rintro ⟨before, after, hhistory, hbefore, hstart, hlater⟩
    rcases concat_eq_append_cons hhistory with ⟨rfl, hsignal, -⟩ | ⟨front, rfl, rfl⟩
    · exact Or.inl ⟨hsignal, hbefore⟩
    · right
      refine ⟨⟨before, front, rfl, hbefore, ?_, ?_⟩, ?_, ?_⟩
      · intro hfront
        exact hstart (List.mem_append_left _ hfront)
      · intro first later rest hfront
        apply hlater first later (rest ++ [signal])
        rw [hfront, List.append_assoc, List.cons_append]
      · rintro rfl
        exact hstart (List.mem_append_right _ (List.mem_singleton_self _))
      · rintro later rfl
        exact hlater front later [] rfl
  · rintro (⟨rfl, hlistens⟩ | ⟨⟨before, after, rfl, hbefore, hstart, hlater⟩, hne, hsilent⟩)
    · refine ⟨history, [], rfl, hlistens, List.not_mem_nil, ?_⟩
      intro front later rest hnil
      exact absurd hnil.symm (List.append_ne_nil_of_right_ne_nil front (List.cons_ne_nil _ _))
    · refine ⟨before, after ++ [signal], ?_, hbefore, ?_, ?_⟩
      · rw [List.append_assoc, List.cons_append]
      · intro hmem
        rcases List.mem_append.mp hmem with hmem | hmem
        · exact hstart hmem
        · exact hne (List.mem_singleton.mp hmem).symm
      · intro front later rest hafter
        rcases concat_eq_append_cons hafter with ⟨rfl, hsignal, -⟩ | ⟨first, rfl, -⟩
        · exact hsilent later hsignal
        · exact hlater front later first rfl

theorem heardLast_concat_of_listens {history : List Signal} (h : Listens history)
    {update other : Update} :
    HeardLast (history ++ [.update update]) other ↔ other = update := by
  rw [heardLast_concat]
  constructor
  · rintro (⟨hother, -⟩ | ⟨-, -, hsilent⟩)
    · exact (Signal.update.inj hother).symm
    · exact absurd h (hsilent update rfl)
  · rintro rfl
    exact Or.inl ⟨rfl, h⟩

theorem heardLast_concat_of_unheard {history : List Signal} {signal : Signal}
    (hne : signal ≠ .start) (h : ∀ later, signal = .update later → ¬Listens history)
    {update : Update} : HeardLast (history ++ [signal]) update ↔ HeardLast history update := by
  rw [heardLast_concat]
  constructor
  · rintro (⟨hsignal, hlistens⟩ | ⟨hheard, -⟩)
    · exact absurd hlistens (h update hsignal)
    · exact hheard
  · intro hheard
    exact Or.inr ⟨hheard, hne, h⟩

/-!
## What a session keeps of its history
-/

structure Records (session : Session) (history : List Signal) : Prop where
  listening : session.listening = true ↔ Listens history
  heard : ∀ update, HeardLast history update → session.text = update.text
  silent : (¬∃ update, HeardLast history update) → session.text = ""

theorem records_idle : Records idle [] := by
  constructor
  · constructor
    · intro h
      cases h
    · intro h
      exact absurd h not_listens_nil
  · intro update h
    exact absurd h (not_heardLast_nil update)
  · intro _
    rfl

theorem Records.of_heardLast_iff {session later : Session} {history longer : List Signal}
    (h : session.Records history) (htext : later.text = session.text)
    (hlistening : later.listening = true ↔ Listens longer)
    (hheard : ∀ {update}, HeardLast longer update ↔ HeardLast history update) :
    later.Records longer := by
  constructor
  · exact hlistening
  · intro update hupdate
    rw [htext, h.heard update (hheard.mp hupdate)]
  · intro hnone
    rw [htext]
    apply h.silent
    rintro ⟨update, hupdate⟩
    exact hnone ⟨update, hheard.mpr hupdate⟩

theorem Records.start {session : Session} {history : List Signal} :
    (session.next .start).Records (history ++ [.start]) := by
  constructor
  · rw [listens_concat]
    exact iff_of_true rfl (Or.inl rfl)
  · intro update hupdate
    rcases heardLast_concat.mp hupdate with ⟨hsignal, -⟩ | ⟨-, hne, -⟩
    · cases hsignal
    · exact absurd rfl hne
  · intro _
    rfl

theorem Records.update {session : Session} {history : List Signal} (h : session.Records history)
    (update : Update) : (session.next (.update update)).Records (history ++ [.update update]) := by
  rcases session with ⟨text, listening⟩
  -- The flag decides whether the update is heard, and by the invariant the history says the same.
  cases listening with
  | false =>
      have hsilent : ¬Listens history := by
        rw [← h.listening]
        exact Bool.false_ne_true
      apply h.of_heardLast_iff rfl
      · rw [listens_concat]
        apply iff_of_false Bool.false_ne_true
        rintro (hsignal | ⟨hlistens, -⟩)
        · cases hsignal
        · exact hsilent hlistens
      · exact heardLast_concat_of_unheard (by rintro ⟨⟩) fun _ _ => hsilent
  | true =>
      have hlistens : Listens history := h.listening.mp rfl
      constructor
      · show (!update.isFinal) = true ↔ _
        rw [listens_concat, Bool.not_eq_true', ← Bool.not_eq_true]
        constructor
        · intro hfinal
          exact Or.inr ⟨hlistens, hfinal⟩
        · rintro (hsignal | ⟨-, hends⟩)
          · cases hsignal
          · exact hends
      · intro other hother
        rw [(heardLast_concat_of_listens hlistens).mp hother]
        rfl
      · intro hnone
        exact absurd ⟨update, (heardLast_concat_of_listens hlistens).mpr rfl⟩ hnone

theorem Records.ended {session : Session} {history : List Signal} (h : session.Records history)
    {signal : Signal} (hends : signal.Ends) (hne : signal ≠ .start)
    (hunheard : ∀ later, signal ≠ .update later) :
    (Session.mk session.text false).Records (history ++ [signal]) := by
  refine h.of_heardLast_iff rfl ?_ ?_
  · rw [listens_concat]
    apply iff_of_false Bool.false_ne_true
    rintro (hsignal | ⟨-, hgoes⟩)
    · exact hne hsignal
    · exact hgoes hends
  · exact heardLast_concat_of_unheard hne fun later hlater => absurd hlater (hunheard later)

theorem Records.next {session : Session} {history : List Signal} (h : session.Records history)
    (signal : Signal) : (session.next signal).Records (history ++ [signal]) := by
  cases signal with
  | start =>
      exact Records.start
  | update update =>
      exact h.update update
  | fail =>
      exact h.ended trivial (by rintro ⟨⟩) (by rintro _ ⟨⟩)
  | stop =>
      exact h.ended trivial (by rintro ⟨⟩) (by rintro _ ⟨⟩)

theorem Records.run {session : Session} {history : List Signal} (h : session.Records history)
    (signals : List Signal) : (session.run signals).Records (history ++ signals) := by
  induction signals generalizing session history with
  | nil =>
      rw [List.append_nil]
      exact h
  | cons signal signals ih =>
      rw [List.append_cons]
      exact ih (h.next signal)

/-!
## Finished commands
-/

/-- The commands that the updates of a run hand over. -/
def finished (session : Session) : List Signal → List String
  | [] => []
  | .update update :: signals =>
      (session.result? (.update update)).toList ++ (session.next (.update update)).finished signals
  | signal :: signals => (session.next signal).finished signals

theorem result?_update {session : Session} {update : Update} {text : String} :
    session.result? (.update update) = some text ↔
      session.listening = true ∧ update.isFinal = true ∧ text = update.text := by
  show (if session.listening && update.isFinal then some update.text else none) = some text ↔ _
  rw [Option.ite_none_right_eq_some, Bool.and_eq_true, Option.some.injEq, and_assoc,
    eq_comm (a := text)]

theorem result?_update_of_not_listening {session : Session} (h : session.listening = false)
    (update : Update) : session.result? (.update update) = none := by
  show (if session.listening && update.isFinal then some update.text else none) = none
  rw [h]
  rfl

theorem next_of_not_listening {session : Session} (h : session.listening = false)
    {signal : Signal} (hne : signal ≠ .start) : session.next signal = session := by
  rcases session with ⟨text, listening⟩
  cases h
  cases signal with
  | start =>
      exact absurd rfl hne
  | update update =>
      rfl
  | fail =>
      rfl
  | stop =>
      rfl

theorem run_of_not_listening {session : Session} (h : session.listening = false)
    {signals : List Signal} (hstart : .start ∉ signals) : session.run signals = session := by
  induction signals with
  | nil =>
      rfl
  | cons signal signals ih =>
      rw [List.mem_cons, not_or] at hstart
      show (session.next signal).run signals = session
      rw [next_of_not_listening h (Ne.symm hstart.1), ih hstart.2]

theorem finished_of_not_listening {session : Session} (h : session.listening = false)
    {signals : List Signal} (hstart : .start ∉ signals) : session.finished signals = [] := by
  induction signals with
  | nil =>
      rfl
  | cons signal signals ih =>
      rw [List.mem_cons, not_or] at hstart
      have hnext : session.next signal = session := next_of_not_listening h (Ne.symm hstart.1)
      cases signal with
      | update update =>
          rw [finished, result?_update_of_not_listening h, hnext, ih hstart.2]
          rfl
      | _ =>
          rw [finished, hnext, ih hstart.2]
          rintro _ ⟨⟩

theorem next_of_result? {session : Session} {update : Update} {text : String}
    (h : session.result? (.update update) = some text) :
    session.next (.update update) = ⟨text, false⟩ := by
  rcases result?_update.mp h with ⟨hlistening, hfinal, rfl⟩
  show (if session.listening then Session.mk update.text (!update.isFinal) else session) = _
  rw [if_pos hlistening, hfinal]
  rfl

theorem run_of_result? {session : Session} {update : Update} {text : String}
    (h : session.result? (.update update) = some text) {after : List Signal}
    (hstart : .start ∉ after) : session.run (.update update :: after) = ⟨text, false⟩ := by
  show (session.next (.update update)).run after = ⟨text, false⟩
  rw [next_of_result? h]
  exact run_of_not_listening rfl hstart

theorem length_finished_le_one (session : Session) {signals : List Signal}
    (hstart : .start ∉ signals) : (session.finished signals).length ≤ 1 := by
  induction signals generalizing session with
  | nil =>
      exact Nat.zero_le 1
  | cons signal signals ih =>
      have htail : .start ∉ signals := fun hmem => hstart (List.mem_cons_of_mem _ hmem)
      cases signal with
      | update update =>
          rw [finished]
          cases hresult : session.result? (.update update) with
          | none =>
              exact ih _ htail
          | some text =>
              rw [next_of_result? hresult, finished_of_not_listening rfl htail]
              exact Nat.le_refl 1
      | _ =>
          rw [finished]
          · exact ih _ htail
          · rintro _ ⟨⟩

/-!
## Runs from idle
-/

/-- The state after any signals, what each further signal hands over, and how a session stays
between a finished command and the next start. -/
theorem run_idle_history (history : List Signal) :
    ((idle.run history).listening = true ↔ Listens history) ∧
      (∀ update, HeardLast history update → (idle.run history).text = update.text) ∧
      ((¬∃ update, HeardLast history update) → (idle.run history).text = "") ∧
      (∀ update text, (idle.run history).result? (.update update) = some text ↔
        Listens history ∧ update.isFinal = true ∧ text = update.text) ∧
      (idle.run history).result? .stop = some (idle.run history).text ∧
      (∀ signals, .start ∉ signals → ((idle.run history).finished signals).length ≤ 1) ∧
      (.start ∉ history → idle.finished history = []) ∧
      ∀ update text after, (idle.run history).result? (.update update) = some text →
        .start ∉ after →
          let later := idle.run (history ++ .update update :: after)
          later.text = text ∧ later.result? .stop = some text ∧
            ∀ other, later.result? (.update other) = none ∧ later.next (.update other) = later := by
  have hrecords : (idle.run history).Records history := records_idle.run history
  refine ⟨hrecords.listening, hrecords.heard, hrecords.silent, ?_, rfl, ?_, ?_, ?_⟩
  · intro update text
    rw [result?_update, hrecords.listening]
  · intro signals hstart
    exact length_finished_le_one _ hstart
  · intro hstart
    exact finished_of_not_listening rfl hstart
  · intro update text after hresult hstart later
    have hlater : later = ⟨text, false⟩ := by
      rw [← run_of_result? hresult hstart]
      exact List.foldl_append
    rw [hlater]
    refine ⟨rfl, rfl, fun other => ⟨rfl, rfl⟩⟩

theorem run_idle_history_topThree :
    let history : List Signal := [.update ⟨"noise", true⟩, .start, .update ⟨"top", false⟩]
    let after : List Signal := [.fail, .update ⟨"top 5", true⟩, .stop]
    let later := idle.run (history ++ .update ⟨"top 3", true⟩ :: after)
    (idle.run history).result? (.update ⟨"top 3", true⟩) = some "top 3" ∧ .start ∉ after ∧
      later.text = "top 3" ∧ later.result? .stop = some "top 3" := by
  intro history after later
  have hresult : (idle.run history).result? (.update ⟨"top 3", true⟩) = some "top 3" := by decide
  have hstart : .start ∉ after := by decide
  rcases run_idle_history history with ⟨-, -, -, -, -, -, -, hstays⟩
  rcases hstays _ _ after hresult hstart with ⟨htext, hstop, -⟩
  exact ⟨hresult, hstart, htext, hstop⟩

end Session
end SpokenSales
