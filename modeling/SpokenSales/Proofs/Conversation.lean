import Mathlib.Data.List.Forall2
import SpokenSales.Catalog.Sample
import SpokenSales.Conversation

/-!
# What the log tells about a conversation

Two conversations that take the same steps leave the same lines in the log, whatever was said in
them, if the finished texts are as long as each other and the commands mean as much.
-/

namespace SpokenSales
namespace Conversation

open Command

/-!
## Conversations with other words

The steps are the same, and the words may be others.
-/

/-- Whether two commands have the same shape and kind and as many results, or both have no shape
and their normal forms are as long as each other. -/
inductive AlikeCommands (catalog : List Product) (text text' : String) : Prop
  | understood (shape : Shape) (query query' : Query)
      (h : recognize? (normalize text.toList) = some (shape, query))
      (h' : recognize? (normalize text'.toList) = some (shape, query'))
      (hkind : query.kind = query'.kind)
      (hresults : (Assistant.respond catalog text).products.length =
        (Assistant.respond catalog text').products.length) : AlikeCommands catalog text text'
  | notUnderstood (h : recognize? (normalize text.toList) = none)
      (h' : recognize? (normalize text'.toList) = none)
      (hlength : (normalize text.toList).length = (normalize text'.toList).length) :
      AlikeCommands catalog text text'

/-- Whether two turns are the same step.  A final text is as long as the other if the recognizer
listens, and no length matters otherwise. -/
inductive Alike (catalog : List Product) (listening : Bool) : Turn → Turn → Prop
  | start : Alike catalog listening (.signal .start) (.signal .start)
  | partialText (text text' : String) :
      Alike catalog listening (.signal (.update ⟨text, false⟩)) (.signal (.update ⟨text', false⟩))
  | finalText (text text' : String) (hlength : listening = true → text.length = text'.length) :
      Alike catalog listening (.signal (.update ⟨text, true⟩)) (.signal (.update ⟨text', true⟩))
  | fail : Alike catalog listening (.signal .fail) (.signal .fail)
  | stop : Alike catalog listening (.signal .stop) (.signal .stop)
  | command (text text' : String) (h : AlikeCommands catalog text text') :
      Alike catalog listening (.command text) (.command text')

/-- Whether two conversations take the same steps, the first of them from a given session. -/
inductive AlikeTurns (catalog : List Product) : Session → List Turn → List Turn → Prop
  | nil (session : Session) : AlikeTurns catalog session [] []
  | cons {session : Session} {turn turn' : Turn} {turns turns' : List Turn}
      (first : Alike catalog session.listening turn turn')
      (others : AlikeTurns catalog (next session turn) turns turns') :
      AlikeTurns catalog session (turn :: turns) (turn' :: turns')

/-!
## One turn
-/

theorem answering_respond (catalog : List Product) (text : String) :
    Assistant.answering (Assistant.respond catalog text) =
      .answered (parse text.toList).isRecognized (parse text.toList).kind
        (Assistant.respond catalog text).products.length := by
  unfold Assistant.answering Assistant.respond
  simp only
  cases (parse text.toList).isRecognized <;> rfl

theorem parse_of_recognize? {text : List Char} {shape : Shape} {query : Query}
    (h : recognize? (normalize text) = some (shape, query)) : parse text = query := by
  unfold parse
  rw [h]

theorem parse_of_recognize?_eq_none {text : List Char} (h : recognize? (normalize text) = none) :
    parse text = Query.unrecognized := by
  unfold parse
  rw [h]

theorem AlikeCommands.events_eq {catalog : List Product} {text text' : String}
    (h : AlikeCommands catalog text text') :
    Assistant.events catalog text = Assistant.events catalog text' := by
  have hevents (hunderstanding : Assistant.understanding text = Assistant.understanding text')
      (hrecognized : (parse text.toList).isRecognized = (parse text'.toList).isRecognized)
      (hkind : (parse text.toList).kind = (parse text'.toList).kind)
      (hresults : (Assistant.respond catalog text).products.length =
        (Assistant.respond catalog text').products.length) :
      Assistant.events catalog text = Assistant.events catalog text' := by
    unfold Assistant.events
    rw [hunderstanding, answering_respond, answering_respond, hrecognized, hkind, hresults]
  cases h with
  | understood shape query query' h h' hkind hresults =>
      apply hevents
      · unfold Assistant.understanding
        simp only [h, h', hkind]
      · rw [parse_of_recognize? h, parse_of_recognize? h']
        unfold Query.isRecognized
        rw [hkind]
      · rw [parse_of_recognize? h, parse_of_recognize? h', hkind]
      · exact hresults
  | notUnderstood h h' hlength =>
      apply hevents
      · unfold Assistant.understanding
        simp only [h, h', hlength]
      · rw [parse_of_recognize?_eq_none h, parse_of_recognize?_eq_none h']
      · rw [parse_of_recognize?_eq_none h, parse_of_recognize?_eq_none h']
      · unfold Assistant.respond
        rw [parse_of_recognize?_eq_none h, parse_of_recognize?_eq_none h']

theorem events_signal_update (catalog : List Product) (session : Session) (update : Update) :
    events catalog session (.signal (.update update)) =
      if session.listening then
        if update.isFinal then [.finished update.text.length] else []
      else [.updateIgnored] := by
  show (if !session.listening then _ else _) = _
  cases session.listening <;> rfl

theorem Alike.events_eq {catalog : List Product} {session session' : Session} {turn turn' : Turn}
    (h : Alike catalog session.listening turn turn')
    (hlistening : session.listening = session'.listening) :
    events catalog session turn = events catalog session' turn' := by
  cases h with
  | start =>
      rfl
  | partialText text text' =>
      rw [events_signal_update, events_signal_update, hlistening]
      rfl
  | finalText text text' hlength =>
      rw [events_signal_update, events_signal_update, ← hlistening]
      cases hheard : session.listening with
      | false =>
          rfl
      | true =>
          simp only [hlength hheard]
  | fail =>
      show (if session.listening then _ else _) = if session'.listening then _ else _
      rw [hlistening]
  | stop =>
      rfl
  | command text text' h =>
      exact h.events_eq

theorem Alike.listening_next {catalog : List Product} {session session' : Session}
    {turn turn' : Turn} (h : Alike catalog session.listening turn turn')
    (hlistening : session.listening = session'.listening) :
    (next session turn).listening = (next session' turn').listening := by
  have hupdate (text text' : String) (isFinal : Bool) :
      (session.next (.update ⟨text, isFinal⟩)).listening =
        (session'.next (.update ⟨text', isFinal⟩)).listening := by
    unfold Session.next
    rw [← hlistening]
    cases hheard : session.listening with
    | false =>
        rw [hheard] at hlistening
        exact hlistening ▸ hheard
    | true =>
        rfl
  cases h with
  | start =>
      rfl
  | partialText text text' =>
      exact hupdate text text' false
  | finalText text text' hlength =>
      exact hupdate text text' true
  | fail =>
      rfl
  | stop =>
      rfl
  | command text text' h =>
      exact hlistening

/-!
## Whole conversations
-/

/-- The lines that some turns give to the log, turn by turn. -/
def linesByTurn (catalog : List Product) : Session → List Turn → List (List Log.Line)
  | _, [] => []
  | session, turn :: rest =>
      (events catalog session turn).map Log.Event.line ::
        linesByTurn catalog (next session turn) rest

def lines (catalog : List Product) (session : Session) (turns : List Turn) : List Log.Line :=
  (eventsOf catalog session turns).map Log.Event.line

theorem lines_eq_flatten (catalog : List Product) (session : Session) (turns : List Turn) :
    lines catalog session turns = (linesByTurn catalog session turns).flatten := by
  unfold lines
  induction turns generalizing session with
  | nil =>
      rfl
  | cons turn turns ih =>
      rw [eventsOf, List.map_append, ih, linesByTurn, List.flatten_cons]

theorem AlikeTurns.linesByTurn_eq {catalog : List Product} {session session' : Session}
    {turns turns' : List Turn} (h : AlikeTurns catalog session turns turns')
    (hlistening : session.listening = session'.listening) :
    linesByTurn catalog session turns = linesByTurn catalog session' turns' := by
  induction h generalizing session' with
  | nil session =>
      rfl
  | cons first others ih =>
      rw [linesByTurn, linesByTurn, first.events_eq hlistening,
        ih (first.listening_next hlistening)]

theorem forall₂_linesByTurn (catalog : List Product) (session : Session) (turns : List Turn) :
    List.Forall₂ (fun turn given => ∀ text, turn = .command text → given.length = 2) turns
      (linesByTurn catalog session turns) := by
  induction turns generalizing session with
  | nil =>
      exact List.Forall₂.nil
  | cons turn turns ih =>
      apply List.Forall₂.cons
      · rintro text rfl
        rfl
      · exact ih (next session turn)

/-- Conversations that take the same steps, from sessions that listen alike, give the same lines
to the log at each turn, two of them for a command. -/
theorem lines_eq_of_alike {catalog : List Product} {session session' : Session}
    {turns turns' : List Turn} (hlistening : session.listening = session'.listening)
    (h : AlikeTurns catalog session turns turns') :
    lines catalog session turns = lines catalog session' turns' ∧
      linesByTurn catalog session turns = linesByTurn catalog session' turns' ∧
      List.Forall₂ (fun turn given => ∀ text, turn = .command text → given.length = 2) turns
        (linesByTurn catalog session turns) := by
  have hturns := h.linesByTurn_eq hlistening
  refine ⟨?_, hturns, forall₂_linesByTurn catalog session turns⟩
  rw [lines_eq_flatten, lines_eq_flatten, hturns]

theorem lines_eq_of_alike_topThree :
    let catalog := Catalog.sample (Uuid.supply 0)
    let turns : List Turn := [.signal (.update ⟨"too early", true⟩), .signal .start,
      .signal (.update ⟨"to", false⟩), .signal (.update ⟨"top 3", true⟩), .command "top 3",
      .command "hello", .signal .fail]
    let turns' : List Turn := [.signal (.update ⟨"", true⟩), .signal .start,
      .signal (.update ⟨"bottom", false⟩), .signal (.update ⟨"march", true⟩),
      .command "So, TOP three of all!", .command "salut", .signal .fail]
    Session.idle.listening = Session.idle.listening ∧
      AlikeTurns catalog Session.idle turns turns' ∧
      lines catalog Session.idle turns = lines catalog Session.idle turns' := by
  have htake (products : List Product) :
      ((Query.top 3 none none).answer products).length =
        min 3 (products.filter (Query.top 3 none none).admits).length := by
    show (((products.filter _).mergeSort _).take 3).length = _
    rw [List.length_take, List.length_mergeSort]
  intro catalog turns turns'
  have hheard : recognize? (normalize "top 3".toList) =
      some (.ranked, Query.top 3 none none) := by
    decide +kernel
  have hheard' : recognize? (normalize "So, TOP three of all!".toList) =
      some (.ranked, Query.top 3 none none) := by
    decide +kernel
  have hresults {text : String} (h : parse text.toList = Query.top 3 none none) :
      (Assistant.respond catalog text).products.length = 3 := by
    show ((parse text.toList).answer catalog).length = 3
    rw [h, htake]
    decide +kernel
  have hthree : AlikeCommands catalog "top 3" "So, TOP three of all!" := by
    apply AlikeCommands.understood _ _ _ hheard hheard' rfl
    rw [hresults (parse_of_recognize? hheard), hresults (parse_of_recognize? hheard')]
  have hnothing : AlikeCommands catalog "hello" "salut" :=
    .notUnderstood (by decide +kernel) (by decide +kernel) (by decide +kernel)
  have hlength : "top 3".length = "march".length := by
    decide +kernel
  have halike : AlikeTurns catalog Session.idle turns turns' :=
    .cons (.finalText _ _ (fun h => by cases h)) (.cons .start (.cons (.partialText _ _)
      (.cons (.finalText _ _ (fun _ => hlength)) (.cons (.command _ _ hthree)
        (.cons (.command _ _ hnothing) (.cons .fail (.nil _)))))))
  exact ⟨rfl, halike, (lines_eq_of_alike rfl halike).1⟩

end Conversation
end SpokenSales
