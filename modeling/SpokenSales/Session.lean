import SpokenSales.Log.Event

/-!
# Recognizer sessions

A speech recognizer sends its best transcription so far, again and again, until it sends the
final one.  A session keeps the latest text and whether the recognizer is listening.  Updates
that come while it is not listening are ignored.
-/

namespace SpokenSales

/-- A transcription from the recognizer, complete and not just what was added. -/
structure Update where
  text : String
  isFinal : Bool
deriving DecidableEq, Repr

inductive Signal
  | start
  | update (update : Update)
  | fail
  | stop
deriving DecidableEq, Repr

structure Session where
  text : String
  listening : Bool
deriving DecidableEq, Repr

namespace Session

def idle : Session := ⟨"", false⟩

def next (session : Session) : Signal → Session
  | .start => ⟨"", true⟩
  | .update update => if session.listening then ⟨update.text, !update.isFinal⟩ else session
  | .fail => ⟨session.text, false⟩
  | .stop => ⟨session.text, false⟩

/-- The text that a signal hands over: the finished command, or the text heard when the user
stopped. -/
def result? (session : Session) : Signal → Option String
  | .update update => if session.listening && update.isFinal then some update.text else none
  | .stop => some session.text
  | .start | .fail => none

def events (session : Session) : Signal → List Log.Event
  | .start => [.listening]
  | .update update =>
      if !session.listening then [.updateIgnored]
      else if update.isFinal then [.finished update.text.length]
      else []
  | .fail => if session.listening then [.recognizerFailed] else []
  | .stop => []

def run (session : Session) (signals : List Signal) : Session :=
  signals.foldl next session

end Session
end SpokenSales
