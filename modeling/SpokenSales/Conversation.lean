import SpokenSales.Assistant
import SpokenSales.Session

/-!
# Conversations

A conversation is a sequence of recognizer signals and of commands put to the assistant.  What it
writes to the log depends on the length and the meaning of what was said, not on the words.
-/

namespace SpokenSales

inductive Turn
  | signal (signal : Signal)
  | command (text : String)
deriving DecidableEq, Repr

namespace Conversation

def next (session : Session) : Turn → Session
  | .signal signal => session.next signal
  | .command _ => session

def events (catalog : List Product) (session : Session) : Turn → List Log.Event
  | .signal signal => session.events signal
  | .command text => Assistant.events catalog text

def eventsOf (catalog : List Product) : Session → List Turn → List Log.Event
  | _, [] => []
  | session, turn :: rest =>
      events catalog session turn ++ eventsOf catalog (next session turn) rest

end Conversation
end SpokenSales
