import Astra.Platform.Python

/-!
# The wire format of the event stream

`encode_sse` and the keep-alive comment.  `json.dumps` belongs to the Python library:
its compact output is one line of text that opens an object.
-/

namespace Astra.Chat

open Astra.Platform

inductive EventName where
  | messageCreated
  | messageDelta
  | messageCompleted
  | error

def EventName.text : EventName → String
  | .messageCreated => "message.created"
  | .messageDelta => "message.delta"
  | .messageCompleted => "message.completed"
  | .error => "error"

/-- `json.dumps(data, ensure_ascii=False, separators=(",", ":"), default=str)`. -/
structure JsonDumps where
  dumps : Dict → String
  no_lf : ∀ data, '\n' ∉ (dumps data).toList
  no_cr : ∀ data, '\r' ∉ (dumps data).toList
  opens : ∀ data, ∃ rest, (dumps data).toList = '\x7b' :: rest

def encodeSse (json : JsonDumps) (event : EventName) (data : Dict) : String :=
  "event: " ++ event.text ++ "\ndata: " ++ json.dumps data ++ "\n\n"

/-- What the stream yields as one piece of text. -/
inductive ServerFrame where
  | event (name : EventName) (data : Dict)
  | keepAlive

def ServerFrame.text (json : JsonDumps) : ServerFrame → String
  | .event name data => encodeSse json name data
  | .keepAlive => ": keep-alive\n\n"

end Astra.Chat
