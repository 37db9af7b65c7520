import Retrieval.Http.Network
import Retrieval.LoadError
import Retrieval.Log.Event
import Retrieval.Request
import Retrieval.Target
import Retrieval.Text.Quoted

/-! Transports. A transport is asked with a request and its target, and answers with a response
whose body comes in pieces. It may also refuse, or break down, before or in the middle of a
body. -/
namespace Retrieval

/-- Names and values, in the order of arrival. -/
abbrev Headers := List (String × Bytes)

inductive BodyItem
  | chunk (data : Bytes)
  | failure (cause : LoadError)
  /-- The transport breaks down. -/
  | crash
  /-- Nothing ever follows. -/
  | stall
  /-- Something follows after a while. -/
  | wait (turns : Nat)

structure Response where
  /-- Zero for schemes without status codes. -/
  status : Nat
  statusText : String := ""
  headers : Headers := []
  /-- The length that is announced. -/
  contentLength : Option Nat := none
  /-- Without one there is no payload at all. -/
  body : Option (List BodyItem)

namespace Response

/-- Status 200, or 0 for schemes without status codes. -/
def isSuccess (r : Response) : Bool := r.status == 200 || r.status == 0

/-- A line that shows all but the headers and the bytes. -/
def summary (r : Response) : String :=
  let length := match r.contentLength with
    | some n => "Some(" ++ toString n ++ ")"
    | none => "None"
  "TransportResponse \x7b status: " ++ toString r.status
    ++ ", status_text: " ++ quoted r.statusText
    ++ ", content_length: " ++ length
    ++ ", has_body: " ++ toString r.body.isSome ++ ", .. \x7d"

end Response

inductive Reply
  | response (r : Response)
  | refusal (cause : LoadError)
  /-- The transport breaks down before it answers. -/
  | crash

inductive Access
  | file (path : Bytes)
  | host (message : Http.Message)

/-- What comes back for one request, and what the transport reported and touched on the way. -/
structure Answer where
  reply : Reply
  reports : List Log.Event := []
  accesses : List Access := []

structure Transport where
  /-- Whether bodies can be handed out before they end. -/
  progressive : Bool
  /-- The answer to the request of that number, counted from zero. -/
  send : Nat → Request → Target → Answer

namespace Transport

/-- The largest buffer that can be asked for. -/
def maxBuffer : Nat := 0x7FFFFFFFFFFFFFFF

/-- A transport with prepared answers: each request gets the next one, and the last one answers
all further requests. -/
def scripted (progressive : Bool) (replies : List Reply) : Transport where
  progressive
  send n _ _ := { reply := (replies[n]?.or replies.getLast?).getD .crash }

end Transport
end Retrieval
