import Retrieval.Fetch.Stream

/-! Handing the events of a stream to handlers. A piece of data and a failure are always handled;
the other events only where a handler is set. All but the handler for data are called once at
most. -/
namespace Retrieval.Fetch

structure Handlers where
  onOpen : Bool := false
  onStatus : Bool := false
  onComplete : Bool := false
  onError : Bool := true

inductive Call
  | opened
  | status (location : String) (status : Nat) (headers : Headers)
  | chunk (data : Bytes) (progress : Progress)
  | complete
  | error (reason : String)

namespace Handlers

/-- The calls for one event, the handlers that are left, and whether it was the last event. -/
def dispatch (h : Handlers) : Event → List Call × Handlers × Bool
  | .opened => (if h.onOpen then [.opened] else [], { h with onOpen := false }, false)
  | .status location code headers =>
    (if h.onStatus then [.status location code headers] else [], { h with onStatus := false }, false)
  | .chunk data progress => ([.chunk data progress], h, false)
  | .complete => (if h.onComplete then [.complete] else [], { h with onComplete := false }, true)
  | .error cause => (if h.onError then [.error cause.reason] else [], { h with onError := false }, true)

def run (h : Handlers) : List Event → List Call
  | [] => []
  | event :: rest =>
    match h.dispatch event with
    | (calls, _, true) => calls
    | (calls, next, false) => calls ++ next.run rest

def follow : Nat → Handlers → Stream → List Call × Stream × List Log.Event
  | 0, _, s => ([], s, [])
  | limit + 1, h, s =>
    match s.next with
    | (.item event, after, reports) =>
      match h.dispatch event with
      | (calls, _, true) => (calls, after, reports)
      | (calls, rest, false) =>
        let (further, last, more) := follow limit rest after
        (calls ++ further, last, reports ++ more)
    | (_, after, reports) => ([], after, reports)

end Handlers
end Retrieval.Fetch
