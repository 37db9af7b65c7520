import Retrieval.Fetch.Event

/-! The listener's side of a channel of events. It ends the events at the first terminal one; if
the sender goes away without one, it puts an error in its place. -/
namespace Retrieval.Fetch

inductive Poll
  | pending
  | ended
  | item (event : Event)

structure Receiver where
  /-- The location that events are about. -/
  location : String
  /-- A terminal event has been given. -/
  finished : Bool := false

structure Polled where
  result : Poll
  receiver : Receiver
  queue : List Event
  reports : List Log.Event := []

def abortReport (location : String) : Log.Event :=
  { target := "resload_loader::stream"
    level := .error
    message := "transfer task ended without a terminal event"
    fields := [⟨"location", .display location⟩] }

def Receiver.poll (r : Receiver) (queue : List Event) (senderGone : Bool) : Polled :=
  if r.finished then ⟨.ended, r, queue, []⟩
  else
    match queue with
    | event :: rest => ⟨.item event, { r with finished := event.isTerminal }, rest, []⟩
    | [] =>
      if senderGone then
        ⟨.item (.error (.taskAborted r.location)), ⟨"", true⟩, [], [abortReport r.location]⟩
      else ⟨.pending, r, [], []⟩

end Retrieval.Fetch
