import Retrieval.Fetch.Course
import Retrieval.Fetch.Receiver

/-! Streams: a task and a listener joined by a bounded channel. The task waits while the channel is
full and stops when nobody listens any more; giving a stream up stops its task. -/
namespace Retrieval.Fetch

structure Stream where
  receiver : Receiver
  /-- How many events may wait in the channel. -/
  capacity : Nat
  queue : List Event := []
  /-- What the task has still to do. -/
  steps : List Step
  ending : Ending
  transfer : Transfer
  /-- The listener has given the stream up. -/
  dropped : Bool := false
  /-- The requests that the task has sent, and where to. -/
  sent : List (Request × Target) := []

namespace Stream

def ofCourse (location : String) (capacity : Nat) (mode : Delivery) (c : Course) : Stream :=
  { receiver := ⟨location, false⟩, capacity, steps := c.steps, ending := c.ending
    transfer := { mode } }

def taskGone (s : Stream) : Bool := s.steps.isEmpty && s.ending != .stalled

def awayReport (location : String) : Log.Event :=
  { target := loaderTarget
    level := .debug
    message := "stream consumer went away"
    fields := [⟨"location", .display location⟩] }

/-- What the task notes when nobody takes an event. Whether a failure is taken is not looked at. -/
def unheardReports (location : String) : Event → List Log.Event
  | .error _ => []
  | _ => [awayReport location]

/-- One step of the task, or `none` when it has to wait or has nothing to do. An event that nobody
listens to ends the task. -/
def advance? (s : Stream) : Option (Stream × List Log.Event) :=
  match s.steps with
  | [] => none
  | ⟨.report entry, t⟩ :: rest => some ({ s with steps := rest, transfer := t }, [entry])
  | ⟨.send request target, t⟩ :: rest =>
    some ({ s with steps := rest, transfer := t, sent := s.sent ++ [(request, target)] }, [])
  | ⟨.emit event, t⟩ :: rest =>
    if s.dropped then
      some ({ s with steps := [], ending := .finished, transfer := t },
        unheardReports s.receiver.location event)
    else if s.queue.length < s.capacity then
      some ({ s with queue := s.queue ++ [event], steps := rest, transfer := t }, [])
    else none

def poll (s : Stream) : Poll × Stream × List Log.Event :=
  if s.dropped then (.ended, s, [])
  else
    let polled := s.receiver.poll s.queue s.taskGone
    (polled.result, { s with receiver := polled.receiver, queue := polled.queue }, polled.reports)

def cancel (s : Stream) : Stream :=
  { s with dropped := true, queue := [], steps := [], ending := .finished }

theorem length_steps_of_advance? {s t : Stream} {reports : List Log.Event}
    (h : s.advance? = some (t, reports)) : t.steps.length < s.steps.length := by
  unfold advance? at h
  split at h
  · simp at h
  · rename_i hs
    simp only [Option.some.injEq, Prod.mk.injEq] at h
    simp [← h.1, hs]
  · rename_i hs
    simp only [Option.some.injEq, Prod.mk.injEq] at h
    simp [← h.1, hs]
  · rename_i hs
    split at h
    · simp only [Option.some.injEq, Prod.mk.injEq] at h
      simp [← h.1, hs]
    · split at h
      · simp only [Option.some.injEq, Prod.mk.injEq] at h
        simp [← h.1, hs]
      · simp at h

def settle (s : Stream) : Stream × List Log.Event :=
  match h : s.advance? with
  | none => (s, [])
  | some (next, reports) =>
    have := length_steps_of_advance? h
    let (last, more) := settle next
    (last, reports ++ more)
termination_by s.steps.length

def next (s : Stream) : Poll × Stream × List Log.Event :=
  let (ready, reports) := s.settle
  let (result, after, more) := ready.poll
  (result, after, reports ++ more)

def take : Nat → Stream → List Event × Bool × Stream × List Log.Event
  | 0, s => ([], false, s, [])
  | limit + 1, s =>
    match s.next with
    | (.item event, after, reports) =>
      let (events, ended, last, more) := take limit after
      (event :: events, ended, last, reports ++ more)
    | (.ended, after, reports) => ([], true, after, reports)
    | (.pending, after, reports) => ([], false, after, reports)

/-- More than the number of events that can still come. -/
def bound (s : Stream) : Nat := s.queue.length + s.steps.length + 2

def drain (s : Stream) : List Event × Bool × Stream × List Log.Event := take s.bound s

end Stream
end Retrieval.Fetch
