import Retrieval.Fetch.Acceptance
import Retrieval.Fetch.Event

/-! What the task behind a stream of events does, step by step, as long as somebody listens. The
course of a task depends on its request and on the answer alone; how far it gets, and when, is up to
the stream. -/
namespace Retrieval.Fetch

inductive Act
  | emit (event : Event)
  | report (entry : Log.Event)
  /-- A request goes out. Its answer decides on all acts behind. -/
  | send (request : Request) (target : Target)

/-- An act, and the state of the transfer while it is done. -/
structure Step where
  act : Act
  transfer : Transfer

inductive Ending
  | finished
  /-- The transport broke down, and the task with it. -/
  | crashed
  /-- The task waits for a body that never continues. -/
  | stalled
  deriving DecidableEq

structure Course where
  steps : List Step
  ending : Ending

namespace Course

def stop (ending : Ending) : Course := ⟨[], ending⟩

def after (act : Act) (t : Transfer) (c : Course) : Course :=
  { c with steps := ⟨act, t⟩ :: c.steps }

end Course

def abandon (location : String) (t : Transfer) (cause : LoadError) : Course :=
  match t.apply .fail with
  | .ok failed =>
    ⟨[⟨.report (failureReport location cause), failed⟩, ⟨.emit (.error cause), failed⟩], .finished⟩
  | .error _ =>
    ⟨[⟨.report (lateFailureReport "failure after terminal phase" location cause), t⟩], .finished⟩

def completed (location : String) (t : Transfer) : Course :=
  match guarded t .finish with
  | .error cause => abandon location t cause
  | .ok done =>
    ⟨[⟨.emit .complete, done⟩,
      ⟨.report
        { target := loaderTarget
          level := .debug
          message := "streaming transfer completed"
          fields :=
            [⟨"location", .display location⟩, ⟨"loaded", .number done.progress.loaded⟩] }, done⟩],
      .finished⟩

def eachPiece (location : String) (t : Transfer) : List BodyItem → Course
  | [] => completed location t
  | .chunk data :: rest =>
    if data.isEmpty then eachPiece location t rest
    else
      match guarded t (.data data.length) with
      | .error cause => abandon location t cause
      | .ok next => (eachPiece location next rest).after (.emit (.chunk data next.progress)) next
  | .failure cause :: _ => abandon location t cause
  | .crash :: _ => .stop .crashed
  | .stall :: _ => .stop .stalled
  | .wait _ :: rest => eachPiece location t rest

/-- Hands out one piece with all the data, under its own length instead of running counters. -/
def onePiece (location : String) (t : Transfer) (data : Bytes) : Course :=
  match guarded t (.data data.length) with
  | .error cause => abandon location t cause
  | .ok next =>
    (completed location next).after (.emit (.chunk data ⟨0, data.length⟩)) next

/-- Collects a body and hands it out at its end. `held` are the pieces so far, the last first. -/
def collected (location : String) (t : Transfer) (held : List Bytes) : List BodyItem → Course
  | [] => onePiece location t held.reverse.flatten
  | .chunk data :: rest => collected location t (data :: held) rest
  | .failure cause :: _ => abandon location t cause
  | .crash :: _ => .stop .crashed
  | .stall :: _ => .stop .stalled
  | .wait _ :: rest => collected location t held rest

def deliver (location : String) (t : Transfer) (items : List BodyItem) : Course :=
  match t.mode with
  | .progressive => eachPiece location t items
  | .buffered => collected location t [] items

/-- Status and headers go out before the response is judged. -/
def respond (location : String) (t : Transfer) : Reply → Course
  | .crash => .stop .crashed
  | .refusal cause => abandon location t cause
  | .response r =>
    match guarded t (.headers (r.contentLength.getD 0)) with
    | .error cause => abandon location t cause
    | .ok received =>
      let rest := match accept location r with
        | .error cause => abandon location received cause
        | .ok items => deliver location received items
      rest.after (.emit (.status location r.status r.headers)) received

/-- The whole course of a task. It opens and tells so before the request is sent. -/
def course (request : Request) (target : Target) (mode : Delivery) (answer : Answer) : Course :=
  let location := request.location
  let fresh : Transfer := { mode }
  let rest := match guarded fresh .start with
    | .error cause => abandon location fresh cause
    | .ok opened =>
      let answered := respond location opened answer.reply
      let reported := answer.reports.map fun entry => Step.mk (.report entry) opened
      let asked := { answered with steps := reported ++ answered.steps }
      (asked.after (.send request target) opened).after (.emit .opened) opened
  rest.after
    (.report
      { target := loaderTarget
        level := .debug
        message := "streaming transfer started"
        fields := [⟨"location", .display location⟩, ⟨"mode", .display mode.name⟩] }) fresh

namespace Act

@[simp] def event? : Act → Option Event
  | emit event => some event
  | report _ | send .. => none

@[simp] def entry? : Act → Option Log.Event
  | report entry => some entry
  | emit _ | send .. => none

@[simp] def request? : Act → Option (Request × Target)
  | send request target => some (request, target)
  | emit _ | report _ => none

end Act

def Step.event? (s : Step) : Option Event := s.act.event?

def emitted (steps : List Step) : List Event := steps.filterMap Step.event?

def Course.events (c : Course) : List Event := emitted c.steps

end Retrieval.Fetch
