import Retrieval.Fetch.Acceptance

/-! Fetching a resource as one payload. -/
namespace Retrieval.Fetch

inductive Outcome
  | payload (data : Bytes)
  | failure (cause : LoadError)
  /-- The transport broke down. -/
  | crashed
  /-- The body never ends. -/
  | stalled

/-- What a retrieval that came to an end is told as: a failure by its reason alone. -/
inductive Result
  | success (data : Bytes)
  | failure (reason : String)

def Result.isSuccess : Result → Bool
  | success _ => true
  | failure _ => false

def Outcome.result? : Outcome → Option Result
  | payload data => some (.success data)
  | failure cause => some (.failure cause.reason)
  | crashed | stalled => none

def Outcome.prepend (data : Bytes) : Outcome → Outcome
  | payload rest => payload (data ++ rest)
  | other => other

/-- What reading came to. The counters are those after each piece. -/
structure Whole where
  progress : List Progress := []
  outcome : Outcome
  transfer : Transfer
  reports : List Log.Event := []
  /-- The requests that went out, and where to. -/
  sent : List (Request × Target) := []

def readWhole (t : Transfer) : List BodyItem → Whole
  | [] =>
    match guarded t .finish with
    | .ok done => { outcome := .payload [], transfer := done }
    | .error cause => { outcome := .failure cause, transfer := t }
  | .chunk data :: rest =>
    if data.isEmpty then readWhole t rest
    else
      match guarded t (.data data.length) with
      | .ok next =>
        let whole := readWhole next rest
        { whole with
          progress := next.progress :: whole.progress
          outcome := whole.outcome.prepend data }
      | .error cause => { outcome := .failure cause, transfer := t }
  | .failure cause :: _ => { outcome := .failure cause, transfer := t }
  | .crash :: _ => { outcome := .crashed, transfer := t }
  | .stall :: _ => { outcome := .stalled, transfer := t }
  | .wait _ :: rest => readWhole t rest

/-- The most that is asked for on the strength of an announced length. -/
def maxPrealloc : Nat := 16 * 1024 * 1024

/-- How large a buffer is asked for before the body comes, as a number of 64 bits. -/
def reserved (total : Nat) : Nat := (UInt64.ofNat (min total maxPrealloc)).toNat

/-- Reads the answer to a request, up to the point where a failure would be reported. A buffer that
is too large to be asked for would break the retrieval down. -/
def readAnswer (location : String) (t : Transfer) : Reply → Whole
  | .crash => { outcome := .crashed, transfer := t }
  | .refusal cause => { outcome := .failure cause, transfer := t }
  | .response r =>
    let total := r.contentLength.getD 0
    match guarded t (.headers total) with
    | .error cause => { outcome := .failure cause, transfer := t }
    | .ok received =>
      match accept location r with
      | .error cause => { outcome := .failure cause, transfer := received }
      | .ok items =>
        if reserved total > Transport.maxBuffer then { outcome := .crashed, transfer := received }
        else readWhole received items

def conclude (location : String) (whole : Whole) : Whole :=
  match whole.outcome with
  | .failure cause =>
    match whole.transfer.apply .fail with
    | .ok failed =>
      { whole with transfer := failed, reports := whole.reports ++ [failureReport location cause] }
    | .error _ =>
      { whole with
        reports := whole.reports
          ++ [lateFailureReport "whole fetch failed after completion" location cause,
            failureReport location cause] }
  | _ => whole

def whole (request : Request) (target : Target) (answer : Answer) : Whole :=
  let fresh : Transfer := { mode := .buffered }
  match guarded fresh .start with
  | .error cause => conclude request.location { outcome := .failure cause, transfer := fresh }
  | .ok opened =>
    let read := readAnswer request.location opened answer.reply
    conclude request.location
      { read with
        reports := answer.reports ++ read.reports
        sent := (request, target) :: read.sent }

end Retrieval.Fetch
