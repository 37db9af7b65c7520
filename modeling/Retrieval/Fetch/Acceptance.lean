import Retrieval.Transport.Basic

/-! When a response is worth reading, and how failures are reported. -/
namespace Retrieval.Fetch

def loaderTarget : String := "resload_loader::loader"

/-- The body of a response. The status comes first: a response with an error status is refused
whatever its body, and one without payload after that. -/
def accept (location : String) (r : Response) : Except LoadError (List BodyItem) :=
  if r.isSuccess then
    match r.body with
    | some items => .ok items
    | none => .error (.nullPayload location r.statusText)
  else .error (.http location r.status r.statusText)

/-- The one diagnostic of a failed retrieval: a warning where the other side failed, and an error
otherwise. -/
def failureReport (location : String) (cause : LoadError) : Log.Event :=
  if cause.isTransportFailure then
    { target := loaderTarget
      level := .warn
      message := "Path: " ++ location ++ " not found"
      fields := [⟨"location", .text location⟩, ⟨"reason", .display cause.reason⟩] }
  else
    { target := loaderTarget
      level := .error
      message := "resource fetch failed"
      fields := [⟨"location", .text location⟩, ⟨"error", .display cause.message⟩] }

def lateFailureReport (message location : String) (cause : LoadError) : Log.Event :=
  { target := loaderTarget
    level := .error
    message
    fields := [⟨"location", .display location⟩, ⟨"error", .display cause.message⟩] }

def guarded (t : Transfer) (op : Transfer.Operation) : Except LoadError Transfer :=
  match t.apply op with
  | .ok next => .ok next
  | .error cause => .error (.illegalTransition cause)

end Retrieval.Fetch
