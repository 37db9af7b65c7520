import Retrieval.Http.Failure
import Retrieval.Storage.Failure
import Retrieval.Transfer
import Retrieval.Url.Error

/-! Why a resource could not be retrieved. -/
namespace Retrieval

inductive LoadError
  | network (location : String) (cause : Http.Failure)
  | http (location : String) (status : Nat) (statusText : String)
  | nullPayload (location : String) (statusText : String)
  | fileRead (location : String) (cause : Storage.Failure)
  | invalidLocation (location : String) (cause : Url.Error)
  | unsupportedScheme (location : String) (scheme : String)
  | illegalTransition (cause : IllegalTransition)
  | clientBuild (cause : Http.Failure)
  | taskAborted (location : String)

namespace LoadError

def message : LoadError → String
  | network location cause => "Network error for " ++ location ++ ": " ++ cause.message
  | http location status statusText =>
    "HTTP error " ++ toString status ++ " (" ++ statusText ++ ") for location: " ++ location
  | nullPayload location _ => "No response payload for location: " ++ location
  | fileRead location cause => "File read error for " ++ location ++ ": " ++ cause.message
  | invalidLocation location cause => "Invalid location " ++ location ++ ": " ++ cause.message
  | unsupportedScheme location scheme =>
    "Unsupported scheme " ++ scheme ++ " in location: " ++ location
  | illegalTransition cause =>
    "Illegal transfer event " ++ cause.operation ++ " in phase " ++ cause.phase.name
  | clientBuild cause => "Failed to build HTTP client: " ++ cause.message
  | taskAborted location => "Transfer of " ++ location ++ " stopped before finishing"

def causes : LoadError → List String
  | network _ cause => cause.message :: cause.causes
  | fileRead _ cause => [cause.message]
  | invalidLocation _ cause => [cause.message]
  | clientBuild cause => cause.message :: cause.causes
  | _ => []

/-- The reason given to the user: the status text where the other side sent one, a status without
text by its number, and the message in all other cases. -/
def reason (e : LoadError) : String :=
  match e with
  | http _ status statusText => if statusText = "" then "HTTP " ++ toString status else statusText
  | nullPayload _ statusText => if statusText = "" then e.message else statusText
  | _ => e.message

/-- Whether the other side failed, and not the program or its settings. -/
def isTransportFailure : LoadError → Bool
  | network .. | http .. | nullPayload .. | fileRead .. => true
  | _ => false

end LoadError
end Retrieval
