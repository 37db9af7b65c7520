import Retrieval.Transport.Basic

/-! The events of a retrieval that is followed as it goes on. -/
namespace Retrieval.Fetch

inductive Event
  | opened
  | status (location : String) (status : Nat) (headers : Headers)
  | chunk (data : Bytes) (progress : Progress)
  | complete
  | error (cause : LoadError)

def Event.isTerminal : Event → Bool
  | complete => true
  | error _ => true
  | _ => false

end Retrieval.Fetch
