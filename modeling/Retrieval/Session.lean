import Retrieval.Loader

/-! A loader in use: retrievals one after another, and streams that are open at the same time. -/
namespace Retrieval

structure Session where
  loader : Loader
  /-- What the retrievals that are over have sent, and where to. -/
  sent : List (Request × Target) := []
  /-- How many streams were opened under a name. The request of each has its number from then on. -/
  begun : Nat := 0
  /-- The open streams by name, the latest first. -/
  streams : List (String × Fetch.Stream) := []

namespace Session

def count (s : Session) : Nat := s.sent.length + s.begun

/-- A retrieval is over that has sent these requests. -/
def noting (s : Session) (requests : List (Request × Target)) : Session :=
  { s with sent := s.sent ++ requests }

def whole (s : Session) : Fetch.Whole × Session :=
  let whole := s.loader.whole s.count
  (whole, s.noting whole.sent)

def stream? (s : Session) : Option Fetch.Stream := s.loader.stream? s.count

def handle? (s : Session) (handlers : Fetch.Handlers) :
    Option (List Fetch.Call × List Log.Event × Session) :=
  s.stream?.map fun stream =>
    let (calls, last, reports) := handlers.follow stream.bound stream
    (calls, reports, s.noting last.sent)

/-- Opens a stream under a name. An earlier one of that name is given up. -/
def start? (s : Session) (name : String) : Option Session :=
  s.stream?.map fun stream =>
    { s with begun := s.begun + 1, streams := (name, stream) :: s.streams.filter (·.1 != name) }

def next? (s : Session) (name : String) : Option (Fetch.Poll × List Log.Event × Session) :=
  (s.streams.lookup name).map fun stream =>
    let (result, after, reports) := stream.next
    (result, reports,
      { s with streams := s.streams.map fun (n, old) => (n, if n = name then after else old) })

def cancel? (s : Session) (name : String) : Option Session :=
  (s.streams.lookup name).map fun _ => { s with streams := s.streams.filter (·.1 != name) }

end Session
end Retrieval
