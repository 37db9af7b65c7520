import Retrieval.Fetch.Handlers
import Retrieval.Fetch.Whole
import Retrieval.Transport.File
import Retrieval.Transport.Http

/-! A loader is bound to one request. Each retrieval sends the request anew and is not repeated when
it fails. -/
namespace Retrieval

structure Surroundings where
  files : Storage.FileSystem
  network : Http.Network := .none

structure Loader where
  request : Request
  target : Target
  transport : Transport
  /-- How many events may wait for the listener of a stream. -/
  capacity : Nat

namespace Loader

/-- The capacity of a stream's channel; zero counts as one. -/
def channelCapacity (config : Config) : Nat := max config.eventBuffer.toNat 1

def maxChannelCapacity : Nat := 0x1FFFFFFFFFFFFFFF

def withTransport (request : Request) (transport : Transport) (config : Config) :
    Except LoadError Loader :=
  match Target.resolve request.location config.baseUrl with
  | .error cause => .error cause
  | .ok target => .ok ⟨request, target, transport, channelCapacity config⟩

def create (request : Request) (config : Config) (around : Surroundings) :
    Except LoadError Loader :=
  match Target.resolve request.location config.baseUrl with
  | .error cause => .error cause
  | .ok (.http url) =>
    match Transport.http config around.network with
    | .error cause => .error cause
    | .ok transport => .ok ⟨request, .http url, transport, channelCapacity config⟩
  | .ok (.file path) =>
    .ok ⟨request, .file path, .file config around.files, channelCapacity config⟩

/-- The answer to the request when it is sent for the `n`-th time, counted from zero. -/
def answer (l : Loader) (n : Nat) : Answer := l.transport.send n l.request l.target

def delivery (l : Loader) : Delivery := .ofSupport l.transport.progressive

def whole (l : Loader) (n : Nat) : Fetch.Whole := Fetch.whole l.request l.target (l.answer n)

def course (l : Loader) (n : Nat) : Fetch.Course :=
  Fetch.course l.request l.target l.delivery (l.answer n)

def stream? (l : Loader) (n : Nat) : Option Fetch.Stream :=
  if l.capacity ≤ maxChannelCapacity then
    some (.ofCourse l.request.location l.capacity l.delivery (l.course n))
  else none

end Loader
end Retrieval
