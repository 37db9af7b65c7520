import Retrieval.Url.Parse

/-! The settings of a loader. -/
namespace Retrieval

structure Config where
  /-- What relative locations are read against. Without one they are local paths. -/
  baseUrl : Option Url := none
  userAgent : Option String := none
  /-- In milliseconds. Without one, a transfer waits as long as it takes. -/
  timeout : Option Int := none
  /-- Whether bodies are handed out piece by piece. -/
  progressive : Bool := true
  /-- How much is read from a local file at a time. -/
  fileChunkSize : UInt64 := 65536
  /-- How many events wait for a slow reader before the transfer does. -/
  eventBuffer : UInt64 := 32

end Retrieval
