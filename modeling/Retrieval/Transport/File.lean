import Retrieval.Config
import Retrieval.Storage.FileSystem
import Retrieval.Transport.Basic

/-! The transport for local files. A file that cannot be opened gives a response without payload,
whose status text says why. -/
namespace Retrieval.Transport

/-- How much is read at a time; zero counts as one. -/
def chunkSize (config : Config) : Nat := max config.fileChunkSize.toNat 1

/-- The body of an open file. The bytes come in the pieces that a reader with a buffer of this size
finds, up to the first failure. -/
def fileBody (read : Nat → Bytes → List Bytes) (location : String) (size : Nat)
    (source : Storage.Source) : List BodyItem :=
  (read size source.content).map .chunk ++
    source.failure.toList.map fun cause => .failure (.fileRead location cause)

def fileHeaders : Option Nat → Headers
  | some length => [("content-length", utf8 (toString length))]
  | none => []

/-- The response for a local path, and the note of a failure to open it. The buffer is asked for
once the file is open, and asking for one that is too large breaks the transport down. -/
def openFile (config : Config) (files : Storage.FileSystem) (location : String) (path : Bytes)
    (read : Nat → Bytes → List Bytes := Bytes.pieces) : Answer :=
  match files.openSource path with
  | .error cause =>
    { reply := .response { status := 0, statusText := cause.message, body := none }
      accesses := [.file path]
      reports :=
        [{ target := "resload_loader::transport::file"
           level := .debug
           message := "cannot open local resource"
           fields :=
            [⟨"path", .display (Utf8.lenient path)⟩, ⟨"error", .display cause.message⟩] }] }
  | .ok source =>
    if chunkSize config > maxBuffer then { reply := .crash, accesses := [.file path] }
    else
      { accesses := [.file path]
        reply := .response
          { status := 0
            headers := fileHeaders source.length
            contentLength := source.length
            body := some (fileBody read location (chunkSize config) source) } }

/-- Reads local files, each piece filled unless the reader does otherwise. -/
def file (config : Config) (files : Storage.FileSystem)
    (read : Nat → Bytes → List Bytes := Bytes.pieces) : Transport where
  progressive := config.progressive
  send _ request target :=
    match target with
    | .http _ => { reply := .refusal (.unsupportedScheme request.location "http") }
    | .file path => openFile config files request.location path read

end Retrieval.Transport
