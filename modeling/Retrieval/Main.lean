import Retrieval.Cli.Run
import Std.Time.Format

/-! The program. It looks at the files that a command can touch, runs the command on them, and writes
down what that leaves. No host can be reached from here. -/
namespace Retrieval.Cli

open Storage (FileSystem Place)

def placeOf (files : FileSystem) (path : Bytes) : Place :=
  (FileSystem.components path).foldl
    (fun place name =>
      if name = [] ∨ name = utf8 "." then place
      else if name = utf8 ".." then place.dropLast
      else place ++ [name])
    (if FileSystem.isAbsolute path then [] else files.current)

def errorCode : IO.Error → UInt32
  | .alreadyExists _ n _ | .otherError n _ | .resourceBusy n _ | .resourceVanished n _
  | .unsupportedOperation n _ | .hardwareFault n _ | .unsatisfiedConstraints n _
  | .illegalOperation n _ | .protocolError n _ | .timeExpired n _ | .interrupted _ n _
  | .noFileOrDirectory _ n _ | .invalidArgument _ n _ | .permissionDenied _ n _
  | .resourceExhausted _ n _ | .inappropriateType _ n _ | .noSuchThing _ n _ => n
  | .unexpectedEof | .userError _ => 5

def failureOf (cause : IO.Error) : Storage.Failure := .system (errorCode cause).toNat

def addSource (files : FileSystem) (path : Bytes) : IO FileSystem := do
  match Utf8.strict? path with
  | none => return files
  | some name =>
    let place := placeOf files path
    match ← (IO.FS.readBinFile (String.ofList name)).toBaseIO with
    | .ok content => return files.plant place (.file content.toList)
    | .error cause =>
      return if failureOf cause = .isDirectory then
        files.plant place .directory
      else files

/-- The files that a command can touch. The directory of the output is taken to be there. -/
def filesFor (c : FetchCommand) : IO FileSystem := do
  let root : FileSystem := { entries := [] }
  let here := placeOf root (utf8 (← IO.currentDir).toString)
  let mut files := { root.plant here .directory with current := here }
  if let some path := c.output then
    files := files.plant (placeOf files (utf8 path)).dropLast .directory
  match Target.resolve c.location c.baseUrl with
  | .ok (.file path) => addSource files path
  | _ => return files

def timestamp : IO String := do
  let now ← Std.Time.Timestamp.now
  let t := Std.Time.PlainDateTime.ofWallTime (Std.Time.WallTime.ofDuration now.val)
  return t.format "uuuu-MM-dd'T'HH:mm:ss.SSSSSS'Z'"

def complain (cause : RunError) : IO UInt32 := do
  IO.eprintln ("Error: " ++ ": ".intercalate (cause.message :: cause.causes))
  return 1

def writeFile (c : FetchCommand) (path : String) (content : Bytes) : IO (Option RunError) := do
  match ← (IO.FS.Handle.mk path .write).toBaseIO with
  | .error cause =>
    return some (if c.stream then .create path (failureOf cause) else .write path (failureOf cause))
  | .ok handle =>
    let writing : IO Unit := do
      handle.write ⟨content.toArray⟩
      handle.flush
    match ← writing.toBaseIO with
    | .error cause =>
      return some (if c.stream then .flush (failureOf cause) else .write path (failureOf cause))
    | .ok _ => return none

def writeOutput (c : FetchCommand) (before after : FileSystem) : IO (Option RunError) := do
  match c.output with
  | none => return none
  | some path =>
    let place := placeOf before (utf8 path)
    match after.node? place with
    | some (.file content) =>
      if before.node? place = some (.file content) then return none
      else writeFile c path content
    | _ => return none

def execute (i : Invocation) : IO UInt32 := do
  let files ← filesFor i.fetch
  let time ← timestamp
  let environment : Log.Environment :=
    { level := ← IO.getEnv "RUST_LOG", hour := String.ofList (time.toList.take 13) }
  let outcome := i.run { files } environment false
  let times ← (outcome.log.sinks.stdout.getD []).mapM fun _ => timestamp
  IO.print (outcome.log.close fun _ n => times.getD n time).1
  let failure ← writeOutput i.fetch files outcome.files
  match failure, outcome.result with
  | _, some (.error cause) => complain cause
  | some cause, _ => complain cause
  | none, some (.ok report) =>
    IO.println report
    return 0
  | none, none => return 1

end Retrieval.Cli

open Retrieval.Cli in
def main (words : List String) : IO UInt32 := do
  match Invocation.ofWords words with
  | .ok i => execute i
  | .error stop =>
    if stop.exitCode = 0 then IO.print stop.message else IO.eprint stop.message
    return UInt32.ofNat stop.exitCode
