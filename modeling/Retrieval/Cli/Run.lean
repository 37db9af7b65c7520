import Retrieval.Cli.Invocation
import Retrieval.Loader
import Retrieval.Log.State
import Retrieval.Storage.Writer

/-! Running a command: what it reports, what it leaves in the files, and how it fails. -/
namespace Retrieval.Cli

open Storage (FileSystem Writer)

inductive RunError
  | logging (cause : Log.SetupError)
  | load (location : String) (cause : LoadError)
  | fetch (location reason : String)
  | create (path : String) (cause : Storage.Failure)
  | write (path : String) (cause : Storage.Failure)
  | writeChunk (cause : Storage.Failure)
  | flush (cause : Storage.Failure)
  | incomplete (location : String)
  | interrupted

namespace RunError

def message : RunError → String
  | logging _ => "failed to initialize logging"
  | load location _ => "cannot load " ++ location
  | fetch location reason => "failed to fetch " ++ location ++ ": " ++ reason
  | create path _ => "failed to create " ++ path
  | write path _ => "failed to write " ++ path
  | writeChunk _ => "failed to write chunk"
  | flush _ => "failed to flush output"
  | incomplete location => "transfer of " ++ location ++ " ended without completing"
  | interrupted => "interrupted"

def causes : RunError → List String
  | logging cause => cause.message :: cause.causes
  | load _ cause => cause.message :: cause.causes
  | create _ cause | write _ cause | writeChunk cause | flush cause => [cause.message]
  | fetch _ _ | incomplete _ | interrupted => []

end RunError

structure Run where
  /-- The line it reports, or its failure; nothing if it never comes to an end. -/
  result : Option (Except RunError String)
  files : FileSystem
  /-- The diagnostics, in order. -/
  events : List Log.Event := []

def entry (level : Log.Level) (message : String) (fields : List Log.Field) : Log.Event :=
  { target := programName, level, message, fields }

namespace FetchCommand

def request (c : FetchCommand) : Request :=
  { location := c.location
    method := c.method
    contentType := c.contentType
    body := c.data.map utf8 }

def config (c : FetchCommand) : Config :=
  { baseUrl := c.baseUrl
    userAgent := some (programName ++ "/" ++ programVersion)
    progressive := c.progressive }

def loader (c : FetchCommand) (around : Surroundings) : Except RunError Loader :=
  match Loader.create c.request c.config around with
  | .ok l => .ok l
  | .error cause => .error (.load c.location cause)

def report (c : FetchCommand) (length : Nat) : String :=
  c.location ++ ": " ++ toString length ++ " bytes"
    ++ (c.output.map fun path => " written to " ++ path).getD ""

def progressEntry (p : Progress) : Log.Event :=
  entry .debug "progress" [⟨"loaded", .number p.loaded⟩, ⟨"total", .number p.total⟩]

/-- Saves a payload at once, with its file opened only now. -/
def save (c : FetchCommand) (files : FileSystem) (data : Bytes) :
    Except RunError String × FileSystem :=
  match c.output with
  | none => (.ok (c.report data.length), files)
  | some path =>
    match files.openSink (utf8 path) true with
    | .error cause => (.error (.write path cause), files)
    | .ok (place, opened) =>
      match opened.append place data with
      | .error cause => (.error (.write path cause), opened)
      | .ok written => (.ok (c.report data.length), written)

def runWhole (c : FetchCommand) (around : Surroundings) : Run :=
  match c.loader around with
  | .error cause => { result := some (.error cause), files := around.files }
  | .ok loader =>
    let whole := loader.whole 0
    let events := whole.progress.map progressEntry ++ whole.reports
    match whole.outcome.result? with
    | some (.success data) =>
      let (result, files) := c.save around.files data
      { result := some result, files, events }
    | some (.failure reason) =>
      { result := some (.error (.fetch c.location reason)), files := around.files, events }
    | none => { result := none, files := around.files, events }

inductive Reception
  | completed (length : Nat)
  | failed (cause : RunError)
  /-- The events are over, and the transfer is not. -/
  | unfinished

structure Received where
  reception : Reception
  writer : Writer
  events : List Log.Event := []

def Received.after (e : Log.Event) (r : Received) : Received := { r with events := e :: r.events }

/-- Takes in the events of a stream and writes each piece as it comes. `length` counts the bytes so
far. -/
def receive (location : String) (w : Writer) (length : Nat) : List Fetch.Event → Received
  | [] => { reception := .unfinished, writer := w }
  | .opened :: rest =>
    (receive location w length rest).after
      (entry .debug "opened" [⟨"location", .display location⟩])
  | .status place code _ :: rest =>
    (receive location w length rest).after
      (entry .info "headers received" [⟨"location", .display place⟩, ⟨"status", .number code⟩])
  | .chunk data p :: rest =>
    let next : Received :=
      match w.write data with
      | (some cause, after) => { reception := .failed (.writeChunk cause), writer := after }
      | (none, after) => receive location after (length + data.length) rest
    next.after
      (entry .debug "chunk"
        [⟨"len", .number data.length⟩, ⟨"loaded", .number p.loaded⟩, ⟨"total", .number p.total⟩])
  | .complete :: _ => { reception := .completed length, writer := w }
  | .error cause :: _ =>
    { reception := .failed (.fetch location cause.reason), writer := w }

/-- The file for the payload, made or emptied before anything is fetched. -/
def createOutput (c : FetchCommand) (files : FileSystem) : Except RunError Writer :=
  match c.output with
  | none => .ok { files, place := none }
  | some path =>
    match Writer.create files (utf8 path) with
    | .ok w => .ok w
    | .error cause => .error (.create path cause)

/-- The result of taking in all events; `ended` says that the stream has ended. -/
def Received.result (r : Received) (c : FetchCommand) (ended : Bool) :
    Option (Except RunError String) :=
  match r.reception with
  | .failed cause => some (.error cause)
  | .unfinished => if ended then some (.error (.incomplete c.location)) else none
  | .completed length =>
    match r.writer.unseen with
    | some cause => some (.error (.flush cause))
    | none => some (.ok (c.report length))

def follow (c : FetchCommand) (w : Writer) (stream : Fetch.Stream) : Run :=
  let (events, ended, _, reports) := stream.drain
  let received := receive c.location w 0 events
  { result := received.result c ended
    files := received.writer.files
    events := reports ++ received.events }

/-- Fetches the payload piece by piece into a file that is emptied at the start. A resource that
is that very file is empty by then. -/
def runStreaming (c : FetchCommand) (around : Surroundings) : Run :=
  let prepared : Except RunError (Writer × Loader) := do
    let _ ← c.loader around
    let w ← c.createOutput around.files
    let loader ← c.loader { around with files := w.files }
    return (w, loader)
  match prepared with
  | .error cause => { result := some (.error cause), files := around.files }
  | .ok (w, loader) =>
    match loader.stream? 0 with
    | none => { result := none, files := w.files }
    | some stream => c.follow w stream

def run (c : FetchCommand) (around : Surroundings) : Run :=
  if c.stream then c.runStreaming around else c.runWhole around

end FetchCommand

/-- Waits for a task unless an interrupt comes while it is still going on. -/
def untilInterrupted {ε α : Type} (stop : ε) (task : Option (Except ε α)) (interrupt : Bool) :
    Option (Except ε α) × List Log.Event :=
  match task with
  | some result => (some result, [])
  | none => if interrupt then (some (.error stop), [entry .warn "interrupted" []]) else (none, [])

structure Outcome where
  result : Option (Except RunError String)
  log : Log.State
  files : FileSystem

/-- Sets logging up, and runs the command until it ends or an interrupt comes. -/
def Invocation.run (i : Invocation) (around : Surroundings) (environment : Log.Environment)
    (interrupt : Bool) : Outcome :=
  let fresh : Log.State := { environment, files := around.files }
  match fresh.setUp programName { level := i.logLevel, format := i.logFormat } with
  | (.error cause, log) => { result := some (.error (.logging cause)), log, files := around.files }
  | (.ok _, log) =>
    let run := i.fetch.run around
    let (result, entries) := untilInterrupted .interrupted run.result interrupt
    { result, log := log.installHook.emitAll (run.events ++ entries), files := run.files }

end Retrieval.Cli
