import Retrieval.Log.Filter
import Retrieval.Log.Line
import Retrieval.Storage.FileSystem

/-! The logging of one running program. Logging is set up once; after that events go to the standard
output and to files, as far as the filter in force lets them through. Whoever claims the facade for
plain records or the subscription to events first, keeps it. -/
namespace Retrieval.Log

open Storage (FileSystem Failure Place)

inductive AppenderError
  | directory (cause : Failure)
  | file (cause : Failure)

def AppenderError.message : AppenderError → String
  | directory cause => "failed to create log directory: " ++ cause.message
  | file cause => "failed to create initial log file: " ++ cause.message

def AppenderError.cause : AppenderError → Failure
  | directory cause => cause
  | file cause => cause

inductive SetupError
  | alreadyInitialized
  | notInitialized
  | invalidLevel (level : String) (cause : Filter.Error)
  | fileAppender (directory : String) (cause : AppenderError)
  | facadeTaken
  | subscriberTaken

namespace SetupError

def message : SetupError → String
  | alreadyInitialized => "Global logging has already been initialized"
  | notInitialized => "Logging has not been initialized"
  | invalidLevel level _ => "Invalid log level '" ++ level ++ "'"
  | fileAppender directory _ => "Failed to create log files in " ++ directory
  | facadeTaken => "Failed to forward log records"
  | subscriberTaken => "Failed to install global subscriber"

def causes : SetupError → List String
  | alreadyInitialized | notInitialized => []
  | invalidLevel _ cause => cause.message :: cause.causes
  | fileAppender _ cause => [cause.message, cause.cause.message]
  | facadeTaken => ["attempted to set a logger after the logging system was already initialized"]
  | subscriberTaken => ["a global default trace dispatcher has already been set"]

end SetupError

inductive Owner
  | nobody
  | us
  | other
  deriving DecidableEq

structure Sinks where
  format : Format
  stdout : Option (List Entry) := none
  mainFile : Option (Place × List Entry) := none
  /-- Takes errors only. -/
  errorFile : Option (Place × List Entry) := none

inductive Outlet
  | stdout
  | mainFile
  | errorFile

namespace Sinks

def write (s : Sinks) (e : Entry) : Sinks :=
  { s with
    stdout := s.stdout.map (· ++ [e])
    mainFile := s.mainFile.map fun (place, entries) => (place, entries ++ [e])
    errorFile := s.errorFile.map fun (place, entries) =>
      (place, if e.event.level = .error then entries ++ [e.grave] else entries) }

def count (s : Sinks) : Nat :=
  s.stdout.toList.length + s.mainFile.toList.length + s.errorFile.toList.length

end Sinks

structure Environment where
  /-- The filter to use where the settings have none. -/
  level : Option String := none
  /-- Where and how much to log in tests. -/
  testDirectory : String := "/tmp/__unittest_logs"
  testLevel : String := "debug,hyper=warn,hyper_util=warn,tower=warn,reqwest=warn,h2=info"
  /-- What is appended to the names of log files. -/
  hour : String

structure Site where
  file : String
  line : Value
  column : Value
  /-- All of it in one text. -/
  text : String

structure State where
  environment : Environment
  files : FileSystem
  initialized : Bool := false
  /-- Who receives plain records. -/
  facade : Owner := .nobody
  /-- Who receives events. -/
  subscriber : Owner := .nobody
  /-- The filter in force, once set-up has succeeded. -/
  filter : Option Filter := none
  sinks : Sinks := { format := .text }
  /-- The work that goes on, the innermost first; nothing in the place of work that was not noted. -/
  work : List (Option Span) := []
  /-- How many hooks report a panic. -/
  hooks : Nat := 0
  /-- The set-up for tests has been tried. -/
  testSetupDone : Bool := false

namespace State

/-- Opens a file for log lines, and makes its directory if need be. -/
def openAppender (files : FileSystem) (directory : String) (name : String) :
    Except AppenderError Place × FileSystem :=
  let path := FileSystem.child (utf8 directory) (utf8 name)
  match files.openSink path false with
  | .ok (place, opened) => (.ok place, opened)
  | .error cause =>
    match FileSystem.parent? path with
    | none => (.error (.file cause), files)
    | some above =>
      match FileSystem.makeDirectories above.length files above with
      | (.error cause, made) => (.error (.directory cause), made)
      | (.ok _, made) =>
        match made.openSink path false with
        | .ok (place, opened) => (.ok place, opened)
        | .error cause => (.error (.file cause), made)

def fileName (env : Environment) (start : String) : String :=
  if start = "" then env.hour else start ++ "." ++ env.hour

def openSinks (env : Environment) (files : FileSystem) (app : String) (o : Options) :
    Except SetupError Sinks × FileSystem :=
  let base : Sinks := { format := o.format, stdout := if o.toStdout then some [] else none }
  if o.directory = "" then (.ok base, files)
  else
    match openAppender files o.directory (fileName env app) with
    | (.error cause, files) => (.error (.fileAppender o.directory cause), files)
    | (.ok main, files) =>
      match openAppender files o.directory (fileName env (app ++ "-err")) with
      | (.error cause, files) => (.error (.fileAppender o.directory cause), files)
      | (.ok errors, files) =>
        (.ok { base with mainFile := some (main, []), errorFile := some (errors, []) }, files)

def chosenLevel (env : Environment) (o : Options) : String :=
  (o.level.or env.level).getD "info"

def claim (s : State) (filter : Filter) (sinks : Sinks) : Except SetupError Nat × State :=
  if s.facade ≠ .nobody then (.error .facadeTaken, s)
  else
    let forwarding := { s with facade := .us }
    if s.subscriber ≠ .nobody then (.error .subscriberTaken, forwarding)
    else
      (.ok sinks.count, { forwarding with subscriber := .us, filter := some filter, sinks })

/-- Sets logging up and says how many writers have to be closed at the end. Up to the opening of the
files a failure leaves the way free for another try. -/
def setUp (s : State) (app : String) (o : Options) : Except SetupError Nat × State :=
  if s.initialized then (.error .alreadyInitialized, s)
  else
    let level := chosenLevel s.environment o
    match Filter.parse level with
    | .error cause => (.error (.invalidLevel level cause), s)
    | .ok filter =>
      match openSinks s.environment s.files app o with
      | (.error cause, files) => (.error cause, { s with files })
      | (.ok sinks, files) => claim { s with files, initialized := true } filter sinks

def setLevel (s : State) (level : String) : Except SetupError Unit × State :=
  match Filter.parse level with
  | .error cause => (.error (.invalidLevel level cause), s)
  | .ok filter =>
    match s.filter with
    | none => (.error .notInitialized, s)
    | some _ => (.ok (), { s with filter := some filter })

/-- The filter that events and work are held against, if this program receives them. -/
def listening? (s : State) : Option Filter :=
  match s.subscriber with
  | .us => s.filter
  | .nobody | .other => none

/-- A stretch of work begins. The filter in force then decides whether it is noted. -/
def enter (s : State) (span : Span) : State :=
  let noted := match s.listening? with
    | some filter => if filter.allowsSpan span then some span else none
    | none => none
  { s with work := noted :: s.work }

def leave (s : State) : State := { s with work := s.work.tail }

def emit (s : State) (e : Event) : State :=
  match s.listening? with
  | some filter =>
    if filter.allowsEvent e then
      { s with sinks := s.sinks.write { event := e, spans := s.work.reverse.filterMap id } }
    else s
  | none => s

def emitAll (s : State) (events : List Event) : State := events.foldl emit s

/-- A record of the facade as an event. Where it comes from is declared and left out. -/
def forwarded (target : String) (level : Level) (message : String) : Event :=
  { target, level, message
    fields := [⟨"log.target", .text target⟩, ⟨"log.module_path", .absent⟩, ⟨"log.file", .absent⟩,
      ⟨"log.line", .absent⟩] }

def log (s : State) (target : String) (level : Level) (message : String) : State :=
  if s.facade = .us then s.emit (forwarded target level message) else s

def claimFacade (s : State) : Bool × State :=
  if s.facade = .nobody then (true, { s with facade := .other }) else (false, s)

def claimSubscription (s : State) : Bool × State :=
  if s.subscriber = .nobody then (true, { s with subscriber := .other }) else (false, s)

/-- The report of a panic. Only a text payload is shown. -/
def panicEvent (site : Site) (trace : String) (payload : Option String) : Event :=
  { target := "resload_common_telemetry::panic_hook"
    level := .error
    message := "panicked at " ++ site.text ++ (payload.map (":\n" ++ ·)).getD ""
    fields := [⟨"backtrace", .display trace⟩, ⟨"panic.file", .text site.file⟩,
      ⟨"panic.line", site.line⟩, ⟨"panic.column", site.column⟩] }

def installHook (s : State) : State := { s with hooks := s.hooks + 1 }

def panic (s : State) (site : Site) (trace : String) (payload : Option String) : State :=
  s.emitAll (List.replicate s.hooks (panicEvent site trace payload))

/-- Sets logging up for tests, the first time it is called. A failure is not passed on. -/
def setUpForTests (s : State) : State :=
  if s.testSetupDone then s
  else
    let env := s.environment
    let o : Options := { directory := env.testDirectory, level := some env.testLevel }
    match setUp { s with testSetupDone := true } "unittest" o with
    | (.ok _, after) =>
      after.emit
        { target := "resload_common_telemetry::logging"
          level := .info
          message := "logs dir = " ++ env.testDirectory }
    | (.error _, after) => after

/-- The lines of events, each with its own time and ended by a line break. -/
def renderLines (format : Format) (times : Nat → String) (entries : List Entry) : String :=
  let lines := entries.mapIdx fun i e => renderLine format (times i) e
  String.join (lines.map (· ++ "\n"))

def flushFile (format : Format) (times : Nat → String) (files : FileSystem)
    (sink : Option (Place × List Entry)) : FileSystem :=
  match sink with
  | none => files
  | some (place, entries) =>
    match files.append place (utf8 (renderLines format times entries)) with
    | .ok written => written
    | .error _ => files

/-- All writers are closed: what went to the standard output, and the files as they are then. The
clock says when each line of an outlet is written. -/
def close (s : State) (clock : Outlet → Nat → String) : String × FileSystem :=
  let format := s.sinks.format
  let files := flushFile format (clock .mainFile) s.files s.sinks.mainFile
  let files := flushFile format (clock .errorFile) files s.sinks.errorFile
  (renderLines format (clock .stdout) (s.sinks.stdout.getD []), files)

end State
end Retrieval.Log
