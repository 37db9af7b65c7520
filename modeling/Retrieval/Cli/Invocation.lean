import Retrieval.Cli.Usage
import Retrieval.Http.Method
import Retrieval.Log.Options
import Retrieval.Url.Parse

/-! Command lines read into what they ask for. The value of an option is looked at when the next
argument that is known, or the end, comes; up to then a text that is not known at all is the more
urgent complaint. -/
namespace Retrieval.Cli

structure Given where
  logLevel : Option String := none
  logFormat : Option Log.Format := none
  location : Option String := none
  method : Option Http.Method := none
  contentType : Option String := none
  data : Option String := none
  output : Option String := none
  stream : Bool := false
  noProgressive : Bool := false
  baseUrl : Option Url := none

namespace Given

def has (g : Given) : Argument → Bool
  | .logLevel => g.logLevel.isSome
  | .logFormat => g.logFormat.isSome
  | .location => g.location.isSome
  | .method => g.method.isSome
  | .contentType => g.contentType.isSome
  | .data => g.data.isSome
  | .output => g.output.isSome
  | .stream => g.stream
  | .noProgressive => g.noProgressive
  | .baseUrl => g.baseUrl.isSome
  | .help | .version => false

def set (g : Given) (a : Argument) (value : String) : Except Misuse Given :=
  match a with
  | .logLevel => .ok { g with logLevel := some value }
  | .logFormat =>
    match Log.Format.ofAnyCase value with
    | .ok format => .ok { g with logFormat := some format }
    | .error reason => .error (.invalidValue a value reason)
  | .location => .ok { g with location := some value }
  | .method =>
    match Http.Method.ofAnyCase? value with
    | some method => .ok { g with method := some method }
    | none => .error (.invalidValue a value Http.Method.invalidMessage)
  | .contentType => .ok { g with contentType := some value }
  | .data => .ok { g with data := some value }
  | .output =>
    if value = "" then .error (.missingValue a) else .ok { g with output := some value }
  | .stream => .ok { g with stream := true }
  | .noProgressive => .ok { g with noProgressive := true }
  | .baseUrl =>
    match Url.parse value with
    | .ok url => .ok { g with baseUrl := some url }
    | .error cause => .error (.invalidValue a value cause.message)
  | .help | .version => .ok g

def take (g : Given) (a : Argument) (value : String) : Except Misuse Given :=
  if g.has a then .error (.repeated a) else g.set a value

end Given

structure Reading where
  given : Given := {}
  /-- The option met last, and its value once that has come. -/
  pending : Option (Argument × Option String) := none

namespace Reading

def settle (r : Reading) : Except Misuse Given :=
  match r.pending with
  | none => .ok r.given
  | some (a, none) => .error (.missingValue a)
  | some (a, some value) => r.given.take a value

def option (r : Reading) (a : Argument) (value : Option String) : Except Misuse Reading := do
  let given ← r.settle
  match value with
  | none => return { given, pending := some (a, none) }
  | some v => return { given := ← given.take a v }

def flag (r : Reading) (c : Command) (a : Argument) : Except Stop Reading :=
  match r.settle with
  | .error m => .error (.misuse m)
  | .ok given =>
    match a with
    | .help => .error (.help c)
    | .version => .error .version
    | a => ((given.take a "").map fun g => { given := g }).mapError .misuse

def long (r : Reading) (c : Command) (name : String) (value : Option String) :
    Except Stop Reading :=
  match c.named? name with
  | none => .error (.misuse (.unknownArgument ("--" ++ name)))
  | some a =>
    if a.takesValue then (r.option a value).mapError .misuse
    else
      match value with
      | some v => .error (.misuse (.unexpectedValue a v))
      | none => r.flag c a

/-- The value that follows a letter at once, an equals sign before it or not. -/
def attached? : List Char → Option String
  | [] => none
  | '=' :: value => some (String.ofList value)
  | value => some (String.ofList value)

/-- Arguments are met by their letters. The first one that takes a value takes all the rest. -/
def short (r : Reading) (c : Command) : List Char → Except Stop Reading
  | [] => .ok r
  | letter :: rest =>
    match c.lettered? letter with
    | none => .error (.misuse (.unknownArgument (String.ofList ['-', letter])))
    | some a =>
      if a.takesValue then (r.option a (attached? rest)).mapError .misuse
      else
        match r.flag c a with
        | .error stop => .error stop
        | .ok next => next.short c rest

def value? (r : Reading) (text : String) : Option Reading :=
  match r.pending with
  | some (a, none) => some { r with pending := some (a, some text) }
  | _ => none

def locate (r : Reading) (text : String) : Except Misuse Reading :=
  if r.given.location.isSome then .error (.unknownArgument text)
  else r.settle.map fun given => { given := { given with location := some text } }

def fetch (r : Reading) (trailing : Bool) : List String → Except Stop Given
  | [] => r.settle.mapError .misuse
  | s :: rest =>
    if trailing then
      match r.locate s with
      | .error m => .error (.misuse m)
      | .ok next => next.fetch true rest
    else
      match Word.ofText s with
      | .separator => r.fetch true rest
      | .long name value =>
        match r.long .fetch name value with
        | .error stop => .error stop
        | .ok next => next.fetch false rest
      | .short letters =>
        match r.short .fetch letters with
        | .error stop => .error stop
        | .ok next => next.fetch false rest
      | .plain text =>
        match r.value? text with
        | some next => next.fetch false rest
        | none =>
          match r.locate text with
          | .error m => .error (.misuse m)
          | .ok next => next.fetch false rest

end Reading

structure FetchCommand where
  location : String
  method : Http.Method := .get
  contentType : Option String := none
  /-- The text sent as the body. -/
  data : Option String := none
  /-- The path that the payload is written to. -/
  output : Option String := none
  /-- Whether the resource is followed as it comes. -/
  stream : Bool := false
  /-- Whether pieces are handed on as they come. -/
  progressive : Bool := true
  baseUrl : Option Url := none

structure Invocation where
  logLevel : Option String := none
  logFormat : Log.Format := .text
  fetch : FetchCommand

def FetchCommand.ofGiven (g : Given) : Except Misuse FetchCommand :=
  match g.location with
  | none => .error .missingLocation
  | some location =>
    .ok
      { location
        method := g.method.getD .get
        contentType := g.contentType
        data := g.data
        output := g.output
        stream := g.stream
        progressive := !g.noProgressive
        baseUrl := g.baseUrl }

def commandNames : List String := ["fetch", "help"]

def helpFor : List String → Stop
  | [] => .help .program
  | [name] =>
    if name = "fetch" then .help .fetch
    else if name = "help" then .help .program
    else .misuse (.unknownCommand name)
  | name :: further :: _ =>
    .misuse (.unknownCommand (if commandNames.contains name then further else name))

namespace Reading

/-- Reads the part after the name of a command, and puts it together with the part before. What is
given after the name has precedence. -/
def finish (r : Reading) (rest : List String) : Except Stop Invocation := do
  let inner ← Reading.fetch {} false rest
  let command ← (FetchCommand.ofGiven inner).mapError .misuse
  let outer ← r.settle.mapError .misuse
  .ok
    { logLevel := inner.logLevel.or outer.logLevel
      logFormat := (inner.logFormat.or outer.logFormat).getD .text
      fetch := command }

/-- The complaint about a plain text that is not the name of a command. After two dashes even such
a name is not expected. -/
def unexpected (trailing : Bool) (text : String) : Misuse :=
  if trailing && commandNames.contains text then .unknownArgument text else .unknownCommand text

def withoutCommand (r : Reading) : Misuse :=
  match r.settle with
  | .error m => m
  | .ok given =>
    if given.logLevel.isNone && given.logFormat.isNone then .nothingGiven else .missingCommand

def program (r : Reading) (trailing : Bool) : List String → Except Stop Invocation
  | [] => .error (.misuse r.withoutCommand)
  | s :: rest =>
    if trailing then .error (.misuse (unexpected true s))
    else
      match Word.ofText s with
      | .separator => r.program true rest
      | .long name value =>
        match r.long .program name value with
        | .error stop => .error stop
        | .ok next => next.program false rest
      | .short letters =>
        match r.short .program letters with
        | .error stop => .error stop
        | .ok next => next.program false rest
      | .plain text =>
        match r.value? text with
        | some next => next.program false rest
        | none =>
          if text = "fetch" then r.finish rest
          else if text = "help" then .error (helpFor rest)
          else .error (.misuse (unexpected false text))

end Reading

/-- Reads the words of a command line, the program's name not among them. -/
def Invocation.ofWords (words : List String) : Except Stop Invocation :=
  Reading.program {} false words

end Retrieval.Cli
