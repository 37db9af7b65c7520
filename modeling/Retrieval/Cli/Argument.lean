/-! What can stand on a command line: commands, options, flags, and the location to fetch. -/
namespace Retrieval.Cli

inductive Argument
  | logLevel
  | logFormat
  | location
  | method
  | contentType
  | data
  | output
  | stream
  | noProgressive
  | baseUrl
  | help
  | version
  deriving DecidableEq

namespace Argument

/-- The name after two dashes. The location has no dashes; its name is only shown. -/
def name : Argument → String
  | logLevel => "log-level"
  | logFormat => "log-format"
  | location => "location"
  | method => "method"
  | contentType => "content-type"
  | data => "data"
  | output => "output"
  | stream => "stream"
  | noProgressive => "no-progressive"
  | baseUrl => "base-url"
  | help => "help"
  | version => "version"

def letter? : Argument → Option Char
  | method => some 'X'
  | output => some 'o'
  | help => some 'h'
  | version => some 'V'
  | _ => none

def takesValue : Argument → Bool
  | stream | noProgressive | help | version => false
  | _ => true

def placeholder (a : Argument) : String :=
  "<" ++ (a.name.map fun c => if c = '-' then '_' else c.toUpper) ++ ">"

def display (a : Argument) : String :=
  if a = location then a.placeholder
  else if a.takesValue then "--" ++ a.name ++ " " ++ a.placeholder
  else "--" ++ a.name

end Argument

/-- The program itself and its commands. Each has options of its own. -/
inductive Command
  | program
  | fetch
  deriving DecidableEq

namespace Command

/-- Options and flags; those of logging can stand before and after the name of a command. -/
def arguments : Command → List Argument
  | program => [.logLevel, .logFormat, .help, .version]
  | fetch =>
    [.method, .contentType, .data, .output, .stream, .noProgressive, .baseUrl, .logLevel, .logFormat,
      .help]

def named? (c : Command) (name : String) : Option Argument := c.arguments.find? (·.name == name)

def lettered? (c : Command) (letter : Char) : Option Argument :=
  c.arguments.find? (·.letter? == some letter)

end Command

inductive Word
  /-- Two dashes alone: no options follow. -/
  | separator
  /-- Two dashes and a name, with a value after an equals sign or without. -/
  | long (name : String) (value : Option String)
  /-- One dash and letters. -/
  | short (letters : List Char)
  | plain (text : String)

/-- A single dash is as plain as any other text. -/
def Word.ofText (s : String) : Word :=
  match s.toList with
  | ['-', '-'] => .separator
  | '-' :: '-' :: rest =>
    let name := String.ofList (rest.takeWhile (· != '='))
    match rest.dropWhile (· != '=') with
    | [] => .long name none
    | _ :: value => .long name (some (String.ofList value))
  | '-' :: c :: rest => .short (c :: rest)
  | _ => .plain s

end Retrieval.Cli
