import Retrieval.Cli.Argument

/-! Why a command line does not lead to a run: it asks for help or for the version, or it is not
understood. -/
namespace Retrieval.Cli

def programName : String := "resload"
def programVersion : String := "0.1.0"

inductive Misuse
  | unknownArgument (text : String)
  | unknownCommand (text : String)
  | missingValue (a : Argument)
  | repeated (a : Argument)
  | unexpectedValue (a : Argument) (value : String)
  /-- A value that its argument cannot have, and why. -/
  | invalidValue (a : Argument) (value reason : String)
  | missingLocation
  | missingCommand
  | nothingGiven

inductive Stop
  | help (c : Command)
  | version
  | misuse (m : Misuse)

namespace Misuse

def message : Misuse → String
  | unknownArgument text => "unexpected argument '" ++ text ++ "' found"
  | unknownCommand text => "unrecognized subcommand '" ++ text ++ "'"
  | missingValue a => "a value is required for '" ++ a.display ++ "' but none was supplied"
  | repeated a => "the argument '" ++ a.display ++ "' cannot be used multiple times"
  | unexpectedValue a value =>
    "unexpected value '" ++ value ++ "' for '" ++ a.display ++ "' found; no more were expected"
  | invalidValue a value reason =>
    "invalid value '" ++ value ++ "' for '" ++ a.display ++ "': " ++ reason
  | missingLocation =>
    "the following required arguments were not provided:\n  " ++ Argument.location.display
  | missingCommand => "'" ++ programName ++ "' requires a subcommand but one was not provided"
  | nothingGiven => "nothing to do"

end Misuse

def Command.helpPage : Command → String
  | program =>
    "Fetch binary resources over HTTP or from local files\n\n"
      ++ "Usage: resload [OPTIONS] <COMMAND>\n\n"
      ++ "Commands:\n"
      ++ "  fetch\n"
      ++ "  help   Print this message or the help of the given subcommand(s)\n\n"
      ++ "Options:\n"
      ++ "      --log-level <LOG_LEVEL>    Level filter, e.g. \"debug\" or \"info,resload_loader=trace\"\n"
      ++ "      --log-format <LOG_FORMAT>  Log line format: text or json [default: text]\n"
      ++ "  -h, --help                     Print help\n"
      ++ "  -V, --version                  Print version\n"
  | fetch =>
    "Fetch one resource and write it to a file, or report its size.\n\n"
      ++ "Usage: resload fetch [OPTIONS] <LOCATION>\n\n"
      ++ "Arguments:\n"
      ++ "  <LOCATION>  Absolute URL, file:// URL, or path; relative to --base-url if given\n\n"
      ++ "Options:\n"
      ++ "      --log-level <LOG_LEVEL>        Level filter, e.g. \"debug\" or \"info,resload_loader=trace\"\n"
      ++ "  -X, --method <METHOD>              Request method [default: GET]\n"
      ++ "      --log-format <LOG_FORMAT>      Log line format: text or json [default: text]\n"
      ++ "      --content-type <CONTENT_TYPE>  Content-Type header sent with the request\n"
      ++ "      --data <DATA>                  Request body\n"
      ++ "  -o, --output <OUTPUT>              Write the payload here instead of only reporting its size\n"
      ++ "      --stream                       Consume the resource as a stream of chunks\n"
      ++ "      --no-progressive               Deliver the streamed resource as a single chunk\n"
      ++ "      --base-url <BASE_URL>          Base URL for relative locations\n"
      ++ "  -h, --help                         Print help\n"

namespace Stop

/-- The exit code. What was asked for is no failure. -/
def exitCode : Stop → Nat
  | help _ | version => 0
  | misuse _ => 2

def message : Stop → String
  | help c => c.helpPage
  | version => programName ++ " " ++ programVersion ++ "\n"
  | misuse .nothingGiven => Command.program.helpPage
  | misuse m => "error: " ++ m.message ++ "\n\nFor more information, try '--help'.\n"

end Stop
end Retrieval.Cli
