import Retrieval.Json

/-! The settings of logging, and their JSON form. -/
namespace Retrieval.Log

inductive Format
  | json
  | text
  deriving DecidableEq

namespace Format

def name : Format → String
  | json => "json"
  | text => "text"

def display : Format → String
  | json => "Json"
  | text => "Text"

def ofName? (s : String) : Option Format :=
  if s = "json" then some json else if s = "text" then some text else none

/-- The format of a name in any case, or else a message that shows the name in small letters. -/
def ofAnyCase (s : String) : Except String Format :=
  let small := s.map Char.toLower
  match ofName? small with
  | some format => .ok format
  | none => .error ("unknown log format '" ++ small ++ "', expected text or json")

end Format

structure Options where
  /-- Where log files go. None are written where this is empty. -/
  directory : String := ""
  /-- A filter; without one the environment says, or everything from `info` on is let through. -/
  level : Option String := none
  format : Format := .text
  /-- How many files of each set are kept. -/
  maxFiles : UInt64 := 720
  /-- Whether lines also go to the standard output. -/
  toStdout : Bool := true
  deriving DecidableEq

namespace Options

def toJson (o : Options) : Json :=
  .object
    [("dir", .text o.directory), ("level", (o.level.map Json.text).getD .null),
      ("log_format", .text o.format.name), ("max_log_files", .integer o.maxFiles.toNat),
      ("append_stdout", .boolean o.toStdout)]

def mismatch (j : Json) (expected : String) : String :=
  "invalid type: " ++ j.describe ++ ", expected " ++ expected

def decodeText : Json → Except String String
  | .text s => .ok s
  | j => .error (mismatch j "a string")

def decodeFlag : Json → Except String Bool
  | .boolean b => .ok b
  | j => .error (mismatch j "a boolean")

def decodeCount (j : Json) : Except String UInt64 :=
  match j.toInteger? with
  | some n =>
    if 0 ≤ n then .ok (UInt64.ofNat n.toNat)
    else .error ("invalid value: integer `" ++ toString n ++ "`, expected usize")
  | none => .error (mismatch j "usize")

def decodeLevel : Json → Except String (Option String)
  | .null => .ok none
  | .text s => .ok (some s)
  | j => .error (mismatch j "a string")

/-- No text at all means the default format. -/
def decodeFormat (j : Json) : Except String Format := do
  let s ← decodeText j
  if s = "" then return Options.format {}
  match Format.ofName? s with
  | some f => return f
  | none =>
    throw ("invalid value, expect empty string, err: unknown variant `" ++ s
      ++ "`, expected `json` or `text`")

inductive Key
  | directory
  | level
  | format
  | maxFiles
  | toStdout

namespace Key

def name : Key → String
  | directory => "dir"
  | level => "level"
  | format => "log_format"
  | maxFiles => "max_log_files"
  | toStdout => "append_stdout"

def all : List Key := [directory, level, format, maxFiles, toStdout]

def ofName? (s : String) : Option Key := all.find? (·.name == s)

end Key

def set (o : Options) (key : Key) (j : Json) : Except String Options :=
  match key with
  | .directory => do return { o with directory := ← decodeText j }
  | .level => do return { o with level := ← decodeLevel j }
  | .format => do return { o with format := ← decodeFormat j }
  | .maxFiles => do return { o with maxFiles := ← decodeCount j }
  | .toStdout => do return { o with toStdout := ← decodeFlag j }

/-- Takes members one after another. Those with an unknown name are left out. -/
def setMembers (o : Options) : List (String × Json) → Except String Options
  | [] => .ok o
  | (name, j) :: rest =>
    match Key.ofName? name with
    | none => setMembers o rest
    | some key => do setMembers (← o.set key j) rest

def setItems (o : Options) : List Key → List Json → Except String Options
  | key :: keys, j :: rest => do setItems (← o.set key j) keys rest
  | _, _ => .ok o

/-- Reads settings from an object, or from an array by position. What is not given keeps its
default. -/
def ofJson (j : Json) : Except String Options :=
  match j with
  | .object members => setMembers {} members
  | .array items => do
    let o ← setItems {} Key.all items
    if items.length > Key.all.length then
      throw ("invalid length " ++ toString items.length ++ ", expected fewer elements in array")
    return o
  | j => .error (mismatch j "struct LoggingOptions")

end Options
end Retrieval.Log
