import Retrieval.Json
import Retrieval.Log.Event
import Retrieval.Log.Options
import Retrieval.Text.Quoted

/-! Log lines: an event with the work around it and the time it is written, as text or as a JSON
object. -/
namespace Retrieval.Log

/-- Control characters that a terminal could act on are written by their number in a message. -/
def messageChar (c : Char) : List Char :=
  if c ∈ ['\x1b', '\x07', '\x08', '\x0c', '\x7f'] then
    ['\\', 'x'] ++ hexOctet (UInt8.ofNat c.toNat)
  else if 0x80 ≤ c.toNat ∧ c.toNat ≤ 0x9f then
    ['\\', 'u', '\x7b'] ++ hexNumber c.toNat ++ ['\x7d']
  else [c]

def messageText (s : String) : String := String.ofList (s.toList.flatMap messageChar)

namespace Value

def render? : Value → Option String
  | text s => some (quoted s)
  | display s => some s
  | number n => some (toString n)
  | absent => none

def toJson? : Value → Option Json
  | text s => some (.text s)
  | display s => some (.text s)
  | number n => some (.integer n)
  | absent => none

end Value

/-- Fields of forwarded records repeat what the line says anyway; text leaves them out. -/
def isForwarded (name : String) : Bool := "log.".toList.isPrefixOf name.toList

def renderFields (fields : List Field) : List String :=
  fields.filterMap fun f =>
    if isForwarded f.name then none else f.value.render?.map fun v => f.name ++ "=" ++ v

def renderSpan (s : Span) : String :=
  let fields := renderFields s.fields
  s.name ++ (if fields.isEmpty then "" else "\x7b" ++ " ".intercalate fields ++ "\x7d") ++ ":"

/-- Levels take five columns. -/
def renderLevel (l : Level) : String :=
  String.ofList (List.replicate (5 - l.name.length) ' ') ++ l.name

def renderText (time : String) (entry : Entry) : String :=
  let work :=
    if entry.spans.isEmpty then "" else String.join (entry.spans.map renderSpan) ++ " "
  let e := entry.event
  let start := time ++ " " ++ renderLevel e.level ++ " " ++ work ++ e.target ++ ": "
  start ++ " ".intercalate (messageText e.message :: renderFields e.fields)

def fieldMembers (fields : List Field) : List (String × Json) :=
  fields.filterMap fun f => f.value.toJson?.map fun v => (f.name, v)

/-- A stretch of work; its own name is shown in the stead of a field of that name. -/
def spanJson (s : Span) : Json :=
  .object (fieldMembers (s.fields.filter (·.name != "name")) ++ [("name", .text s.name)])

def toJson (time : String) (entry : Entry) : Json :=
  let work := match entry.spans.getLast? with
    | none => []
    | some inner => [("span", spanJson inner), ("spans", .array (entry.spans.map spanJson))]
  let e := entry.event
  .object
    ([("timestamp", .text time), ("level", .text e.level.name),
      ("fields", .object (("message", .text e.message) :: fieldMembers e.fields)),
      ("target", .text e.target)] ++ work)

def renderLine (format : Format) (time : String) (entry : Entry) : String :=
  match format with
  | .text => renderText time entry
  | .json => (toJson time entry).render

end Retrieval.Log
