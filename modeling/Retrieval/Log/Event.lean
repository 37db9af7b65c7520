/-! Diagnostics: what happened, how serious it is, and the values that go with it. -/
namespace Retrieval.Log

inductive Level
  | error
  | warn
  | info
  | debug
  | trace
  deriving DecidableEq

namespace Level

def name : Level → String
  | error => "ERROR"
  | warn => "WARN"
  | info => "INFO"
  | debug => "DEBUG"
  | trace => "TRACE"

/-- How much is let through when this is the most detailed level. -/
def rank : Level → Nat
  | error => 1
  | warn => 2
  | info => 3
  | debug => 4
  | trace => 5

end Level

inductive Value
  /-- A text that lines show in quotes. -/
  | text (s : String)
  /-- A text that lines show as it is. -/
  | display (s : String)
  | number (n : Int)
  /-- A field that is declared and left out. -/
  | absent

def Value.plainText : Value → String
  | text s => s
  | display s => s
  | number n => toString n
  | absent => ""

structure Field where
  name : String
  value : Value

structure Span where
  name : String
  target : String
  level : Level
  fields : List Field

structure Event where
  target : String
  level : Level
  message : String
  fields : List Field := []

def Event.fieldNames (e : Event) : List String := "message" :: e.fields.map (·.name)

/-- An event and the work it happens in, the outermost first. -/
structure Entry where
  event : Event
  spans : List Span := []

/-- An event as it is shown where only errors are: so is the work it happens in. -/
def Entry.grave (e : Entry) : Entry := { e with spans := e.spans.filter (·.level = .error) }

end Retrieval.Log
