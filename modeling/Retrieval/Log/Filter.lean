import Retrieval.Log.Event

/-! Level filters. A filter is a list of directives; the most specific one that cares about an event
decides up to which level it is let through. -/
namespace Retrieval.Log

/-- Up to a level, or nothing at all. -/
abbrev Limit := Option Level

def Limit.allows (limit : Limit) (level : Level) : Bool := limit.any (level.rank ≤ ·.rank)

structure Directive where
  /-- The beginning of the targets it is about; all targets without one. -/
  target : Option String
  /-- Fields that an event must have. -/
  fields : List String
  limit : Limit
  deriving DecidableEq

namespace Directive

def matchesTarget (d : Directive) (target : String) : Bool :=
  d.target.all fun start => start.toList.isPrefixOf target.toList

def matchesEvent (d : Directive) (e : Event) : Bool :=
  d.matchesTarget e.target && d.fields.all e.fieldNames.contains

def compareTexts (a b : String) : Ordering := compare a b

def compareFields : List String → List String → Ordering
  | [], [] => .eq
  | [], _ :: _ => .lt
  | _ :: _, [] => .gt
  | a :: as, b :: bs => (compareTexts a b).then (compareFields as bs)

/-- How specific directives are: by the length of the target, the number of fields, and then by
their texts. One without target is the least specific. -/
def compareSpecificity (a b : Directive) : Ordering :=
  let lengths : Ordering := match a.target, b.target with
    | none, none => .eq
    | none, some _ => .lt
    | some _, none => .gt
    | some x, some y => compare x.utf8ByteSize y.utf8ByteSize
  (lengths.then (compare a.fields.length b.fields.length)).then
    ((compareTexts (a.target.getD "") (b.target.getD "")).then (compareFields a.fields b.fields))

end Directive

/-- Directives, the most specific first. -/
structure Filter where
  directives : List Directive
  deriving DecidableEq

namespace Filter

inductive Error
  | level
  | manyEquals
  | manyFieldLists
  | openFieldList
  deriving DecidableEq

namespace Error

def message : Error → String
  | level =>
    "error parsing level filter: expected one of \"off\", \"error\", \"warn\", \"info\", \"debug\", \"trace\", or a number 0-5"
  | manyEquals => "invalid filter directive: too many '=' in filter directive, expected 0 or 1"
  | manyFieldLists => "invalid filter directive: too many '[\x7b' in filter directive, expected 0 or 1"
  | openFieldList => "invalid filter directive: expected fields list to end with '\x7d]'"

def causes : Error → List String
  | level => [level.message]
  | _ => []

end Error

/-- The value of decimal digits, after a plus sign or not. -/
def number? (s : String) : Option Nat :=
  let digits := if s.toList.head? = some '+' then s.toList.drop 1 else s.toList
  if digits ≠ [] ∧ digits.all Char.isDigit then
    some (digits.foldl (fun n c => n * 10 + (c.toNat - '0'.toNat)) 0)
  else none

/-- Reads a level by number or by name in any case. No text at all means errors only. -/
def limit? (s : String) : Option Limit :=
  match number? s with
  | some 0 => some none
  | some 1 => some (some .error)
  | some 2 => some (some .warn)
  | some 3 => some (some .info)
  | some 4 => some (some .debug)
  | some 5 => some (some .trace)
  | some _ => none
  | none =>
    match s.map Char.toLower with
    | "" => some (some .error)
    | "off" => some none
    | "error" => some (some .error)
    | "warn" => some (some .warn)
    | "info" => some (some .info)
    | "debug" => some (some .debug)
    | "trace" => some (some .trace)
    | _ => none

def splitOnPair (a b : Char) : List Char → List (List Char)
  | [] => [[]]
  | [c] => [[c]]
  | c :: d :: rest =>
    if c = a ∧ d = b then [] :: splitOnPair a b rest
    else
      match splitOnPair a b (d :: rest) with
      | [] => [[c]]
      | first :: more => (c :: first) :: more

/-- The characters of a list of fields from its end, without the marks that close it. However many
there are, all of them go. -/
def withoutMarks : List Char → List Char
  | ']' :: '\x7d' :: rest => withoutMarks rest
  | cs => cs

def subject (cs : List Char) : Except Error (String × List String) :=
  match splitOnPair '[' '\x7b' cs with
  | [target] => .ok (String.ofList target, [])
  | [target, fields] =>
    if "\x7d]".toList.isSuffixOf fields then
      let names := (withoutMarks fields.reverse).reverse.splitOn ','
      .ok (String.ofList target, (names.filter (!·.isEmpty)).map String.ofList)
    else .error .openFieldList
  | _ => .error .manyFieldLists

/-- Reads one directive. A text without an equals sign is a level, or else a target of which
everything is let through. -/
def directive (cs : List Char) : Except Error Directive :=
  match cs.splitOn '=' with
  | [single] =>
    let s := String.ofList single
    match limit? s with
    | some limit => .ok ⟨none, [], limit⟩
    | none => .ok ⟨some s, [], some .trace⟩
  | [before, level] => do
    let (target, fields) ← subject before
    match limit? (String.ofList level) with
    | some limit => .ok ⟨some target, fields, limit⟩
    | none => .error .level
  | _ => .error .manyEquals

/-- Puts a directive in its place, in the stead of one that is as specific. -/
def insert (d : Directive) : List Directive → List Directive
  | [] => [d]
  | other :: rest =>
    match d.compareSpecificity other with
    | .gt => d :: other :: rest
    | .eq => d :: rest
    | .lt => other :: insert d rest

def parse (s : String) : Except Error Filter := do
  let list ← (s.toList.splitOn ',').mapM directive
  return ⟨list.foldl (fun done d => insert d done) []⟩

def allowsEvent (f : Filter) (e : Event) : Bool :=
  match f.directives.find? (·.matchesEvent e) with
  | some d => d.limit.allows e.level
  | none => false

/-- Whether a stretch of work is noted. Fields play no part in that. -/
def allowsSpan (f : Filter) (s : Span) : Bool :=
  match f.directives.find? (·.matchesTarget s.target) with
  | some d => d.limit.allows s.level
  | none => false

end Filter
end Retrieval.Log
