import Retrieval.Url.PercentEncoding

/-! Hierarchical paths as lists of segments. Dot segments are resolved while the path is read, and
a drive letter at its front is never climbed out of. -/
namespace Retrieval.Url

inductive SchemeKind
  | web
  | file
  | other
  deriving DecidableEq

/-- Whether the scheme treats a backslash as a slash and needs a path. -/
def SchemeKind.isSpecial (k : SchemeKind) : Bool := k ≠ other

/-- Either segments, each after a slash, or a text without structure. -/
inductive Path
  | segments (list : List String)
  | plain (text : String)

namespace Path

/-- A letter and a colon or a bar. -/
def isDriveLetter : List Char → Bool
  | [c, d] => c.isAlpha && (d == ':' || d == '|')
  | _ => false

/-- Whether a text is a drive letter up to its first slash of either kind. -/
def startsWithDriveLetter (cs : List Char) : Bool :=
  isDriveLetter (cs.takeWhile fun c => c != '/' && c != '\\')

/-- A drive letter as a file path writes it, with a colon. -/
def isPlainDrive (segment : String) : Bool :=
  match segment.toList with
  | [c, ':'] => c.isAlpha
  | _ => false

def isSeparator (kind : SchemeKind) (c : Char) : Bool := c == '/' || (kind.isSpecial && c == '\\')

def isSingleDot (cs : List Char) : Bool :=
  let s := String.ofList (cs.map Char.toLower)
  s == "." || s == "%2e"

def isDoubleDot (cs : List Char) : Bool :=
  let s := String.ofList (cs.map Char.toLower)
  s == ".." || s == ".%2e" || s == "%2e." || s == "%2e%2e"

/-- The path above a path: its last segment is left, unless it begins with a drive letter. -/
def above (segments : List String) : List String :=
  if segments.getLast?.any (startsWithDriveLetter ·.toList) then segments else segments.dropLast

/-- The directory that a relative path starts from: all but the last segment, which a file path
keeps when it is a drive. -/
def directory (kind : SchemeKind) (segments : List String) : List String :=
  if kind = .file ∧ segments.getLast?.any isPlainDrive then segments else segments.dropLast

structure Reading where
  segments : List String
  /-- A drive letter was found at the front. -/
  atDrive : Bool := false

def step (kind : SchemeKind) (r : Reading) (segment : List Char) : Reading :=
  if isDoubleDot segment then { r with segments := above r.segments }
  else if isSingleDot segment then r
  else if kind = .file ∧ r.segments = [] ∧ isDriveLetter segment then
    ⟨[String.ofList (segment.take 1 ++ [':'])], true⟩
  else { r with segments := r.segments ++ [String.ofList (percentEncode pathSet segment)] }

/-- Reads the last segment: a dot segment leaves the path open, with an empty last segment. -/
def close (kind : SchemeKind) (r : Reading) (segment : List Char) : Reading :=
  let done := step kind r segment
  if isDoubleDot segment || isSingleDot segment then { done with segments := done.segments ++ [""] }
  else done

def extend (kind : SchemeKind) (r : Reading) : List (List Char) → Reading
  | [] => r
  | [last] => close kind r last
  | segment :: rest => extend kind (step kind r segment) rest

/-- A file path has no empty segment at its front, unless it is the only one. -/
def trimFront (kind : SchemeKind) (segments : List String) : List String :=
  if kind = .file then
    match segments.dropWhile (· == "") with
    | [] => [""]
    | kept => kept
  else segments

def read (kind : SchemeKind) (before : List String) (cs : List Char) : Reading :=
  let r := extend kind ⟨before, false⟩ (cs.splitOnP (isSeparator kind))
  { r with segments := trimFront kind r.segments }

end Path
end Retrieval.Url
