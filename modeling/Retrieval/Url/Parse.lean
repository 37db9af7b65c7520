import Retrieval.Url.Basic

/-! Reading URLs, absolute or against a base. The text is first freed from surrounding blanks and
from line breaks and tabs, then cut at its first number sign and the first question mark before
it; what is left is a scheme, an authority and a path. -/
namespace Retrieval.Url

/-- Control characters and the space are dropped from both ends. -/
def isEdgeBlank (c : Char) : Bool := c.toNat ≤ 0x20

def isBreak (c : Char) : Bool := c == '\t' || c == '\n' || c == '\r'

def significant (s : String) : List Char :=
  let front := s.toList.dropWhile isEdgeBlank
  (front.reverse.dropWhile isEdgeBlank).reverse.filter fun c => !isBreak c

/-- A text cut into what comes before the query, the query and the fragment. -/
structure Cut where
  main : List Char
  query : Option (List Char)
  fragment : Option (List Char)

def cutAt (mark : Char) (cs : List Char) : List Char × Option (List Char) :=
  match cs.dropWhile (· != mark) with
  | [] => (cs, none)
  | _ :: rest => (cs.takeWhile (· != mark), some rest)

def Cut.ofChars (cs : List Char) : Cut :=
  let (front, fragment) := cutAt '#' cs
  let (main, query) := cutAt '?' front
  ⟨main, query, fragment⟩

def isSchemeChar (c : Char) : Bool := c.isAlphanum || c == '+' || c == '-' || c == '.'

/-- The scheme in small letters and what follows its colon. -/
def splitScheme? (cs : List Char) : Option (String × List Char) :=
  match cs with
  | c :: _ =>
    if c.isAlpha then
      match cs.dropWhile isSchemeChar with
      | ':' :: rest => some (String.ofList ((cs.takeWhile isSchemeChar).map Char.toLower), rest)
      | _ => none
    else none
  | [] => none

def complete (cut : Cut) (u : Url) : Url :=
  let set := if u.kind.isSpecial then specialQuerySet else querySet
  { u with
    query := cut.query.map fun q => String.ofList (percentEncode set q)
    fragment := cut.fragment.map fun f => String.ofList (percentEncode fragmentSet f) }

/-- What stands before the last mark of a text and what stands after it, if it occurs. -/
def cutAtLast? (mark : Char) (cs : List Char) : Option (List Char × List Char) :=
  match cs.reverse.dropWhile (· != mark) with
  | [] => none
  | _ :: front => some (front.reverse, (cs.reverse.takeWhile (· != mark)).reverse)

/-- The host of an authority ends at the first colon outside brackets. -/
def splitHost (inBrackets : Bool) : List Char → List Char × List Char
  | [] => ([], [])
  | c :: rest =>
    if c == ':' && !inBrackets then ([], c :: rest)
    else
      let (host, port) := splitHost (c == '[' || (inBrackets && c != ']')) rest
      (c :: host, port)

/-- Digits up to the largest port, or none at all. What follows them is given back: it may only be
a backslash. -/
def parsePort (cs : List Char) : Except Error (Option Nat × List Char) :=
  let digits := cs.takeWhile Char.isDigit
  let rest := cs.dropWhile Char.isDigit
  match digitsValue? 10 digits with
  | none => .error .port
  | some n =>
    if n > 65535 then .error .port
    else if rest.head?.any (· != '\\') then .error .port
    else .ok (if digits.isEmpty then none else some n, rest)

/-- The path after an authority. A special scheme always has one. -/
def pathAfterHost (kind : SchemeKind) (cs : List Char) : List String :=
  match cs with
  | [] => if kind.isSpecial then [""] else []
  | c :: rest => (Path.read kind [] (if Path.isSeparator kind c then rest else c :: rest)).segments

def parseHost (kind : SchemeKind) (cs : List Char) : Except Error Host :=
  if kind.isSpecial then if cs = [] then .error .emptyHost else Host.parse cs
  else Host.parseVerbatim cs

/-- Reads a host and its port. An empty host has none. What follows the port is given back. -/
def parseHostPort (kind : SchemeKind) (cs : List Char) :
    Except Error (Host × Option Nat × List Char) :=
  let (hostText, portText) := splitHost false cs
  match parseHost kind hostText with
  | .error cause => .error cause
  | .ok host =>
    if host.isEmpty ∧ portText ≠ [] then .error .emptyHost
    else
      match parsePort (portText.drop 1) with
      | .error cause => .error cause
      | .ok (port, after) => .ok (host, port, after)

/-- Reads an authority and the path after it. `more` says that a query or a fragment follows. -/
def parseAuthority (scheme : String) (more : Bool) (cs : List Char) : Except Error Url :=
  let kind := kindOf scheme
  let authority := cs.takeWhile fun c => !Path.isSeparator kind c
  let rest := cs.dropWhile fun c => !Path.isSeparator kind c
  if authority = ['@'] ∧ (more ∨ rest ≠ []) then .error .emptyHost
  else
    let (credentials, hostPort) := (cutAtLast? '@' authority).getD ([], authority)
    match parseHostPort kind hostPort with
    | .error cause => .error cause
    | .ok (host, port, after) =>
      let (user, password) := cutAt ':' credentials
      let u : Url :=
        { scheme
          user := String.ofList (percentEncode userinfoSet user)
          password := String.ofList (percentEncode userinfoSet (password.getD []))
          host := some host
          port := if port = impliedPort? scheme then none else port
          path := .segments (pathAfterHost kind (after ++ rest)) }
      if host.isEmpty ∧ u.hasCredentials then .error .emptyHost else .ok u

def onThisHost (segments : List String) : Url :=
  { scheme := "file", host := some (.name ""), path := .segments segments }

/-- Reads the host after the two slashes of a file URL, and its path. A drive letter is no host,
and a path that begins with one makes the host this one. -/
def parseFileHost (cs : List Char) : Except Error Url := do
  let ends := fun c => Path.isSeparator .file c
  let hostText := cs.takeWhile fun c => !ends c
  if Path.isDriveLetter hostText then return onThisHost (Path.read .file [] cs).segments
  let host ← if hostText = [] then pure (Host.name "") else Host.parse hostText
  let path := Path.read .file [] ((cs.dropWhile fun c => !ends c).drop 1)
  let isLocal := path.atDrive || host.render == "localhost"
  return { onThisHost path.segments with host := some (if isLocal then .name "" else host) }

def isSlash (c : Char) : Bool := c == '/' || c == '\\'

def segmentList (u : Url) : List String :=
  match u.path with
  | .segments list => list
  | .plain _ => []

/-- A base whose fragment is replaced, and its query too where the text has one. -/
def onBase (base : Url) (cut : Cut) : Url :=
  let done := complete cut base
  if cut.query.isSome then done else { done with query := base.query }

def parseFileRoot (base : Option Url) (rest : List Char) : Url :=
  match base with
  | none => onThisHost (Path.read .file [] rest).segments
  | some b =>
    if Path.startsWithDriveLetter rest then onThisHost (Path.read .file [] rest).segments
    else
      match b.segmentList.head?.filter Path.isPlainDrive with
      | some drive => onThisHost (Path.read .file [drive] rest).segments
      | none => { onThisHost (Path.read .file [] rest).segments with host := b.host }

def parseFile (base : Option Url) (cut : Cut) : Except Error Url :=
  match cut.main.takeWhile isSlash, base with
  | _ :: _ :: _, _ => do return complete cut (← parseFileHost (cut.main.drop 2))
  | [_], _ => .ok (complete cut (parseFileRoot base (cut.main.drop 1)))
  | [], none => .ok (complete cut (onThisHost (Path.read .file [] cut.main).segments))
  | [], some u =>
    if cut.main = [] then .ok (onBase u cut)
    else if Path.startsWithDriveLetter cut.main then
      .ok (complete cut (onThisHost (Path.read .file [] cut.main).segments))
    else
      let path := Path.read .file (Path.directory .file u.segmentList) cut.main
      .ok (complete cut { u with path := .segments path.segments })

def parseRelative (base : Url) (cut : Cut) : Except Error Url :=
  match cut.main.takeWhile isSlash with
  | [] =>
    if cut.main = [] then .ok (onBase base cut)
    else
      let path := Path.read base.kind (Path.directory base.kind base.segmentList) cut.main
      .ok (complete cut { base with path := .segments path.segments })
  | [_] =>
    let path := Path.read base.kind [] (cut.main.drop 1)
    .ok (complete cut { base with path := .segments path.segments })
  | a :: b :: _ => do
    let more := cut.query.isSome || cut.fragment.isSome
    let authority :=
      if a = '/' ∧ b = '/' then cut.main.drop 2 else cut.main.dropWhile isSlash
    return complete cut (← parseAuthority base.scheme more authority)

def parseScheme (base : Option Url) (scheme : String) (cut : Cut) : Except Error Url := do
  let more := cut.query.isSome || cut.fragment.isSome
  let same := base.filter (·.scheme == scheme)
  match kindOf scheme with
  | .file => parseFile same cut
  | .web =>
    match same with
    | some b =>
      if (cut.main.takeWhile isSlash).length < 2 then parseRelative b cut
      else return complete cut (← parseAuthority scheme more (cut.main.dropWhile isSlash))
    | none => return complete cut (← parseAuthority scheme more (cut.main.dropWhile isSlash))
  | .other =>
    match cut.main with
    | '/' :: '/' :: rest => return complete cut (← parseAuthority scheme more rest)
    | '/' :: rest =>
      return complete cut { scheme, path := .segments (Path.read .other [] rest).segments }
    | text =>
      return complete cut
        { scheme, path := .plain (String.ofList (percentEncode controlSet text)) }

/-- Reads a text that has no scheme. Only a fragment can be given to a URL without a hierarchical
path. -/
def parseReference (base : Option Url) (cut : Cut) : Except Error Url :=
  match base with
  | none => .error .relativeWithoutBase
  | some b =>
    if cut.main = [] ∧ cut.query = none ∧ cut.fragment.isSome then
      .ok (onBase b cut)
    else
      match b.path, b.kind with
      | .plain _, _ => .error .relativeToOpaque
      | .segments _, .file => parseFile (some b) cut
      | .segments _, _ => parseRelative b cut

def parseWith (base : Option Url) (s : String) : Except Error Url :=
  let cut := Cut.ofChars (significant s)
  match splitScheme? cut.main with
  | some (scheme, rest) => parseScheme base scheme { cut with main := rest }
  | none => parseReference base cut

def parse (s : String) : Except Error Url := parseWith none s

def join (base : Url) (s : String) : Except Error Url := parseWith (some base) s

end Retrieval.Url
