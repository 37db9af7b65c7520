import Retrieval.Bytes
import Retrieval.Storage.Failure

/-! A tree of files. Paths are byte strings; symbolic links are followed, up to a limit. A file may
have several names, and is kept under one of them. -/
namespace Retrieval.Storage

/-- The names from the root down to a file. -/
abbrev Place := List Bytes

/-- What can be had from an open file: bytes, and a failure behind them if it cannot be read to its
end. The length is what the system says, if it says anything. -/
structure Source where
  length : Option Nat
  content : Bytes
  failure : Option Failure := none
  deriving DecidableEq

def Source.bytes (content : Bytes) : Source := { length := content.length, content }

inductive Node
  | file (content : Bytes)
  | directory
  | link (target : Bytes)
  /-- Another name of the file at that place. -/
  | name (first : Place)
  /-- Something that is there to be read, such as a file on a damaged disk. -/
  | readOnly (source : Source)
  /-- A device that is empty and swallows what is written. -/
  | null
  /-- A device for writing that never has room. -/
  | full
  deriving DecidableEq

structure FileSystem where
  entries : List (Place × Node)
  /-- Where relative paths begin. -/
  current : Place := []
  /-- What the system says of directories. -/
  directoryLength : Place → Option Nat := fun _ => some 4096

/-- Where a path leads: to something, or to a name that is free in its directory. -/
inductive Lookup
  | found (place : Place) (node : Node)
  | free (place : Place) (asDirectory : Bool)

namespace FileSystem

def node? (fs : FileSystem) (place : Place) : Option Node :=
  if place = [] then some .directory else fs.entries.lookup place

def put (fs : FileSystem) (place : Place) (node : Node) : FileSystem :=
  { fs with entries := fs.entries.filter (·.1 != place) ++ [(place, node)] }

def slash : UInt8 := 0x2F

/-- The names of a path; an empty one stands between adjacent slashes and at its ends. -/
def components (path : Bytes) : List Bytes := path.splitOn slash

def isAbsolute (path : Bytes) : Bool := path.head? == some slash

def settled (fs : FileSystem) (here : Place) (node : Node) : Except Failure Lookup :=
  match node with
  | .name first =>
    match fs.node? first with
    | some (.file content) => .ok (.found first (.file content))
    | _ => .error .noEntry
  | _ => .ok (.found here node)

/-- Follows names from a place. At most `links` symbolic links are followed. -/
def walk (fs : FileSystem) (links : Nat) (here : Place) (names : List Bytes) :
    Except Failure Lookup :=
  match names with
  | [] =>
    match fs.node? here with
    | some node => fs.settled here node
    | none => .error .noEntry
  | name :: rest =>
    if fs.node? here ≠ some .directory then .error .notDirectory
    else if name = [] ∨ name = utf8 "." then walk fs links here rest
    else if name = utf8 ".." then walk fs links here.dropLast rest
    else if name.length > 255 then .error .nameTooLong
    else
      match fs.node? (here ++ [name]) with
      | none =>
        if rest.all (·.isEmpty) then .ok (.free (here ++ [name]) (!rest.isEmpty))
        else .error .noEntry
      | some (.link target) =>
        match links with
        | 0 => .error .tooManyLinks
        | links + 1 =>
          if target = [] then .error .noEntry
          else walk fs links (if isAbsolute target then [] else here) (components target ++ rest)
      | some _ => walk fs links (here ++ [name]) rest
termination_by (links, names.length)

def locate (fs : FileSystem) (path : Bytes) : Except Failure Lookup :=
  if path.contains 0 then .error .nulInPath
  else if path = [] then .error .noEntry
  else if path.length ≥ 4096 then .error .nameTooLong
  else walk fs 40 (if isAbsolute path then [] else fs.current) (components path)

/-- Opens a file for reading. A directory can be opened, and reading it fails. -/
def openSource (fs : FileSystem) (path : Bytes) : Except Failure Source :=
  match fs.locate path with
  | .error cause => .error cause
  | .ok (.free _ _) => .error .noEntry
  | .ok (.found place node) =>
    match node with
    | .file content => .ok (.bytes content)
    | .directory =>
      .ok { length := fs.directoryLength place, content := [], failure := some .isDirectory }
    | .link _ => .error .tooManyLinks
    | .name _ => .error .noEntry
    | .readOnly source => .ok source
    | .null => .ok (.bytes [])
    | .full => .error .accessDenied

def openSink (fs : FileSystem) (path : Bytes) (truncated : Bool) :
    Except Failure (Place × FileSystem) :=
  match fs.locate path with
  | .error cause => .error cause
  | .ok (.free place asDirectory) =>
    if asDirectory then .error .isDirectory else .ok (place, fs.put place (.file []))
  | .ok (.found place node) =>
    match node with
    | .file _ => .ok (place, if truncated then fs.put place (.file []) else fs)
    | .directory => .error .isDirectory
    | .link _ => .error .tooManyLinks
    | .name _ => .error .noEntry
    | .readOnly _ => .error .accessDenied
    | .null | .full => .ok (place, fs)

def append (fs : FileSystem) (place : Place) (data : Bytes) : Except Failure FileSystem :=
  match fs.node? place with
  | some (.file content) => .ok (fs.put place (.file (content ++ data)))
  | some .null => .ok fs
  | some .full => if data = [] then .ok fs else .error .noSpace
  | some _ | none => .error .inputOutput

/-- Makes a directory. A link of that name is not followed. -/
def makeDirectory (fs : FileSystem) (path : Bytes) : Except Failure FileSystem :=
  if path.contains 0 then .error .nulInPath
  else if path = [] then .error .noEntry
  else if path.length ≥ 4096 then .error .nameTooLong
  else
    match (components path).reverse.dropWhile (·.isEmpty) with
    | [] => .error .alreadyExists
    | name :: above =>
      match fs.walk 40 (if isAbsolute path then [] else fs.current) above.reverse with
      | .error cause => .error cause
      | .ok (.free _ _) => .error .noEntry
      | .ok (.found here node) =>
        if node ≠ .directory then .error .notDirectory
        else if name = utf8 "." ∨ name = utf8 ".." then .error .alreadyExists
        else if name.length > 255 then .error .nameTooLong
        else if (fs.node? (here ++ [name])).isSome then .error .alreadyExists
        else .ok (fs.put (here ++ [name]) .directory)

def isDirectory (fs : FileSystem) (path : Bytes) : Bool :=
  match fs.locate path with
  | .ok (.found _ .directory) => true
  | _ => false

def join (names : List Bytes) : Bytes :=
  if names = [[]] then [slash] else [slash].intercalate names

/-- Whether a name stands for the directory that it is looked up in. -/
def isHere (name : Bytes) : Bool := name == [] || name == utf8 "."

/-- The path without its last name; nothing is above the root and the empty path. Names that stand
for the directory before them do not count. -/
def parent? (path : Bytes) : Option Bytes :=
  match components path with
  | [] => none
  | first :: rest =>
    match rest.reverse.dropWhile isHere with
    | [] => if first = [] then none else some []
    | _ :: above => some (join (first :: (above.dropWhile isHere).reverse))

/-- A name inside a directory. A name that is a path from the root stands for itself. -/
def child (directory name : Bytes) : Bytes :=
  if isAbsolute name then name
  else if directory = [] ∨ directory.getLast? = some slash then directory ++ name
  else directory ++ [slash] ++ name

/-- Makes a directory and those above it, at most `depth` of them. One that is there already is
left alone, and so are those made before a failure. -/
def makeDirectories (depth : Nat) (fs : FileSystem) (path : Bytes) :
    Except Failure Unit × FileSystem :=
  if path = [] then (.ok (), fs)
  else
    match fs.makeDirectory path with
    | .ok made => (.ok (), made)
    | .error cause =>
      if cause ≠ .noEntry then (if fs.isDirectory path then .ok () else .error cause, fs)
      else
        match depth, parent? path with
        | depth + 1, some above =>
          match makeDirectories depth fs above with
          | (.error cause, made) => (.error cause, made)
          | (.ok _, made) =>
            match made.makeDirectory path with
            | .ok done => (.ok (), done)
            | .error cause => (if made.isDirectory path then .ok () else .error cause, made)
        | _, _ => (.error (.other "failed to create whole tree"), fs)

def ensurePlaces (fs : FileSystem) (places : List Place) : FileSystem :=
  places.foldl (fun fs place => if (fs.node? place).isSome then fs else fs.put place .directory) fs

def plant (fs : FileSystem) (place : Place) (node : Node) : FileSystem :=
  (fs.ensurePlaces ((List.range place.length).map place.take)).put place node

end FileSystem
end Retrieval.Storage
