import Retrieval.LoadError
import Retrieval.Text.Utf8
import Retrieval.Url.Parse

/-! Where a location leads. A location with a scheme means the same under every base; one without
is read against the base, or is a local path where there is none. -/
namespace Retrieval

inductive Target
  /-- A URL of the `http` or the `https` scheme. -/
  | http (url : Url)
  /-- A local path. -/
  | file (path : Bytes)

namespace Target

def display : Target → String
  | http url => url.render
  | file path => Utf8.lenient path

/-- The target of a URL, which must be one of the web or of this host's files. -/
def ofUrl (location : String) (url : Url) : Except LoadError Target :=
  if url.scheme = "http" ∨ url.scheme = "https" then .ok (http url)
  else if url.scheme = "file" then
    match url.toLocalPath? with
    | some path => .ok (file path)
    | none => .error (.unsupportedScheme location "file (non-local host)")
  else .error (.unsupportedScheme location url.scheme)

def ofPath (location : String) : Target := file (utf8 location)

/-- Resolves a location. A scheme of one letter is a drive, so that the whole is a path. -/
def resolve (location : String) (base : Option Url) : Except LoadError Target :=
  match Url.parse location with
  | .ok url => if url.scheme.length = 1 then .ok (ofPath location) else ofUrl location url
  | .error .relativeWithoutBase =>
    match base with
    | none => .ok (ofPath location)
    | some b =>
      match b.join location with
      | .ok url => ofUrl location url
      | .error cause => .error (.invalidLocation location cause)
  | .error cause => .error (.invalidLocation location cause)

end Target
end Retrieval
