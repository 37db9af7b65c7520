import Retrieval.Url.Host
import Retrieval.Url.Path

/-! URLs: a scheme, an authority for some, a path, a query and a fragment. All text is kept in its
encoded form. -/
namespace Retrieval

namespace Url

def kindOf (scheme : String) : SchemeKind :=
  if scheme = "file" then .file
  else if scheme ∈ ["http", "https", "ws", "wss", "ftp"] then .web
  else .other

def impliedPort? (scheme : String) : Option Nat :=
  match scheme with
  | "http" | "ws" => some 80
  | "https" | "wss" => some 443
  | "ftp" => some 21
  | _ => none

end Url

structure Url where
  scheme : String
  user : String := ""
  password : String := ""
  host : Option Url.Host := none
  port : Option Nat := none
  path : Url.Path
  query : Option String := none
  fragment : Option String := none

namespace Url

def kind (u : Url) : SchemeKind := kindOf u.scheme

def hasCredentials (u : Url) : Bool := !u.user.isEmpty || !u.password.isEmpty

def renderCredentials (u : Url) : String :=
  if u.hasCredentials then
    u.user ++ (if u.password.isEmpty then "" else ":" ++ u.password) ++ "@"
  else ""

def renderPort (u : Url) : String :=
  match u.port with
  | some n => ":" ++ toString n
  | none => ""

/-- Without an authority, a path whose first segment is empty is kept apart from one by a dot. -/
def renderPath (u : Url) : String :=
  match u.path with
  | .plain text => text
  | .segments list =>
    let dot := if u.host.isNone && list.length > 1 && list.head? == some "" then "/." else ""
    dot ++ String.join (list.map ("/" ++ ·))

def renderAuthority (u : Url) : String :=
  match u.host with
  | some h => "//" ++ u.renderCredentials ++ h.render ++ u.renderPort
  | none => ""

def render (u : Url) : String :=
  u.scheme ++ ":" ++ u.renderAuthority ++ u.renderPath
    ++ (u.query.map ("?" ++ ·)).getD "" ++ (u.fragment.map ("#" ++ ·)).getD ""

/-- The same URL as it is shown in messages, without user name and password. -/
def withoutCredentials (u : Url) : Url := { u with user := "", password := "" }

/-- The local path of a file URL, if its host is this one. A final drive letter gets a slash. -/
def toLocalPath? (u : Url) : Option Bytes :=
  match u.path with
  | .plain _ => none
  | .segments list =>
    if u.host.all Host.isEmpty then
      let path := list.flatMap fun s => 0x2F :: percentDecode s.toList
      let isDrive := match path.reverse with
        | b :: a :: _ :: _ => (b == 0x3A || b == 0x7C) && (Char.ofNat a.toNat).isAlpha
        | _ => false
      some (if isDrive then path ++ [0x2F] else path)
    else none

end Url
end Retrieval
