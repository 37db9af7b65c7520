import Retrieval.Url.Domain
import Retrieval.Url.Error
import Retrieval.Url.Ipv6

/-! Hosts. A special scheme takes a registered name or an address, any other scheme an opaque name
or an address of eight pieces. -/
namespace Retrieval.Url

inductive Host
  | name (text : String)
  | ipv4 (address : Nat)
  | ipv6 (pieces : List Nat)

namespace Host

def bracketed (cs : List Char) : Except Error Host :=
  if cs.getLast? = some ']' then
    match Ipv6.parse? (cs.drop 1).dropLast with
    | some pieces => .ok (.ipv6 pieces)
    | none => .error .ipv6Address
  else .error .ipv6Address

def parse (cs : List Char) : Except Error Host :=
  if cs.head? = some '[' then bracketed cs
  else
    match Domain.toAscii? (percentDecode cs) with
    | none => .error .domainName
    | some [] => .error .emptyHost
    | some domain =>
      if Ipv4.endsInNumber domain then
        match Ipv4.parse? domain with
        | some address => .ok (.ipv4 address)
        | none => .error .ipv4Address
      else .ok (.name (String.ofList domain))

/-- The host of any other scheme. It may be empty. -/
def parseVerbatim (cs : List Char) : Except Error Host :=
  if cs.head? = some '[' then bracketed cs
  else if cs.any isForbiddenInHost then .error .domainCharacter
  else .ok (.name (String.ofList (percentEncode controlSet cs)))

def isEmpty : Host → Bool
  | name text => text.isEmpty
  | _ => false

def render : Host → String
  | name text => text
  | ipv4 address => Ipv4.render address
  | ipv6 pieces => "[" ++ Ipv6.render pieces ++ "]"

end Host
end Retrieval.Url
