import Retrieval.Text.Direction
import Retrieval.Text.Mark
import Retrieval.Text.Utf8
import Retrieval.Url.Folding
import Retrieval.Url.PercentEncoding
import Retrieval.Url.Punycode

/-! Registered names. Each label of a name has a form in ASCII, and the name is sent with its labels
in that form. -/
namespace Retrieval.Url

def isForbiddenInHost (c : Char) : Bool :=
  c == '\x00' || "\t\n\r #/:<>?@[\\]^|".toList.contains c

/-- Characters that no registered name may hold, the controls among them. -/
def isForbiddenInDomain (c : Char) : Bool :=
  isForbiddenInHost c || controlSet c || c == '%'

namespace Domain

def mark : List Char := "xn--".toList

def isWide (cs : List Char) : Bool := cs.any (·.toNat ≥ 0x80)

structure Label where
  wide : List Char
  ascii : List Char

/-- Whether a label with characters outside ASCII may stand: it begins with no mark that belongs to
the character before it, and its joiners are in place. -/
def isSound (label : List Char) : Bool :=
  !label.head?.any isMark && Joiner.inPlace [] label

/-- Reads one folded label. One in ASCII form must stand for a folded label with other characters,
which does not itself look like an ASCII form. -/
def Label.read? (text : List Char) : Option Label :=
  if mark.isPrefixOf text then do
    if isWide text then none
    let wide ← Punycode.decode? (text.drop mark.length)
    if isWide wide && fold? wide == some wide && isSound wide && !mark.isPrefixOf wide then
      some ⟨wide, text⟩
    else none
  else if !isWide text then some ⟨text, text⟩
  else if isSound text then some ⟨text, mark ++ Punycode.encode text⟩
  else none

/-- The ASCII form of a registered name, given by its octets. In a name with a character that runs
from right to left, every label must be settled. -/
def toAscii? (octets : Bytes) : Option (List Char) := do
  let folded ← fold? (← Utf8.strict? octets)
  if folded.any isForbiddenInDomain then none
  let labels ← (folded.splitOn '.').mapM Label.read?
  if labels.any (Direction.turns ·.wide) && !labels.all (Direction.isSettled ·.wide) then none
  some ((['.']).intercalate (labels.map (·.ascii)))

end Domain
end Retrieval.Url
