/-! Request methods: tokens, kept in the spelling they were given in. -/
namespace Retrieval.Http

def isTokenChar (c : Char) : Bool := c.isAlphanum || "!#$%&'*+-.^_`|~".toList.contains c

def isToken (s : String) : Bool := !s.isEmpty && s.toList.all isTokenChar

structure Method where
  text : String
  isToken_text : isToken text = true

namespace Method

def ofText? (s : String) : Option Method := if h : isToken s = true then some ⟨s, h⟩ else none

def get : Method := ⟨"GET", by decide⟩

/-- The method of a name in any case; methods are written in capitals. -/
def ofAnyCase? (s : String) : Option Method := ofText? (s.map Char.toUpper)

def invalidMessage : String := "invalid HTTP method"

def isSafe (m : Method) : Bool := ["GET", "HEAD", "OPTIONS", "TRACE"].contains m.text

def isIdempotent (m : Method) : Bool := m.isSafe || ["PUT", "DELETE"].contains m.text

end Method

/-- Whether a text may stand in a header: no controls but the tab. -/
def isHeaderText (s : String) : Bool :=
  s.toList.all fun c => c == '\t' || (c.toNat ≥ 0x20 && c.toNat != 0x7F)

end Retrieval.Http
