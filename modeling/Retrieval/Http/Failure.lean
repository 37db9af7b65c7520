/-! Why an exchange with a remote host failed, before an answer came or behind it. -/
namespace Retrieval.Http

inductive Failure
  /-- A header value holds a control character. -/
  | badHeader
  /-- No exchange with the host of this URL was possible. -/
  | unreachable (url : String)
  | other (text : String) (behind : List String)
  deriving DecidableEq

namespace Failure

def message : Failure → String
  | badHeader => "builder error"
  | unreachable url => "error sending request for url (" ++ url ++ ")"
  | other text _ => text

def causes : Failure → List String
  | badHeader => ["failed to parse header value"]
  | unreachable _ => ["client error (Connect)"]
  | other _ behind => behind

end Failure
end Retrieval.Http
