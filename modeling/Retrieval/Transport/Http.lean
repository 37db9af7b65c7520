import Retrieval.Config
import Retrieval.Http.Network
import Retrieval.Transport.Basic

/-! The transport for web resources. -/
namespace Retrieval.Transport

def bodyItem (location : String) : Except Http.Failure Bytes → BodyItem
  | .ok data => .chunk data
  | .error cause => .failure (.network location cause)

/-- What is sent for a request. A content type that cannot stand in a header stops it. -/
def message? (config : Config) (request : Request) (url : Url) : Option Http.Message :=
  if request.contentType.all Http.isHeaderText then
    some
      { method := request.method, url, userAgent := config.userAgent
        contentType := request.contentType, body := request.body.getD []
        timeout := config.timeout.map Int.natAbs }
  else none

def exchange (config : Config) (network : Http.Network) (request : Request) (url : Url) : Reply :=
  match message? config request url with
  | none => .refusal (.network request.location .badHeader)
  | some message =>
    match network message with
    | .error cause => .refusal (.network request.location cause)
    | .ok reply =>
      .response
        { status := reply.status
          statusText := Http.reasonPhrase reply.status
          headers := reply.headers
          contentLength := reply.contentLength
          body := some (reply.body.map (bodyItem request.location)) }

/-- Sends requests over the network. A user agent that cannot stand in a header is refused from the
start. -/
def http (config : Config) (network : Http.Network) : Except LoadError Transport :=
  if config.userAgent.all Http.isHeaderText then
    .ok
      { progressive := config.progressive
        send := fun _ request target =>
          match target with
          | .file _ => { reply := .refusal (.unsupportedScheme request.location "file") }
          | .http url =>
            { reply := exchange config network request url
              accesses := (message? config request url).toList.map .host } }
  else .error (.clientBuild .badHeader)

end Retrieval.Transport
