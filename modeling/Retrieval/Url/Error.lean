/-! Why a text is not a URL. -/
namespace Retrieval.Url

inductive Error
  | emptyHost
  | domainName
  | port
  | ipv4Address
  | ipv6Address
  | domainCharacter
  | relativeWithoutBase
  | relativeToOpaque
  | hostOnOpaque
  | tooLong
  deriving DecidableEq

namespace Error

def message : Error → String
  | emptyHost => "empty host"
  | domainName => "invalid international domain name"
  | port => "invalid port number"
  | ipv4Address => "invalid IPv4 address"
  | ipv6Address => "invalid IPv6 address"
  | domainCharacter => "invalid domain character"
  | relativeWithoutBase => "relative URL without a base"
  | relativeToOpaque => "relative URL with a cannot-be-a-base base"
  | hostOnOpaque => "a cannot-be-a-base URL doesn’t have a host to set"
  | tooLong => "URLs more than 4 GB are not supported"

end Error
end Retrieval.Url
