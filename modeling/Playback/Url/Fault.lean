/-!
# Why an address is refused
-/

namespace Playback.Url

/-- What is wrong with an address. -/
inductive Fault where
  | emptyHost
  | invalidDomain
  | invalidPort
  | invalidIpv4
  | invalidIpv6
  | invalidHostCharacter
  | relative
  | missingHost
deriving DecidableEq, Repr

namespace Fault

def message : Fault → String
  | emptyHost => "empty host"
  | invalidDomain => "invalid international domain name"
  | invalidPort => "invalid port number"
  | invalidIpv4 => "invalid IPv4 address"
  | invalidIpv6 => "invalid IPv6 address"
  | invalidHostCharacter => "invalid domain character"
  | relative => "relative URL without a base"
  | missingHost => "missing host"

end Fault

end Playback.Url
