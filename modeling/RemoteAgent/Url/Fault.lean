/-!
# Why a text is no URL
-/

namespace RemoteAgent.Url

/-- Why a text is no absolute URL. -/
inductive Fault where
  /-- The text has no scheme. -/
  | noScheme
  /-- The host is empty where one is needed. -/
  | emptyHost
  /-- The port is no number below 65536. -/
  | badPort
  /-- The host ends in a number and is no IPv4 address. -/
  | badIpv4
  /-- The host in brackets is no IPv6 address. -/
  | badIpv6
  /-- The host name has a character or a label that no name may have. -/
  | badName
  /-- The opaque host has a character that no host may have. -/
  | badHostCharacter
  deriving DecidableEq, Repr

/-- The wording of a fault. -/
def Fault.message : Fault → String
  | .noScheme => "relative URL without a base"
  | .emptyHost => "empty host"
  | .badPort => "invalid port number"
  | .badIpv4 => "invalid IPv4 address"
  | .badIpv6 => "invalid IPv6 address"
  | .badName => "invalid international domain name"
  | .badHostCharacter => "invalid domain character"

end RemoteAgent.Url
