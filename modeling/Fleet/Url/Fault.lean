/-
Why a text is not a URL.
-/
namespace Fleet.Url

/-- What is wrong with a text read as a URL. -/
inductive Fault where
  /-- There is no scheme. -/
  | relative
  | emptyHost
  | port
  | ipv4
  | ipv6
  /-- The host of a special scheme is not a domain. -/
  | domain
  /-- The host of another scheme has a character that no host may have. -/
  | hostCharacter
deriving DecidableEq, Repr

/-- The words for a fault. -/
def Fault.message : Fault → String
  | relative => "relative URL without a base"
  | emptyHost => "empty host"
  | port => "invalid port number"
  | ipv4 => "invalid IPv4 address"
  | ipv6 => "invalid IPv6 address"
  | domain => "invalid international domain name"
  | hostCharacter => "invalid domain character"

end Fleet.Url
