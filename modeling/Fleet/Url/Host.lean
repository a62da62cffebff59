/-
Hosts. The host of a special scheme is an address or a domain name, which may be written
percent-encoded and in any script; other schemes take any text without certain characters.
-/
import Fleet.Url.Address
import Fleet.Url.Domain
import Fleet.Url.Fault
import Fleet.Url.Percent

namespace Fleet.Url

/-- What a URL points at. -/
inductive Host where
  /-- No host between the slashes. -/
  | empty
  | domain (name : String)
  | ipv4 (address : Nat)
  | ipv6 (groups : List Nat)
  /-- The host of a scheme without rules of its own. -/
  | uninterpreted (text : String)
deriving DecidableEq, Repr

namespace Host

/-- The characters of a host. -/
def chars : Host → List Char
  | empty => []
  | domain name => name.toList
  | ipv4 address => ipv4Text address
  | ipv6 groups => '[' :: ipv6Text groups ++ [']']
  | uninterpreted text => text.toList

/-- The address in brackets, after the opening one. -/
def ofBracketed (cs : List Char) : Except Fault Host :=
  match cs.reverse with
  | ']' :: inner =>
    match ipv6? inner.reverse with
    | some groups => .ok (ipv6 groups)
    | none => .error .ipv6
  | _ => .error .ipv6

/-- The host of an ASCII domain name: an address if it ends in a number. -/
def ofDomain (name : List Char) : Except Fault Host :=
  if name.isEmpty then .error .emptyHost
  else if endsInNumber name then
    match ipv4? name with
    | some address => .ok (ipv4 address)
    | none => .error .ipv4
  else .ok (domain (String.ofList name))

/-- The host of a special scheme. -/
def ofSpecial : List Char → Except Fault Host
  | '[' :: cs => ofBracketed cs
  | cs =>
    match (decodeText? cs).bind fun name => Domain.toAscii? name.toList with
    | some name => ofDomain name
    | none => .error .domain

/-- The characters no host may have. -/
def isForbidden (c : Char) : Bool := "\x00\t\n\r #/:<>?@[\\]^|".toList.contains c

/-- The host of another scheme. -/
def ofOther : List Char → Except Fault Host
  | '[' :: cs => ofBracketed cs
  | [] => .ok empty
  | cs =>
    if cs.any isForbidden then .error .hostCharacter
    else .ok (uninterpreted (String.ofList (encode controlSet cs)))

end Host

end Fleet.Url
