import SignedRest.Host.Ipv6
import SignedRest.Host.International

/-! The host of a URL: a name, possibly empty, or an address. Names of web hosts are domain
names; other schemes keep a name as it is written. -/
namespace SignedRest

inductive UrlError
  | relativeWithoutBase
  | emptyHost
  | invalidPort
  | invalidIpv4
  | invalidIpv6
  | invalidDomainCharacter
  | invalidDomainName
  | noHostToSet
  deriving DecidableEq, Repr

def UrlError.message : UrlError → String
  | .relativeWithoutBase => "relative URL without a base"
  | .emptyHost => "empty host"
  | .invalidPort => "invalid port number"
  | .invalidIpv4 => "invalid IPv4 address"
  | .invalidIpv6 => "invalid IPv6 address"
  | .invalidDomainCharacter => "invalid domain character"
  | .invalidDomainName => "invalid international domain name"
  | .noHostToSet => "a cannot-be-a-base URL doesn’t have a host to set"

inductive Host
  | domain (name : String)
  | ipv4 (address : UInt32)
  | ipv6 (address : Ipv6)
  deriving DecidableEq, Repr

namespace Host

def empty : Host := .domain ""

def write : Host → String
  | .domain name => name
  | .ipv4 address => Ipv4.write address
  | .ipv6 address => "[" ++ address.write ++ "]"

/-- An IPv6 address between brackets, of which the first has been seen. -/
def bracketed (rest : List Char) : Except UrlError Host :=
  if rest.getLast? = some ']' then
    match Ipv6.parse rest.dropLast with
    | some address => .ok (.ipv6 address)
    | none => .error .invalidIpv6
  else .error .invalidIpv6

def named (name : String) : Except UrlError Host :=
  if name = "" then .error .emptyHost
  else if Ipv4.endsInNumber name.toList then
    match Ipv4.parse name.toList with
    | some address => .ok (.ipv4 address)
    | none => .error .invalidIpv4
  else .ok (.domain name)

def parse (cs : List Char) : Except UrlError Host :=
  match cs with
  | '[' :: rest => bracketed rest
  | _ =>
    match (Utf8.decode? (Percent.decode (Utf8.encode (String.ofList cs)))).bind
        Domain.toAscii? with
    | some name => named name
    | none => .error .invalidDomainName

def isForbidden (c : Char) : Bool :=
  ['\x00', '\t', '\n', '\r', ' ', '#', '/', ':', '<', '>', '?', '@', '[', '\\', ']', '^',
    '|'].contains c

def isVisible (b : UInt8) : Bool := 0x20 ≤ b && b < 0x7F

/-- A host whose name is no domain name. -/
def parseOther (cs : List Char) : Except UrlError Host :=
  match cs with
  | '[' :: rest => bracketed rest
  | _ =>
    if cs.any isForbidden then .error .invalidDomainCharacter
    else .ok (.domain (String.ofList
      (Percent.encodeBytes isVisible (Utf8.encode (String.ofList cs)))))

end Host
end SignedRest
