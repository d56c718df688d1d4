import RemoteCall.Text.Quoted
import RemoteCall.Address.IPv6
/-!
# Endpoints

An endpoint is the address of a service, `scheme://host:port/path`. The scheme selects the
transport, host and port locate the far end, and the path names the service hosted there.
IPv6 hosts stand in brackets. `Endpoint.parse` reads an endpoint and `Endpoint.toText` writes
one; the text of a host that is an IPv6 address is canonical.
-/

namespace RemoteCall

/-- The address of a service. Endpoints are equal when all their parts are. -/
structure Endpoint where
  /-- The name of the transport, in lower case for parsed endpoints. -/
  scheme : String
  /-- A host name or an address literal, without brackets. -/
  host : String
  /-- The port, if there is one. -/
  port : Option UInt16
  /-- The name of the service, without slashes at its ends for parsed endpoints. -/
  path : String
  deriving Repr, DecidableEq

namespace Endpoint

/-- Why a text is no endpoint. -/
inductive ParseError where
  /-- There is no `://`. -/
  | missingScheme
  /-- The text before the first `://` is no scheme. -/
  | invalidScheme (scheme : String)
  /-- The brackets around an address, or what they hold, are malformed. -/
  | invalidHost (authority : String)
  /-- The text after the colon is no port. -/
  | invalidPort (port : String)
  deriving Repr, DecidableEq

/-- The description of a parse error. -/
def ParseError.message : ParseError → String
  | .missingScheme => "missing scheme separator"
  | .invalidScheme scheme => "invalid scheme: " ++ Text.quote scheme
  | .invalidHost authority => "invalid host: " ++ Text.quote authority
  | .invalidPort port => "invalid port: " ++ Text.quote port

/-- Splits a text at its first `://`. The characters already passed are given in reverse. -/
def splitScheme (passed : List Char) : List Char → Option (List Char × List Char)
  | ':' :: '/' :: '/' :: rest => some (passed.reverse, rest)
  | c :: rest => splitScheme (c :: passed) rest
  | [] => none

/-- Whether a character may stand in a scheme. -/
def isSchemeChar (c : Char) : Bool :=
  c.isAlphanum || c == '+' || c == '-' || c == '.'

/-- A text without the slashes at its ends. -/
def trimSlashes (cs : List Char) : List Char :=
  ((cs.dropWhile (· == '/')).reverse.dropWhile (· == '/')).reverse

/-- Reads a port. -/
def parsePort (cs : List Char) : Except ParseError UInt16 :=
  match Text.natural? UInt16.size cs with
  | some n => .ok (UInt16.ofNat n)
  | none => .error (.invalidPort (String.ofList cs))

/-- Reads what follows the opening bracket of an address: the address, the closing bracket,
and nothing else or a colon and a port. The whole authority is given for the error. -/
def parseBracketed (authority inside : List Char) :
    Except ParseError (List Char × Option UInt16) :=
  let ip := inside.takeWhile (· != ']')
  match inside.dropWhile (· != ']') with
  | [] => .error (.invalidHost (String.ofList authority))
  | _ :: after =>
    match Address.Literal.parse? ip, after with
    | none, _ => .error (.invalidHost (String.ofList authority))
    | some _, [] => .ok (ip, none)
    | some _, ':' :: port => (parsePort port).map fun p => (ip, some p)
    | some _, _ => .error (.invalidHost (String.ofList authority))

/-- Reads a host and the port after the last colon, if there is a colon. A host that begins
with a bracket is an address literal, and the colons inside the brackets are its own. -/
def parseAuthority (authority : List Char) :
    Except ParseError (List Char × Option UInt16) :=
  match authority with
  | '[' :: inside => parseBracketed authority inside
  | _ =>
    -- The port follows the last colon, so the authority is searched from its end.
    let backwards := authority.reverse
    match backwards.dropWhile (· != ':') with
    | [] => .ok (authority, none)
    | _ :: host =>
      (parsePort (backwards.takeWhile (· != ':')).reverse).map fun p => (host.reverse, some p)

/-- Reads an endpoint from a list of characters. -/
def parseChars (cs : List Char) : Except ParseError Endpoint :=
  match splitScheme [] cs with
  | none => .error .missingScheme
  | some (scheme, rest) =>
    if scheme.isEmpty || !scheme.all isSchemeChar then
      .error (.invalidScheme (String.ofList scheme))
    else
      let path := (rest.dropWhile (· != '/')).drop 1
      (parseAuthority (rest.takeWhile (· != '/'))).map fun (host, port) =>
        { scheme := String.ofList (scheme.map Char.toLower)
          host := String.ofList host
          port
          path := String.ofList (trimSlashes path) }

/-- Reads an endpoint. The scheme becomes lower case, and slashes at the ends of the path are
left out. -/
def parse (s : String) : Except ParseError Endpoint :=
  parseChars s.toList

/-- The IPv6 address that the host is, if it is one. -/
def ipv6? (e : Endpoint) : Option Address.IPv6 :=
  match Address.Literal.parse? e.host.toList with
  | some (.v6 ip) => some ip
  | _ => none

/-- The host as it stands in front of a port: an IPv6 address in canonical form and in
brackets, any other host as it is. -/
def hostText (e : Endpoint) : String :=
  match e.ipv6? with
  | some ip => "[" ++ ip.toText ++ "]"
  | none => e.host

/-- Host and port as a connection needs them; nothing if the endpoint has no port. -/
def socketAddress? (e : Endpoint) : Option String :=
  e.port.map fun port => s!"{e.hostText}:{port.toNat}"

/-- The host with the port, if there is one. -/
def authority (e : Endpoint) : String :=
  e.socketAddress?.getD e.hostText

/-- The text of an endpoint. -/
def toText (e : Endpoint) : String :=
  s!"{e.scheme}://{e.authority}/{e.path}"

/-- The endpoint of a named service at the same address. -/
def withService (e : Endpoint) (service : String) : Endpoint :=
  { e with path := String.ofList (trimSlashes service.toList) }

end Endpoint

end RemoteCall
