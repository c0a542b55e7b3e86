import LogWeave.Docker.Form

/-! The forms for ports, and for the networks of a container. -/
namespace LogWeave.Docker.Form

def protocols : List String := ["", "tcp", "udp", "sctp"]

/-- The protocol of a port, or `null`. A list or an object in its place is opened before it is
refused, so the place of the complaint is where its closing got to. -/
def protocol : Json.Reader Unit := Json.Reader.settle <| Json.Scalar.solid fun c =>
  match c with
  | 'n' => Json.Scalar.word "null"
  | '"' => do
    let name ← text
    unless protocols.contains name do
      Json.Reader.complain ("Invalid enum type: " ++ name)
  | '[' => Json.Reader.bracketed Json.closeList fun _ =>
    Json.Reader.object (.mismatch .list "a string")
  | '{' => Json.Reader.bracketed Json.closeObject fun _ =>
    Json.Reader.object (.mismatch .object "a string")
  | _ => Json.Scalar.mismatch "a string"

def port : Json.Reader Unit := object "Port" [
  looked "IP" text, needed "PrivatePort" Json.Scalar.unsigned16,
  looked "PublicPort" Json.Scalar.unsigned16, needed "Type" protocol]

/-- Where a port of a container is met on its host. -/
def portBinding : Json.Reader Unit := object "PortBinding" [
  looked "HostIp" text, looked "HostPort" text]

def portBindings : Json.Reader (List (String × Option (List Unit))) :=
  Json.Reader.mapOf (Json.Scalar.optional (Json.Reader.listOf portBinding))

def address : Json.Reader Unit := object "Address" [
  looked "Addr" text, looked "PrefixLen" whole]

/-- Addresses asked for on a network. -/
def fixedAddresses : Json.Reader Unit := object "EndpointIpamConfig" [
  looked "IPv4Address" text, looked "IPv6Address" text, looked "LinkLocalIPs" texts]

/-- A container on one network. -/
def endpoint : Json.Reader Unit := object "EndpointSettings" [
  looked "IPAMConfig" fixedAddresses, looked "Links" texts, looked "MacAddress" text,
  looked "Aliases" texts, looked "DriverOpts" textsByName, looked "NetworkID" text,
  looked "EndpointID" text, looked "Gateway" text, looked "IPAddress" text,
  looked "IPPrefixLen" whole, looked "IPv6Gateway" text, looked "GlobalIPv6Address" text,
  looked "GlobalIPv6PrefixLen" whole, looked "DNSNames" texts]

def endpoints : Json.Reader (List (String × Unit)) := Json.Reader.mapOf endpoint

/-- The networks of a container in a list. -/
def listedNetworks : Json.Reader Unit := object "ContainerSummaryNetworkSettings" [
  looked "Networks" endpoints]

/-- The networks of an inspected container. -/
def networks : Json.Reader Unit := object "NetworkSettings" [
  looked "Bridge" text, looked "SandboxID" text, looked "HairpinMode" flag,
  looked "LinkLocalIPv6Address" text, looked "LinkLocalIPv6PrefixLen" whole,
  looked "Ports" portBindings, looked "SandboxKey" text,
  looked "SecondaryIPAddresses" (Json.Reader.listOf address),
  looked "SecondaryIPv6Addresses" (Json.Reader.listOf address), looked "EndpointID" text,
  looked "Gateway" text, looked "GlobalIPv6Address" text, looked "GlobalIPv6PrefixLen" whole,
  looked "IPAddress" text, looked "IPPrefixLen" whole, looked "IPv6Gateway" text,
  looked "MacAddress" text, looked "Networks" endpoints]

end LogWeave.Docker.Form
