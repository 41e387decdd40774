/-
**The header of the PROXY protocol.**

Both addresses are written in the family of the client; the other one is converted, or else
unspecified.  How an address is written as text is a parameter.
-/

import Wicket.IpText
import Wicket.Sni
import Wicket.Stream

namespace Wicket

open Bytes (be)
open Net (SocketAddr IpFormat)

/-! ### The header -/

/-- The first bytes of a header in version 2. -/
def proxyV2Signature : List UInt8 :=
  [0x0D, 0x0A, 0x0D, 0x0A, 0x00, 0x0D, 0x0A, 0x51, 0x55, 0x49, 0x54, 0x0A]

namespace ProxyProtocolEncoder

/-- The header as a line of text. -/
def encodeV1 (fmt : IpFormat) (clientAddr proxyAddr : SocketAddr) : List UInt8 :=
  let (protocol, srcIp, dstIp) :=
    if clientAddr.isIpv4 then ("TCP4", fmt.v4 clientAddr.asIpv4, fmt.v4 proxyAddr.asIpv4)
    else ("TCP6", fmt.v6 clientAddr.asIpv6, fmt.v6 proxyAddr.asIpv6)
  utf8Bytes ("PROXY " ++ protocol ++ " " ++ srcIp ++ " " ++ dstIp ++ " " ++
    toString clientAddr.port.toNat ++ " " ++ toString proxyAddr.port.toNat ++ "\r\n")

/-- The header in bytes: the signature, version and command, family, length, addresses, ports. -/
def encodeV2 (clientAddr proxyAddr : SocketAddr) : List UInt8 :=
  let addresses :=
    if clientAddr.isIpv4 then
      [0x11, 0x00, 0x0C] ++ clientAddr.asIpv4.bytes ++ proxyAddr.asIpv4.bytes
    else [0x21, 0x00, 0x24] ++ clientAddr.asIpv6.bytes ++ proxyAddr.asIpv6.bytes
  proxyV2Signature ++ [0x21] ++ addresses ++ be 2 clientAddr.port.toNat ++ be 2 proxyAddr.port.toNat

def encode (fmt : IpFormat) (version : ProxyProtocolVersion) (clientAddr proxyAddr : SocketAddr) :
    List UInt8 :=
  match version with
  | .V1 => encodeV1 fmt clientAddr proxyAddr
  | .V2 => encodeV2 clientAddr proxyAddr

end ProxyProtocolEncoder

end Wicket
