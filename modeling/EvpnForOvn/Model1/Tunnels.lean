import EvpnForOvn.Import.Importer
import EvpnForOvn.Ownership.Journal

/-!
# Tunnels of the OVSDB-programmed integration

The configuration of the handler, the identity of its tunnels, and the part of
`ReconcileSnapshot` that turns a snapshot into the tunnels it asks for.
-/

namespace EvpnForOvn.Evpn

open Go

structure Model1Network where
  networkID : String
  logicalSwitch : String
  physicalNetwork : String
  providerBridge : String
  vni : Nat
  deriving DecidableEq, Repr

/-- A character that a bridge mapping cannot contain. -/
def mappingSeparator (character : Char) : Bool :=
  character == ':' || character == ',' || character == ' ' ||
    character == '\t' || character == '\r' || character == '\n'

def validModel1BridgeMapping (physicalNetwork bridge : String) : Bool :=
  !isBlank physicalNetwork && !isBlank bridge &&
    !(15 < bridge.utf8ByteSize || bridge == "." || bridge == ".." ||
      bridge == "br-int") &&
    !(physicalNetwork.toList.any mappingSeparator) &&
    !(bridge.toList.any mappingSeparator)

namespace Model1Config

/-- The checks on one network, without those of uniqueness. -/
def validNetwork (network : Model1Network) : Bool :=
  !isBlank network.networkID && !isBlank network.logicalSwitch &&
    validModel1BridgeMapping network.physicalNetwork network.providerBridge &&
    network.vni != 0 && !(16777215 < network.vni)

end Model1Config

structure Model1TunnelKey where
  networkID : String
  logicalSwitch : String
  vni : Nat
  remoteVTEP : String
  deriving DecidableEq, Repr

/-- The hexadecimal text of the SHA-256 digest of a text. -/
abbrev TextDigest : Type := String → String

def Model1TunnelKey.text (key : Model1TunnelKey) : String :=
  key.networkID ++ "\x00" ++ key.logicalSwitch ++ "\x00" ++
    toString key.vni ++ "\x00" ++ key.remoteVTEP

def model1TunnelID (sha : TextDigest) (key : Model1TunnelKey) : String :=
  sha key.text

end EvpnForOvn.Evpn
