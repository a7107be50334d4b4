import EvpnForOvn.Lib.Method
import EvpnForOvn.Type2.Endpoint
import EvpnForOvn.Endpoint.Northbound

/-!
# The OVS attachment manager

`EnsureAttachmentWithIdentity`, `CheckAttachmentWithIdentity` and
`DeleteAttachmentWithIdentity` as programs over the Open vSwitch database,
with the store that builds their transactions.  Each lists the rows it needs, decides on what it has read, and
writes in later transactions.

The store reports its errors to two callers that return different values
beside an error, so its methods take the way an error is reported.
-/

namespace EvpnForOvn.Attachment

open Go Interactive
open Evpn.LocalEndpoint (quoted)

/-- `endpoint.AttachmentIdentity`. -/
structure Identity where
  endpointID : String
  networkID : String
  attachmentID : String
  workloadUID : String
  incarnation : String

def externalIDManagedBy : String := "evpn.framework/managed-by"
def externalIDEndpointID : String := "evpn.framework/endpoint-id"
def externalIDNetworkID : String := "evpn.framework/network-id"
def externalIDAttachID : String := "evpn.framework/attachment-id"
def externalIDWorkloadUID : String := "evpn.framework/workload-uid"
def externalIDIncarnation : String := "evpn.framework/incarnation"
def externalIDIfaceID : String := "iface-id"
def ownerValue : String := "evpn-node-agent"

def externalIDsForIdentity (identity : Identity)
    (logicalSwitchPort mac : String) : GoMap String :=
  let ids := ((((((GoMap.empty.set externalIDManagedBy ownerValue).set
    externalIDEndpointID identity.endpointID).set
    externalIDNetworkID identity.networkID).set
    externalIDAttachID identity.attachmentID).set
    externalIDWorkloadUID identity.workloadUID).set
    externalIDIncarnation identity.incarnation).set
    externalIDIfaceID logicalSwitchPort
  if isBlank mac then ids else ids.set "attached-mac" mac

end EvpnForOvn.Attachment
