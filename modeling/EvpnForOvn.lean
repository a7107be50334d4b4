import EvpnForOvn.Lib.Program
import EvpnForOvn.Lib.Method
import EvpnForOvn.Lib.Service
import EvpnForOvn.Lib.Steady
import EvpnForOvn.Go.Text
import EvpnForOvn.Go.Error
import EvpnForOvn.Ownership.Journal
import EvpnForOvn.Ownership.JournalSpec
import EvpnForOvn.Ownership.JournalFile
import EvpnForOvn.Ownership.JournalDisk
import EvpnForOvn.Ownership.CrashAtomicity
import EvpnForOvn.Ownership.JournalCell
import EvpnForOvn.Ownership.Uuid
import EvpnForOvn.Go.Map
import EvpnForOvn.Go.Net
import EvpnForOvn.Type2.Endpoint
import EvpnForOvn.Type2.Reconciler
import EvpnForOvn.Type2.ReconcilerSpec
import EvpnForOvn.Type2.ReconcilerRuns
import EvpnForOvn.Type2.Resync
import EvpnForOvn.Type2.Wire
import EvpnForOvn.Type2.Plan
import EvpnForOvn.Type2.RunSafety
import EvpnForOvn.Export.Exporter
import EvpnForOvn.Export.ExporterSpec
import EvpnForOvn.Export.WriteFence
import EvpnForOvn.Export.Recovery
import EvpnForOvn.Export.Receipts
import EvpnForOvn.Export.RecoverySpec
import EvpnForOvn.Export.SlotAbsence
import EvpnForOvn.Import.RemoteType2
import EvpnForOvn.Import.Importer
import EvpnForOvn.Import.TwoObservations
import EvpnForOvn.Model1.Tunnels
import EvpnForOvn.Model1.Vswitch
import EvpnForOvn.Model1.BridgeMapping
import EvpnForOvn.Model1.SharedRow
import EvpnForOvn.Lib.Query
import EvpnForOvn.Cni.Messages
import EvpnForOvn.Cni.Continuity
import EvpnForOvn.Cni.World
import EvpnForOvn.Cni.StateMachine
import EvpnForOvn.Cni.Operations
import EvpnForOvn.Cni.Recovery
import EvpnForOvn.Lib.Mutex
import EvpnForOvn.Cni.Acknowledgements
import EvpnForOvn.Cni.ExportGate
import EvpnForOvn.Lib.Interleave
import EvpnForOvn.Endpoint.Northbound
import EvpnForOvn.Endpoint.OvnBackend
import EvpnForOvn.Endpoint.OvnOwnership
import EvpnForOvn.Endpoint.StaleDelete
import EvpnForOvn.Attachment.OvsManager
import EvpnForOvn.Cni.PortNames
import EvpnForOvn.Cni.LinuxVeth
import EvpnForOvn.Cni.VethTexts
import EvpnForOvn.Type2.ResyncFence
import EvpnForOvn.Type2.ResyncSound
import EvpnForOvn.Export.OvnObserver
import EvpnForOvn.Cni.JoinedKeys
import EvpnForOvn.Go.NetText
import EvpnForOvn.Type2.WireFormat
import EvpnForOvn.Lib.Optimistic
import EvpnForOvn.Ovsdb.Clients
import EvpnForOvn.Ovsdb.Withdrawal
import EvpnForOvn.Ovsdb.ConcurrentClients
import EvpnForOvn.Model1.VswitchRules
import EvpnForOvn.Ovsdb.Vtep
import EvpnForOvn.Ovsdb.VtepSpec
import EvpnForOvn.Ovsdb.OwnPorts
import EvpnForOvn.Ovsdb.TransitPort
import EvpnForOvn.Ovsdb.RepeatedVtep
import EvpnForOvn.Ovsdb.RemotePaths
import EvpnForOvn.Ovsdb.RemoteTunnels
import EvpnForOvn.Export.ExporterConfig
import EvpnForOvn.Export.CniObserver
import EvpnForOvn.Export.ReloadedNetworks
import EvpnForOvn.Type2.Equivalence
import EvpnForOvn.Cni.Server
import EvpnForOvn.Cni.Bookkeeping
import EvpnForOvn.Lib.Alone
import EvpnForOvn.Ovsdb.Networks
import EvpnForOvn.Ovsdb.NetworkUpdates
import EvpnForOvn.Ovsdb.PortCalls
import EvpnForOvn.Ovsdb.PortDeletion
import EvpnForOvn.Ovsdb.NetworkEffects
import EvpnForOvn.Ovsdb.NetworkNames
import EvpnForOvn.Lib.Refinement
import EvpnForOvn.Ovsdb.NetworkDirectory
import EvpnForOvn.Import.Generations
import EvpnForOvn.Export.WriteAhead
import EvpnForOvn.Ovsdb.AddressBook
