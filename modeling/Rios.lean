import Rios.Machine
import Rios.OrderedMap
import Rios.Heap
import Rios.Queue
import Rios.SelfClocked
import Rios.Qos
import Rios.FairService
import Rios.Device
import Rios.Dhcp
import Rios.ParentForest
import Rios.Stp
import Rios.StpTopology
import Rios.Wire
import Rios.Bgp
import Rios.BgpNormalForm
import Rios.LabelSearch
import Rios.OspfLsa
import Rios.OspfSpf
import Rios.OspfForwarding
import Rios.BgpSession
import Rios.Frames
import Rios.BgpTransport
import Rios.BgpFraming
import Rios.Tcp
import Rios.TcpNetwork
import Rios.TcpStorm
import Rios.TcpWindow
import Rios.TcpStream
import Rios.Transport
import Rios.Translation
import Rios.TranslationTable
import Rios.TranslationSafety
import Rios.TranslationReplies
import Rios.OspfWire
import Rios.OspfExchange
import Rios.OspfRestart
import Rios.OspfAdjacency
import Rios.Arp
import Rios.BgpPolicy
import Rios.BgpEncoding
import Rios.Routing
import Rios.TcpRuntime
import Rios.BgpRib
import Rios.BgpExport
import Rios.BgpDevice
import Rios.BgpTables
import Rios.BgpPeers
import Rios.BgpForwarding
import Rios.BgpChoice
import Rios.Lacp
import Rios.LacpNegotiation
import Rios.LacpAnswers
import Rios.Vlan
import Rios.Dns
import Rios.OspfInvariants
import Rios.OspfExact
import Rios.OspfPacket
import Rios.Fletcher
import Rios.OspfDecode
import Rios.OspfNormalForm
import Rios.OspfV3
import Rios.OspfSizes
import Rios.OspfV3Decode
import Rios.OspfV3NormalForm
import Rios.Selection
import Rios.OspfV3Spf
import Rios.OspfV3Exact
import Rios.Deadlines
import Rios.Timers
import Rios.Switchports
import Rios.SwitchportReplay
import Rios.SwitchportSections
import Rios.SwitchportReload
import Rios.OspfSummaries
import Rios.OspfElection
import Rios.QosLedger
import Rios.QosBuckets
import Rios.QosDeadlines
import Rios.Programs
import Rios.Channels
import Rios.Link
import Rios.LinkRuns
import Rios.Ports
import Rios.Lab
import Rios.Packets
import Rios.DhcpCodec
import Rios.NeighborDiscovery
import Rios.ExtensionHeaders
import Rios.DhcpChoice
import Rios.DhcpTimers
import Rios.QosConfig
import Rios.Ipv6Addresses
import Rios.AddressLifetimes
import Rios.StpSync
import Rios.ForwardDelay
import Rios.SelfLinks
import Rios.Decimal
import Rios.Sequenced
import Rios.Words
import Rios.NewestInstance
import Rios.SpfTermination
import Rios.Http
import Rios.Services
import Rios.ServedStreams
import Rios.EchoService
import Rios.HttpService
import Rios.BlockFile
import Rios.Capture
import Rios.AccessLists
import Rios.NumberedLists
import Rios.AclGrammar
import Rios.AclRoundTrip
import Rios.AclHelp
import Rios.Delivery
import Rios.DeliveryRuns
import Rios.QosWaits
import Rios.Wakes
import Rios.WakeRuns
import Rios.BoundedMap
import Rios.OspfDevice
import Rios.OspfDatabase
import Rios.OspfProgress
import Rios.OspfNeighbors
import Rios.OspfRoutes
