import Srwsn.Net.TCPIPchecksum
import Srwsn.Link.Ledger
import Srwsn.SR.Learning
import Srwsn.SR.Slots
import Srwsn.SR.ReverseHops
import Srwsn.SR.Uniqueness
import Srwsn.SR.Bounds
import Srwsn.SR.Neighbors
import Srwsn.Tcp.Messages
import Srwsn.Tcp.SendRange
import Srwsn.Tcp.LocalClose
import Srwsn.Tcp.PeerClose
import Srwsn.Net.Fragmentation
import Srwsn.Net.RouteChecks
import Srwsn.Tcp.Forking
import Srwsn.Sctp.Fragments
import Srwsn.Sctp.Ordering
import Srwsn.Sctp.Held
import Srwsn.Sctp.Interleaving
import Srwsn.Switch.RelayUnitNP
import Srwsn.Ether.Timers
import Srwsn.Ether.Transmissions
import Srwsn.Net.Resolution
import Srwsn.Mpls.ShortestPaths
import Srwsn.Udp.Demux
import Srwsn.Ospf.Updates
import Srwsn.Dymo.LoopFree
import Srwsn.SR.Fields
import Srwsn.SR.Forwarding
import Srwsn.SR.Filters
import Srwsn.Tcp.Ports
import Srwsn.Net.LocalAddresses
import Srwsn.Net.Prefixes
import Srwsn.Tcp.SynText
import Srwsn.Tcp.TCPSerializer
import Srwsn.Net.IPSerializer
