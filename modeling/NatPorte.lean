import NatPorte.Ring
import NatPorte.TcpState
import NatPorte.Library.KeyedSet
import NatPorte.Structure
import NatPorte.Library.ByteBuffer
import NatPorte.Library.OnesComplement
import NatPorte.Packet
import NatPorte.Checksum
import NatPorte.InternetChecksum
import NatPorte.Alias
import NatPorte.Library.Numerals
import NatPorte.Library.ObjectMap
import NatPorte.Entry
import NatPorte.PortRange
import NatPorte.PoolServer
import NatPorte.Library.ScriptNumber
import NatPorte.AddressText
import NatPorte.Sockets
import NatPorte.Tracking
import NatPorte.Lookup
import NatPorte.System
import NatPorte.Steps
import NatPorte.Library.Pipeline
import NatPorte.InFlight
import NatPorte.ClosingEntry
import NatPorte.Pairing
import NatPorte.Releases
import NatPorte.Timers
import NatPorte.Library.ReplicaLog
import NatPorte.Agreement
import NatPorte.Refusals
import NatPorte.Opening
import NatPorte.Direction
import NatPorte.Hostid
import NatPorte.Room
import NatPorte.Library.RecursiveMutex
import NatPorte.RingLock
import NatPorte.UdpZero
import NatPorte.Mtu
import NatPorte.Hairpin
import NatPorte.Reset
import NatPorte.RedBlackInsert
import NatPorte.RedBlackRemove
import NatPorte.RedBlackWalk
import NatPorte.TreeTable
import NatPorte.Progress
import NatPorte.Settling
import NatPorte.Icmp
import NatPorte.IcmpErrors
import NatPorte.FragNeeded
import NatPorte.PathMtu
import NatPorte.Closing
import NatPorte.Library.Footprint
import NatPorte.Flows
import NatPorte.Library.Accesses
import NatPorte.Bounds
import NatPorte.Library.Delimited
import NatPorte.Framing
import NatPorte.Library.LinkedTree
import NatPorte.RedBlack
import NatPorte.Library.JsonText
import NatPorte.Library.JsonPrinter
import NatPorte.MessageText
import NatPorte.Idle
import NatPorte.Interfaces
import NatPorte.Forwarding
import NatPorte.Isolation
