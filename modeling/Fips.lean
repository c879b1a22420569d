import Fips.Node.RootElection
import Fips.Node.Announce
import Fips.Lib.PackedBits
import Fips.Noise.Cipher
import Fips.Noise.Replay
import Fips.Noise.Session
import Fips.Lib.Checked
import Fips.Lib.HandshakePattern
import Fips.Noise.Handshake
import Fips.Noise.Exchange
import Fips.Noise.Patterns
import Fips.Noise.Sample
import Fips.Lib.Wp
import Fips.Wire.Header
import Fips.Wire.Link
import Fips.Session.Entry
import Fips.Peer.Active
import Fips.Node.State
import Fips.Node.Session
import Fips.Node.Dispatch
import Fips.Node.Encrypted
import Fips.Node.RefusedFrame
import Fips.Node.Consistency
import Fips.Lib.ParentTree
import Fips.Network.SpanningTree
import Fips.Lib.CommonPrefix
import Fips.Tree.Routing
import Fips.Lib.TreeDistance
import Fips.Network.GreedyRouting
import Fips.Node.Routing
import Fips.Network.ForwardingLoop
import Fips.Bloom.State
import Fips.Node.Bloom
import Fips.Node.FilterMembers
import Fips.Node.FilterUpdates
import Fips.Peer.Connection
import Fips.Lib.Ledger
import Fips.Node.Link
import Fips.Node.Handshake
import Fips.Node.Rekey
import Fips.Node.IndexBooks
import Fips.Node.LinkTables
import Fips.Node.FrameOutcome
import Fips.Node.IndexInvariant
import Fips.Node.HandshakeIndices
import Fips.Noise.HandshakePanic
import Fips.Node.MessageIndices
import Fips.Node.RekeyIndices
import Fips.Node.IndexAccounting
import Fips.Node.Discovery
import Fips.Node.LookupSends
import Fips.Network.LookupRoles
import Fips.Node.SessionRules
import Fips.Node.SessionTimeouts
import Fips.Node.QueueOwners
import Fips.Node.PendingPackets
import Fips.Wire.Codec
import Fips.Node.KeyEpochs
import Fips.Node.KBitRun
import Fips.Lib.TreeFlood
import Fips.Network.FilterTree
import Fips.Node.PacketSize
import Fips.Node.RekeyTicks
import Fips.Node.LinkIds
import Fips.Node.Pursuit
import Fips.Node.Handover
import Fips.Node.AutoConnect
import Fips.Lib.ChunkedStream
import Fips.Transport.Tcp
import Fips.Mmp.Epochs
import Fips.Node.ErrorSignals
import Fips.Node.ForgedHandshakes
import Fips.Node.PeerPositions
import Fips.Node.Equivocation
import Fips.Wire.TreeCodec
import Fips.Node.AncestryLength
import Fips.Node.SendNonces
import Fips.Tree.Metric
import Fips.Mmp.PathMtu
import Fips.Mmp.PathMtuNotices
import Fips.Lib.Codec
import Fips.Wire.MessageCodec
import Fips.Node.CoordFrames
import Fips.Network.PathMtuRoutes
import Fips.Lib.Buffer
import Fips.Lib.OnesComplement
import Fips.Tree.FlapDampening
import Fips.Upper.TcpMss
import Fips.Cache.CoordCache
import Fips.Mmp.RoundTrip
import Fips.Node.ShimDelivery
import Fips.Upper.Icmp
import Fips.Lib.StatePart
import Fips.Node.Admission
import Fips.Node.AdmissionSlots
import Fips.Identity.Encoding
import Fips.Upper.Hosts
import Fips.Upper.Dns
import Fips.Mmp.Bursts
import Fips.Node.SessionKeys
import Fips.Node.Panics
import Fips.Node.CoordSends
import Fips.Network.CoordProvenance
import Fips.Node.SessionExchange
import Fips.Lib.Channel
import Fips.Node.SessionFrames
import Fips.Network.SessionChannel
import Fips.Lib.RateGate
import Fips.Node.DiscoveryPacing
import Fips.Node.PacedRun
import Fips.Lib.Crossing
import Fips.Node.LinkExchange
import Fips.Network.LinkPair
