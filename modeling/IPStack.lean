import IPStack.Tcp.Calls
import IPStack.Tcp.RetentionRuns
import IPStack.Lib.Ranges
import IPStack.Lib.Reach
import IPStack.Tcp.SendWindow
import IPStack.Tcp.Inert
import IPStack.Tcp.ReceiveQueue
import IPStack.Tcp.Ownership
import IPStack.Ipv4.Packet
import IPStack.Ipv4.Reassembly
import IPStack.Ipv4.ReassemblyBitmap
import IPStack.Ipv4.ReassemblyRuns
import IPStack.Ipv4.ReassemblyBounds
import IPStack.Ipv4.ReassemblyOrder
import IPStack.Tcp.ReceiveContinuous
import IPStack.Tcp.ReceiveStream
import IPStack.Ipv6.Packet
import IPStack.Ipv6.ExtensionHeaders
import IPStack.Ipv6.OptionHeaders
import IPStack.Ipv6.AddressMemory
import IPStack.Ipv6.NeighbourCache
import IPStack.Ipv6.RouterAdvertisement
import IPStack.Ipv6.AdvertisedPrefixes
import IPStack.Ipv6.DestinationCache
import IPStack.Ipv6.CacheLinks
import IPStack.Lowpan.HeaderCompression
import IPStack.Lowpan.HeaderRoundTrip
import IPStack.Lib.Linked
import IPStack.Tcp.Demux
import IPStack.Tcp.Stack
import IPStack.Tcp.DemuxLists
import IPStack.Tcp.DemuxBind
import IPStack.Tcp.SegmentLengths
import IPStack.Tcp.NextTimeout
import IPStack.Tcp.PendingAck
import IPStack.Tcp.WindowOrder
import IPStack.Tcp.ReceiveRounds
import IPStack.Tcp.SingleSegment
import IPStack.Lib.DoublyLinked
import IPStack.Tcp.HistoryList
import IPStack.Tcp.SendAttempts
import IPStack.Tcp.CallFrames
import IPStack.Tcp.CallRuns
import IPStack.Tcp.WriteRuns
import IPStack.Tcp.Counted
import IPStack.Tcp.EmittedRounds
import IPStack.Tcp.Connections
import IPStack.Tcp.ReceiveWindow
import IPStack.Tcp.AckNumbers
import IPStack.Tcp.CongestionWindow
import IPStack.Tcp.RoundTripTime
import IPStack.Udp.Demux
import IPStack.Socket.SendBuffers
import IPStack.Tcp.MssFeasibility
import IPStack.Tcp.MssOption
import IPStack.Udp.Receive
import IPStack.Tcp.CongestionRuns
import IPStack.Tcp.KarnSampling
import IPStack.Tcp.KarnRuns
import IPStack.Ipv6.PrefixComparison
import IPStack.Lib.OnesComplement
import IPStack.Lib.CStrings
import IPStack.Ipv6.AddressScope
import IPStack.Ipv6.DestinationFilter
import IPStack.Ipv6.Routing
import IPStack.Ipv6.OptionWalks
import IPStack.Ipv6.CacheExpire
import IPStack.Ipv6.AddressText
import IPStack.Ethernet.AddressText
import IPStack.Ip.ChecksumWords
import IPStack.Ip.TransmitChecksums
import IPStack.Tcp.BufferProtocol
import IPStack.Tcp.DriverRuns
import IPStack.Lib.BoundedQueue
import IPStack.Lib.Simulation
import IPStack.Util.Ringbuffer
import IPStack.Arp.Cache
import IPStack.Lib.BlockPool
import IPStack.Util.Mempool
import IPStack.Util.MempoolRuns
import IPStack.Socket.SharedMemory
import IPStack.Ipv6.AddressLifetimes
import IPStack.Tcp.SessionBuffer
import IPStack.Tcp.SessionSocket
import IPStack.Tcp.SessionRounds
import IPStack.Tcp.SessionRuns
import IPStack.Tcp.SessionIsolation
import IPStack.Tcp.StreamIntegrity
import IPStack.Arp.Packet
import IPStack.Lib.Network
import IPStack.Arp.Host
import IPStack.Arp.Network
import IPStack.Arp.Network
import IPStack.Ipv4.Routes
import IPStack.Ipv4.Responses
import IPStack.Ipv4.ResponsePackets
import IPStack.Ipv4.ResponseRuns
import IPStack.Ipv4.EchoReplies
import IPStack.Ipv4.ResponderMemory
import IPStack.Tcp.ResetResponses
