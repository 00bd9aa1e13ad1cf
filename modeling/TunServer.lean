import TunServer.Base.Run
import TunServer.Base.Word
import TunServer.Base.Memory
import TunServer.Base.Front
import TunServer.Base.Share
import TunServer.Base.Tally
import TunServer.Base.Refine
import TunServer.Base.Relay
import TunServer.Packets.Header
import TunServer.Sessions2.Packet
import TunServer.Sessions2.Data
import TunServer.Sessions2.Receive
import TunServer.Sessions2.Flush
import TunServer.Sessions2.Frame
import TunServer.Sessions2.Isolation
import TunServer.Sessions2.Connection
import TunServer.Sessions2.Upload
import TunServer.Sessions2.Download
import TunServer.Sessions2.Shift
import TunServer.Session.Packet
import TunServer.Session.Data
import TunServer.Session.Upstream
import TunServer.Session.Downstream
import TunServer.Session.Frame
import TunServer.Session.Upload
import TunServer.Session.Integrity
import TunServer.Session.Shutdown
import TunServer.Session.Closing
import TunServer.Session.Order
import TunServer.Session.Translate
import TunServer.Session.Wrap
import TunServer.Session.Neighbours
import TunServer.Sessions2.Sets
import TunServer.Sessions2.Readiness
import TunServer.Sessions2.Handshake
import TunServer.Sessions2.Sending
import TunServer.Sessions2.Termination
import TunServer.Sessions2.Close
import TunServer.Sessions2.Space
import TunServer.Sessions2.Life
import TunServer.Handler.Data
import TunServer.Handler.Loop
import TunServer.Sessions2.Acknowledge
import TunServer.Sessions2.Reject
import TunServer.Sessions2.Segments
import TunServer.Sessions2.Resend
import TunServer.Sessions2.OldAck
import TunServer.Sessions2.Numbers
import TunServer.Session.Window
import TunServer.Sessions2.Window
import TunServer.Sessions2.Clock
import TunServer.Sessions2.Reuse
import TunServer.Sessions2.Neighbours
import TunServer.Handler.Frame
import TunServer.Handler.Routing
import TunServer.Handler.Scheduling
import TunServer.Handler.Tunnels
import TunServer.Handler.Candidates
import TunServer.Handler.Descriptors
import TunServer.Handler.Sockets
import TunServer.Handler.Countdown
import TunServer.Session.Tiling
import TunServer.Session.Options
import TunServer.Session.Ends
import TunServer.OldHandler.Loop
import TunServer.OldHandler.Routing
import TunServer.OldHandler.Lifecycle
import TunServer.Session.Connect
import TunServer.OldHandler.Replies
import TunServer.Handler.Ticks
import TunServer.Handler.Recovery
import TunServer.Connection.Fetcher
import TunServer.Connection.Reassembly
import TunServer.Connection.Decoding
import TunServer.Connection.Retries
import TunServer.Stun.Response
import TunServer.Stun.Attributes
import TunServer.Sessions2.Relayed
import TunServer.Base.Receiver
import TunServer.Sessions2.Placed
import TunServer.Sessions2.Delivery
import TunServer.Connection.Threads
import TunServer.Handler.Service
import TunServer.Handler.Histories
import TunServer.Handler.Ids
import TunServer.Base.Checksum
import TunServer.Raw.Packet
import TunServer.Raw.Checked
import TunServer.Base.Watchdog
import TunServer.Sessions2.Silence
import TunServer.Base.Pool
import TunServer.Handler.Threads
import TunServer.Handler.Atomic
import TunServer.Handler.Spared
