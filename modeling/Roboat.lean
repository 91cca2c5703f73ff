import Roboat.Transition.Machine
import Roboat.Transition.Tasks
import Roboat.Transition.Broadcast
import Roboat.Text.Hex
import Roboat.Text.Strings
import Roboat.Text.Utf8
import Roboat.Text.Shell
import Roboat.Text.Base64
import Roboat.Text.Rfc3339
import Roboat.Wire.BigEndian
import Roboat.Wire.TunnelPacket
import Roboat.Text.Json
import Roboat.Wire.Frame
import Roboat.Wire.FrameCodec
import Roboat.Daemon.StreamBridge
import Roboat.Daemon.Mux
import Roboat.Daemon.Manager
import Roboat.Daemon.StreamTable
import Roboat.Daemon.StreamEntries
import Roboat.Daemon.SendPath
import Roboat.Daemon.MuxSend
import Roboat.Daemon.MuxRead
import Roboat.Daemon.MuxStreams
import Roboat.Daemon.MuxIds
import Roboat.Daemon.MuxOpen
import Roboat.Daemon.MuxPool
import Roboat.Daemon.MuxFlush
import Roboat.Daemon.RemoteClose
import Roboat.Daemon.TableLocks
import Roboat.Daemon.ChannelCredit
import Roboat.Daemon.IpcServer
import Roboat.Daemon.IpcCodec
import Roboat.Daemon.AnnounceFirst
import Roboat.Daemon.ServerViews
import Roboat.Daemon.RecvForward
import Roboat.Daemon.StartListener
import Roboat.Daemon.InboundStream
import Roboat.Daemon.IncomingNotices
import Roboat.Daemon.IncomingDelivery
import Roboat.Daemon.Inbound
import Roboat.Relay.AttachSession
import Roboat.Relay.Hub
import Roboat.Relay.AttachRequests
import Roboat.Relay.Isolation
import Roboat.Relay.Responses
import Roboat.Relay.ControlIdentity
import Roboat.Relay.Exclusive
import Roboat.Relay.AttachOrder
import Roboat.Relay.RelayQueue
import Roboat.Relay.QueueStats
import Roboat.Relay.EnqueueWait
import Roboat.Relay.DataPlane
import Roboat.Auth.Authenticator
import Roboat.Auth.KeySync
import Roboat.Auth.Handshake
import Roboat.Signaling.Rendezvous
import Roboat.Signaling.Seats
import Roboat.Signaling.Peers
import Roboat.Signaling.Preempted
import Roboat.Connstate.State
import Roboat.Connstate.History
import Roboat.Connstate.Contention
import Roboat.Connstate.Evidence
import Roboat.Connstate.WhyNot
import Roboat.Connstate.Sessions
import Roboat.Relay.ControlLiveness
import Roboat.Relay.FallbackGate
import Roboat.Relay.ClientSession
import Roboat.Relay.RelayStream
import Roboat.Signaling.Bootstrap
import Roboat.Signaling.TriggerCall
import Roboat.Core.RosShell
import Roboat.Core.TunnelShutdown
import Roboat.Webrtc.TurnUrls
import Roboat.Store.Migrate
import Roboat.Client.SharedSocket
import Roboat.Client.PythonDials
import Roboat.Resolver.Cache
import Roboat.Daemon.Discovery
