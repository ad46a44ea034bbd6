import Rvpn.Client.DirectDial
import Rvpn.Client.DnsSynthesis
import Rvpn.Client.Established
import Rvpn.Client.ExitChoice
import Rvpn.Client.HttpFraming
import Rvpn.Client.LocalAnswers
import Rvpn.Client.PinStore
import Rvpn.Client.PoolFlows
import Rvpn.Crypto.DhExchange
import Rvpn.Crypto.ErrorFrame
import Rvpn.Crypto.OutOfOrder
import Rvpn.Identity.PinForms
import Rvpn.Identity.Rotation
import Rvpn.Mobile.ExitStickiness
import Rvpn.Mobile.FlapThrottle
import Rvpn.Mobile.RelayTasks
import Rvpn.Mobile.TunnelAddress
import Rvpn.Mobile.WsReader
import Rvpn.Mux.CreditWait
import Rvpn.Mux.Deadlock
import Rvpn.Mux.EarlyData
import Rvpn.Mux.FlowCleanup
import Rvpn.Mux.FlowSender
import Rvpn.Mux.FrameCodec
import Rvpn.Mux.Ledger
import Rvpn.Mux.Padding
import Rvpn.Mux.Registration
import Rvpn.Mux.TunMode
import Rvpn.Protocol.Codec
import Rvpn.Protocol.LengthFraming
import Rvpn.Relay.Udp
import Rvpn.Server.Decoy
import Rvpn.Server.Exemption
import Rvpn.Server.FlowTable
import Rvpn.Server.IdleTimers
import Rvpn.Server.PendingFlows
import Rvpn.Server.PoolCap
import Rvpn.Server.RateLimit
import Rvpn.Server.TargetAddress
import Rvpn.Session.Replay
import Rvpn.Session.WireOrder
import Rvpn.Tls.Resumption
import Rvpn.Tun.Downlink
import Rvpn.Tun.Isolation
import Rvpn.Tun.PoolLocks
import Rvpn.Tun.ReadLoop
