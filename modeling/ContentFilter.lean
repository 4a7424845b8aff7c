import ContentFilter.Basic
import ContentFilter.State
import ContentFilter.Dispatch
import ContentFilter.Service
import ContentFilter.DataPath
import ContentFilter.Flow
import ContentFilter.Frame
import ContentFilter.Representation
import ContentFilter.Servicing
import ContentFilter.DataPathInvariant
import ContentFilter.DebugChecks
import ContentFilter.PassAll
import ContentFilter.Bless
import ContentFilter.Drop
import ContentFilter.Verdicts
import ContentFilter.PendingWindow
import ContentFilter.EventOrder
import ContentFilter.Retry
import ContentFilter.Registry
import ContentFilter.Links
import ContentFilter.FlowControlLift
import ContentFilter.RegistryInvariant
import ContentFilter.RegistryConsistency
import ContentFilter.Stats
import ContentFilter.Attach
import ContentFilter.Callbacks
import ContentFilter.Accounting
import ContentFilter.StatsReport
import ContentFilter.SockbufLock
import ContentFilter.Chaining
import ContentFilter.PendingTransit
import ContentFilter.Trailing
import ContentFilter.FastPathGuard
import ContentFilter.Datagram
import ContentFilter.Siblings
import ContentFilter.DatagramRuns
import ContentFilter.DatagramTeardown
import ContentFilter.SocketEnd
import ContentFilter.FrontDoor
import ContentFilter.SockId
import ContentFilter.Connect
import ContentFilter.DatagramIds
import ContentFilter.Options
