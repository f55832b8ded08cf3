import Mcproxy.AddrStorage
import Mcproxy.AddrStorage.Comparison
import Mcproxy.AddrStorage.Increment
import Mcproxy.Checksum.Internet
import Mcproxy.Container.Heap
import Mcproxy.Container.Journal
import Mcproxy.Container.OrdSet
import Mcproxy.Container.Weight
import Mcproxy.Def
import Mcproxy.Interfaces
import Mcproxy.IntervalCode
import Mcproxy.Memory.Reader
import Mcproxy.MessageQueue
import Mcproxy.Mirror
import Mcproxy.Numeral.BigEndian
import Mcproxy.Parser.Commands
import Mcproxy.Parser.Configuration
import Mcproxy.Parser.Interface
import Mcproxy.Parser.Meaning
import Mcproxy.Parser.OpenText
import Mcproxy.Parser.Parser
import Mcproxy.Parser.Prefix
import Mcproxy.Parser.References
import Mcproxy.Parser.Scanner
import Mcproxy.Parser.Text
import Mcproxy.Parser.Total
import Mcproxy.Proxy
import Mcproxy.ProxyInstance
import Mcproxy.Punctual
import Mcproxy.Querier.Basic
import Mcproxy.Querier.Compatibility
import Mcproxy.Querier.DeadRecords
import Mcproxy.Querier.Expiry
import Mcproxy.Querier.GeneralQuery
import Mcproxy.Querier.Handlers
import Mcproxy.Querier.Invariant
import Mcproxy.Querier.Leave
import Mcproxy.Querier.Lemmas
import Mcproxy.Querier.Lowering
import Mcproxy.Querier.Refinement
import Mcproxy.Querier.Retransmission
import Mcproxy.Querier.RouterTrace
import Mcproxy.Querier.SourceRetransmission
import Mcproxy.Querier.Stale
import Mcproxy.Querier.Suppress
import Mcproxy.Querier.View
import Mcproxy.Receiver
import Mcproxy.Registration
import Mcproxy.Report
import Mcproxy.RouterState
import Mcproxy.Routing.Aggregation
import Mcproxy.Routing.Database
import Mcproxy.Routing.First
import Mcproxy.Routing.Forwarding
import Mcproxy.Routing.Lookup
import Mcproxy.Routing.Mutex
import Mcproxy.Routing.Recorded
import Mcproxy.Routing.Routes
import Mcproxy.Routing.Vifs
import Mcproxy.Sender.Query
import Mcproxy.Sender.Record
import Mcproxy.SourceList
import Mcproxy.SourceList.Algebra
import Mcproxy.Startup
import Mcproxy.Subscription
import Mcproxy.System
import Mcproxy.Timing
import Mcproxy.Transition.Machine
import Mcproxy.Transition.Simulation
import Mcproxy.Threads.Basic
import Mcproxy.Threads.Refinement
import Mcproxy.Threads.Timers
