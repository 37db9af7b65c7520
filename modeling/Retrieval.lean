import Retrieval.Bytes
import Retrieval.Cli.Argument
import Retrieval.Cli.Invocation
import Retrieval.Cli.Run
import Retrieval.Cli.Usage
import Retrieval.Config
import Retrieval.Decimal.Shortest
import Retrieval.Fetch.Acceptance
import Retrieval.Fetch.Course
import Retrieval.Fetch.Event
import Retrieval.Fetch.Handlers
import Retrieval.Fetch.Receiver
import Retrieval.Fetch.Stream
import Retrieval.Fetch.Whole
import Retrieval.Http.Failure
import Retrieval.Http.Method
import Retrieval.Http.Network
import Retrieval.Json
import Retrieval.LoadError
import Retrieval.Loader
import Retrieval.Log.Event
import Retrieval.Log.Filter
import Retrieval.Log.Line
import Retrieval.Log.Options
import Retrieval.Log.State
import Retrieval.Main
import Retrieval.Request
import Retrieval.Session
import Retrieval.Storage.Failure
import Retrieval.Storage.FileSystem
import Retrieval.Storage.Writer
import Retrieval.Target
import Retrieval.Text.Composition
import Retrieval.Text.Direction
import Retrieval.Text.Joiner
import Retrieval.Text.Mark
import Retrieval.Text.Quoted
import Retrieval.Text.Ranges
import Retrieval.Text.Unprintable
import Retrieval.Text.Utf8
import Retrieval.Transfer
import Retrieval.Transport.Basic
import Retrieval.Transport.File
import Retrieval.Transport.Http
import Retrieval.Url.Basic
import Retrieval.Url.Domain
import Retrieval.Url.Error
import Retrieval.Url.Folding
import Retrieval.Url.Host
import Retrieval.Url.Ipv4
import Retrieval.Url.Ipv6
import Retrieval.Url.Parse
import Retrieval.Url.Path
import Retrieval.Url.PercentEncoding
import Retrieval.Url.Punycode
import Retrieval.Proofs.Fetch.Body
import Retrieval.Proofs.Fetch.Guarded
import Retrieval.Proofs.Fetch.Verdict
import Retrieval.Proofs.Fetch.Told
import Retrieval.Proofs.Fetch.Schedule
import Retrieval.Proofs.Fetch.Drain
import Retrieval.Proofs.Fetch.Streams
import Retrieval.Proofs.Fetch.EverySchedule
import Retrieval.Proofs.Fetch.Pieces
import Retrieval.Proofs.Fetch.Grammar
import Retrieval.Proofs.Fetch.Agreement
import Retrieval.Proofs.Transfer.Language
import Retrieval.Proofs.Transfer.Counters
import Retrieval.Proofs.Fetch.Progress
import Retrieval.Proofs.Fetch.Cutting
import Retrieval.Proofs.Fetch.Announced
import Retrieval.Proofs.Fetch.Operations
import Retrieval.Proofs.Fetch.Entered
import Retrieval.Proofs.Fetch.Taken
import Retrieval.Proofs.Fetch.Phases
import Retrieval.Proofs.Fetch.Logged
import Retrieval.Proofs.Fetch.Diagnostics
import Retrieval.Proofs.Tables
import Retrieval.Proofs.Storage.Opening
import Retrieval.Proofs.Storage.Sink
import Retrieval.Proofs.Cli.Reception
import Retrieval.Proofs.Cli.Modes
import Retrieval.Proofs.Session.Sequence
import Retrieval.Proofs.Session.Together
import Retrieval.Proofs.Cli.Saving
import Retrieval.Proofs.Storage.Growth
import Retrieval.Proofs.Log.SetUp
import Retrieval.Proofs.Fetch.Unread
import Retrieval.Proofs.Fetch.Calls
import Retrieval.Proofs.Fetch.Fused
import Retrieval.Proofs.Fetch.LocalFile
import Retrieval.Proofs.Cli.Failing
import Retrieval.Proofs.Fetch.Reason
import Retrieval.Proofs.Url.Scheme
import Retrieval.Proofs.Target.Base
import Retrieval.Proofs.Target.Drive
import Retrieval.Proofs.Fetch.Fitting
import Retrieval.Proofs.Log.Decoding
import Retrieval.Proofs.Storage.Appending
import Retrieval.Proofs.Log.Routing
import Retrieval.Proofs.Http.Token
import Retrieval.Proofs.Fetch.Sizes
