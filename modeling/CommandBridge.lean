import CommandBridge.Binary64.Basic
import CommandBridge.Binary64.Decimal
import CommandBridge.Catalog.Basic
import CommandBridge.Catalog.Descriptor
import CommandBridge.Catalog.ProjectGraph
import CommandBridge.Dispatch.Bridge
import CommandBridge.Dispatch.Call
import CommandBridge.Dispatch.Command
import CommandBridge.Error.Basic
import CommandBridge.Error.Catalog
import CommandBridge.Failure
import CommandBridge.Fault
import CommandBridge.Files.Path
import CommandBridge.Files.Tree
import CommandBridge.Http.Answer
import CommandBridge.Http.App
import CommandBridge.Http.Body
import CommandBridge.Http.Cors
import CommandBridge.Http.Endpoints
import CommandBridge.Http.Message
import CommandBridge.Http.Report
import CommandBridge.Http.Route
import CommandBridge.Instance.Basic
import CommandBridge.Instance.Callback
import CommandBridge.Instance.FileQueue
import CommandBridge.Instance.Host
import CommandBridge.Instance.Operations
import CommandBridge.Instance.Recording
import CommandBridge.Json.Basic
import CommandBridge.Json.Bytes
import CommandBridge.Json.Dump
import CommandBridge.Json.Literal
import CommandBridge.Json.Reader
import CommandBridge.Json.Writer
import CommandBridge.Lifecycle.Basic
import CommandBridge.Lifecycle.Launch
import CommandBridge.Lifecycle.Machine
import CommandBridge.Log.Entry
import CommandBridge.Log.Level
import CommandBridge.Log.Setup
import CommandBridge.Log.Structured
import CommandBridge.Main
import CommandBridge.Op
import CommandBridge.Proofs.Alike
import CommandBridge.Proofs.Binary64.Rounding
import CommandBridge.Proofs.Binary64.Shortest
import CommandBridge.Proofs.Catalog.Spellings
import CommandBridge.Proofs.Dispatch.Calls
import CommandBridge.Proofs.Dispatch.Catalogs
import CommandBridge.Proofs.Dispatch.Delivery
import CommandBridge.Proofs.Dispatch.Entries
import CommandBridge.Proofs.Dispatch.Failures
import CommandBridge.Proofs.Dispatch.HandOver
import CommandBridge.Proofs.Dispatch.Lifecycle
import CommandBridge.Proofs.Dispatch.Offline
import CommandBridge.Proofs.Dispatch.Room
import CommandBridge.Proofs.Dispatch.Timeless
import CommandBridge.Proofs.Dispatch.Turns
import CommandBridge.Proofs.Dispatch.Uniform
import CommandBridge.Proofs.Files.Directory
import CommandBridge.Proofs.Http.Acknowledgement
import CommandBridge.Proofs.Http.Counters
import CommandBridge.Proofs.Http.Course
import CommandBridge.Proofs.Http.Destination
import CommandBridge.Proofs.Http.Entries
import CommandBridge.Proofs.Http.Erasure
import CommandBridge.Proofs.Http.ErrorBodies
import CommandBridge.Proofs.Http.Publication
import CommandBridge.Proofs.Http.Refusal
import CommandBridge.Proofs.Http.Reply
import CommandBridge.Proofs.Http.RequestIds
import CommandBridge.Proofs.Http.ResourceUri
import CommandBridge.Proofs.Http.Uniform
import CommandBridge.Proofs.Instance.CallTurns
import CommandBridge.Proofs.Instance.Conduct
import CommandBridge.Proofs.Instance.Entries
import CommandBridge.Proofs.Instance.HandlerCalls
import CommandBridge.Proofs.Instance.Obstacles
import CommandBridge.Proofs.Instance.RequestFiles
import CommandBridge.Proofs.Instance.ResponseFiles
import CommandBridge.Proofs.Instance.Tenure
import CommandBridge.Proofs.Instance.Uniform
import CommandBridge.Proofs.Json.Ascii
import CommandBridge.Proofs.Json.Compact
import CommandBridge.Proofs.Json.Digits
import CommandBridge.Proofs.Json.Dump
import CommandBridge.Proofs.Json.Extent
import CommandBridge.Proofs.Json.Limits
import CommandBridge.Proofs.Json.Numbers
import CommandBridge.Proofs.Json.RoundTrip
import CommandBridge.Proofs.Json.Strict
import CommandBridge.Proofs.Json.Strings
import CommandBridge.Proofs.Keeps
import CommandBridge.Proofs.Lifecycle.Requests
import CommandBridge.Proofs.Lifecycle.Start
import CommandBridge.Proofs.Log.Events
import CommandBridge.Proofs.Log.Truncation
import CommandBridge.Proofs.Progress
import CommandBridge.Proofs.Results.Backed
import CommandBridge.Proofs.Results.Capacity
import CommandBridge.Proofs.Results.Finality
import CommandBridge.Proofs.Results.Frames
import CommandBridge.Proofs.Results.History
import CommandBridge.Proofs.Results.Interchange
import CommandBridge.Proofs.Results.Offline
import CommandBridge.Proofs.Results.Pendency
import CommandBridge.Proofs.Results.Publication
import CommandBridge.Proofs.Results.Recency
import CommandBridge.Proofs.Results.RecordMap
import CommandBridge.Proofs.Results.Room
import CommandBridge.Proofs.Results.Run
import CommandBridge.Proofs.Results.Stamps
import CommandBridge.Proofs.Results.StoredText
import CommandBridge.Proofs.Results.Storing
import CommandBridge.Proofs.Results.Subscriptions
import CommandBridge.Proofs.Service.Concurrency
import CommandBridge.Proofs.Service.Holdings
import CommandBridge.Proofs.Service.Outcomes
import CommandBridge.Proofs.Service.Passing
import CommandBridge.Proofs.Service.Performance
import CommandBridge.Proofs.Service.Rest
import CommandBridge.Proofs.Service.Sessions
import CommandBridge.Proofs.Service.Stamps
import CommandBridge.Proofs.Service.Streams
import CommandBridge.Proofs.Service.Uniform
import CommandBridge.Proofs.Text.Percent
import CommandBridge.Proofs.Text.Utf8
import CommandBridge.Proofs.Timestamp
import CommandBridge.Proofs.Trail
import CommandBridge.Results.Channel
import CommandBridge.Results.Operation
import CommandBridge.Results.Record
import CommandBridge.Results.Redis
import CommandBridge.Results.Stream
import CommandBridge.Schema.Assignment
import CommandBridge.Schema.Validation
import CommandBridge.Service.Basic
import CommandBridge.Service.Clock
import CommandBridge.Service.Connection
import CommandBridge.Service.Progress
import CommandBridge.Service.Setup
import CommandBridge.Settings.Basic
import CommandBridge.Settings.EnvFile
import CommandBridge.Settings.Number
import CommandBridge.Text.Blank
import CommandBridge.Text.Breaks
import CommandBridge.Text.CodePoint
import CommandBridge.Text.Percent
import CommandBridge.Text.Printable
import CommandBridge.Text.Utf16
import CommandBridge.Text.Utf8
import CommandBridge.Timestamp
