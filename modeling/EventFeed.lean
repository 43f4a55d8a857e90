import EventFeed.Backoff
import EventFeed.Base64
import EventFeed.Bytes
import EventFeed.ConnectionState
import EventFeed.Control
import EventFeed.Duration
import EventFeed.Emitter
import EventFeed.Emitter.Board
import EventFeed.Envelope
import EventFeed.Feed.Basic
import EventFeed.Feed.Handlers
import EventFeed.Feed.Operations
import EventFeed.Feed.Status
import EventFeed.Feed.Step
import EventFeed.Feed.Tasks
import EventFeed.Fields
import EventFeed.Frame
import EventFeed.Inbound
import EventFeed.Log
import EventFeed.Markup.Alphabet
import EventFeed.Markup.Encoding
import EventFeed.Markup.Node
import EventFeed.Markup.Reader
import EventFeed.Playback
import EventFeed.Report.NodeChange
import EventFeed.Report.Progress
import EventFeed.Report.SystemStatus
import EventFeed.Request
import EventFeed.Route
import EventFeed.Session
import EventFeed.Settings
import EventFeed.Sha1
import EventFeed.Text.Blank
import EventFeed.Text.Numeral
import EventFeed.Text.Quoted
import EventFeed.Text.Search
import EventFeed.Text.Shapeless
import EventFeed.Text.Utf8
import EventFeed.Topic
import EventFeed.TransportError
import EventFeed.Url.Address
import EventFeed.Url.Basic
import EventFeed.Url.Host
import EventFeed.Url.HostName
import EventFeed.Url.Path
import EventFeed.Url.Percent
import EventFeed.Url.Punycode
import EventFeed.WebSocket.Connection
import EventFeed.WebSocket.Endpoint
import EventFeed.WebSocket.Exchange
import EventFeed.WebSocket.Frame
import EventFeed.WebSocket.Response
import EventFeed.WebSocket.Upgrade
import EventFeed.Proofs.Feed.Conduct
import EventFeed.Proofs.Feed.Later
import EventFeed.Proofs.Feed.WellFormed
import EventFeed.Proofs.Feed.Upkeep
import EventFeed.Proofs.Feed.Tasks
import EventFeed.Proofs.Feed.Steps
import EventFeed.Proofs.Feed.Turns
import EventFeed.Proofs.Feed.Runs
import EventFeed.Proofs.Feed.Restraint
import EventFeed.Proofs.Feed.Halted
import EventFeed.Proofs.Feed.Stopped
import EventFeed.Proofs.Feed.Alive
import EventFeed.Proofs.Feed.Progress
import EventFeed.Proofs.Feed.Passing
import EventFeed.Proofs.Feed.Disconnected
import EventFeed.Proofs.Feed.Scheduled
import EventFeed.Proofs.Feed.Lifecycle
import EventFeed.Proofs.Feed.Placement
import EventFeed.Proofs.Feed.Generations
import EventFeed.Proofs.Feed.Superseded
import EventFeed.Proofs.Feed.Roster
import EventFeed.Proofs.Feed.Notices
import EventFeed.Proofs.Feed.Orders
import EventFeed.Proofs.Feed.Reports
import EventFeed.Proofs.Feed.Overlap
import EventFeed.Proofs.Feed.Apart
import EventFeed.Proofs.Feed.Detection
import EventFeed.Proofs.Backoff
import EventFeed.Proofs.Emitter
import EventFeed.Proofs.Feed.Outline
import EventFeed.Proofs.Feed.Leftover
import EventFeed.Proofs.Feed.Stranded
import EventFeed.Proofs.Feed.Traffic
import EventFeed.Proofs.Feed.Undisturbed
import EventFeed.Proofs.Feed.Walk
import EventFeed.Proofs.Feed.Delays
import EventFeed.Proofs.Frame.Markers
import EventFeed.Proofs.Feed.Alarms
import EventFeed.Proofs.Feed.Departure
import EventFeed.Proofs.Frame.Flattening
import EventFeed.Proofs.Report.Memory
import EventFeed.Report.Offsets
import EventFeed.Proofs.Report.Offsets
import EventFeed.Proofs.Frame.Views
import EventFeed.Feeds
import EventFeed.Proofs.Settings
import EventFeed.Proofs.Base64
import EventFeed.Proofs.Request
import EventFeed.Proofs.Feed.Intervals
import EventFeed.Proofs.Feed.Subscriptions
import EventFeed.Proofs.Feed.Dealings
import EventFeed.Proofs.Feeds
import EventFeed.Proofs.Feed.Secrets
