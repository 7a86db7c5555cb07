import Scrollback.Count
import Scrollback.Feed
import Scrollback.Fetch
import Scrollback.FileError
import Scrollback.Graph
import Scrollback.Graph.Ranked
import Scrollback.History
import Scrollback.Json.Basic
import Scrollback.Json.Lexer
import Scrollback.Json.Number
import Scrollback.Json.Reader
import Scrollback.Launch
import Scrollback.LogFilter
import Scrollback.LogFilter.Pattern
import Scrollback.Main
import Scrollback.Message.Basic
import Scrollback.Message.Codec
import Scrollback.Message.Index
import Scrollback.Options.Basic
import Scrollback.Options.Reader
import Scrollback.Permalink
import Scrollback.Proofs.Feed.Acknowledgement
import Scrollback.Proofs.Feed.Bounds
import Scrollback.Proofs.Feed.Commute
import Scrollback.Proofs.Feed.Contiguous
import Scrollback.Proofs.Feed.End
import Scrollback.Proofs.Feed.Growth
import Scrollback.Proofs.Feed.Latest
import Scrollback.Proofs.Feed.Settlement
import Scrollback.Proofs.Feed.Span
import Scrollback.Proofs.Feed.Walk
import Scrollback.Proofs.Feed.Way
import Scrollback.Proofs.Graph.Boundary
import Scrollback.Proofs.Graph.Countdown
import Scrollback.Proofs.Graph.Lookup
import Scrollback.Proofs.Graph.Map
import Scrollback.Proofs.Graph.Position
import Scrollback.Proofs.Graph.Ranked
import Scrollback.Proofs.Graph.Slice
import Scrollback.Proofs.History
import Scrollback.Proofs.History.Loading
import Scrollback.Proofs.Json.RoundTrip
import Scrollback.Proofs.Message.Codec
import Scrollback.Proofs.Message.Index
import Scrollback.Proofs.Permalink
import Scrollback.Proofs.Screen.Body
import Scrollback.Proofs.Session.Batch
import Scrollback.Proofs.Session.Boundary
import Scrollback.Proofs.Session.CatchUp
import Scrollback.Proofs.Session.Counting
import Scrollback.Proofs.Session.Course
import Scrollback.Proofs.Session.Coverage
import Scrollback.Proofs.Session.Dismissal
import Scrollback.Proofs.Session.Dispatch
import Scrollback.Proofs.Session.Exhausted
import Scrollback.Proofs.Session.Failure
import Scrollback.Proofs.Session.Faultless
import Scrollback.Proofs.Session.Jump
import Scrollback.Proofs.Session.LiveEnd
import Scrollback.Proofs.Session.Opening
import Scrollback.Proofs.Session.Quest
import Scrollback.Proofs.Session.Queue
import Scrollback.Proofs.Session.Quiescence
import Scrollback.Proofs.Session.Run
import Scrollback.Proofs.Session.Target
import Scrollback.Proofs.Session.Tracking
import Scrollback.Proofs.Session.Turn
import Scrollback.Proofs.Session.Underway
import Scrollback.Proofs.Session.UpToDate
import Scrollback.Proofs.Text.Blank
import Scrollback.Proofs.Text.Decimal
import Scrollback.Proofs.Time.Stamp
import Scrollback.Proofs.Window.Activity
import Scrollback.Proofs.Window.Aim
import Scrollback.Proofs.Window.Arrival
import Scrollback.Proofs.Window.Attribution
import Scrollback.Proofs.Window.Command
import Scrollback.Proofs.Window.Coverage
import Scrollback.Proofs.Window.Days
import Scrollback.Proofs.Window.Dismissal
import Scrollback.Proofs.Window.Ends
import Scrollback.Proofs.Window.Episode
import Scrollback.Proofs.Window.Faultless
import Scrollback.Proofs.Window.Free
import Scrollback.Proofs.Window.Gate
import Scrollback.Proofs.Window.Lock
import Scrollback.Proofs.Window.Moments
import Scrollback.Proofs.Window.Mounted
import Scrollback.Proofs.Window.Pane
import Scrollback.Proofs.Window.Protocol
import Scrollback.Proofs.Window.Repeat
import Scrollback.Proofs.Window.Retry
import Scrollback.Proofs.Window.Rows
import Scrollback.Proofs.Window.Scrolling
import Scrollback.Proofs.Window.View
import Scrollback.Proofs.Window.Viewport
import Scrollback.Screen.Canvas
import Scrollback.Screen.Frame
import Scrollback.Screen.Layout
import Scrollback.Screen.Line
import Scrollback.Screen.Post
import Scrollback.Screen.Style
import Scrollback.Screen.Wrap
import Scrollback.Session.Basic
import Scrollback.Session.Clock
import Scrollback.Session.Dispatch
import Scrollback.Session.Input
import Scrollback.Text.Blank
import Scrollback.Text.BreakClass
import Scrollback.Text.CharWidth
import Scrollback.Text.Cluster
import Scrollback.Text.CodeSet
import Scrollback.Text.Combining
import Scrollback.Text.Decimal
import Scrollback.Text.Normal
import Scrollback.Text.Utf8
import Scrollback.Text.Width
import Scrollback.Text.WordChar
import Scrollback.Time.Date
import Scrollback.Time.Instant
import Scrollback.Time.Stamp
import Scrollback.Unread
import Scrollback.Url.Address
import Scrollback.Url.HostChar
import Scrollback.Url.HostName
import Scrollback.Url.HostSpelling
import Scrollback.Url.Percent
import Scrollback.Url.Punycode
import Scrollback.Url.Query
import Scrollback.Url.Reference
import Scrollback.Viewport
import Scrollback.Window
import Scrollback.Window.Mounted
import Scrollback.Window.Policy
import Scrollback.Window.Rows
import Scrollback.Window.State
import Scrollback.Window.Transition
