import Parley.Chat.Chunk
import Parley.Chat.Message
import Parley.Chat.Reply
import Parley.Chat.Request
import Parley.CommandLine.Command
import Parley.CommandLine.Echo
import Parley.CommandLine.Options
import Parley.CommandLine.Outcome
import Parley.CommandLine.Run
import Parley.Conversation.Event
import Parley.Conversation.LineReader
import Parley.Conversation.Relay
import Parley.Conversation.State
import Parley.Conversation.Turn
import Parley.Endpoint.Address
import Parley.Endpoint.Choice
import Parley.Endpoint.Config
import Parley.Exchange.Lifetime
import Parley.Exchange.Reply
import Parley.Exchange.Request
import Parley.Exchange.Stream
import Parley.Failure
import Parley.Inline.Chat
import Parley.Inline.Printer
import Parley.Json.Reader
import Parley.Json.Value
import Parley.Json.Writer
import Parley.Log.Level
import Parley.Log.Sink
import Parley.Main
import Parley.Markdown.Address
import Parley.Markdown.Block
import Parley.Markdown.Character
import Parley.Markdown.Drawing
import Parley.Markdown.Emphasis
import Parley.Markdown.Entity
import Parley.Markdown.EntityTable
import Parley.Markdown.Html
import Parley.Markdown.Inline
import Parley.Markdown.Link
import Parley.Number.Binary64
import Parley.Number.Natural
import Parley.Number.Read
import Parley.Number.Shown
import Parley.Record.Check
import Parley.Record.Problem
import Parley.Screen.LogPanel
import Parley.Screen.Prompt
import Parley.Screen.Run
import Parley.Screen.State
import Parley.Terminal.Console
import Parley.Terminal.Escape
import Parley.Terminal.Layout
import Parley.Terminal.Line
import Parley.Terminal.Markup
import Parley.Terminal.PictureTable
import Parley.Terminal.Style
import Parley.Text.Blank
import Parley.Text.CellTable
import Parley.Text.Cells
import Parley.Text.Printable
import Parley.Text.Quoted
import Parley.Text.Wrap
import Parley.View.Banner
import Parley.View.Palette
import Parley.View.Scrollback
import Parley.View.StatusBar
import Parley.Wire.Codec
import Parley.Wire.HostName
import Parley.Wire.Installed
import Parley.Wire.Lines
import Parley.Wire.Message
import Parley.Wire.Target
import Parley.Wire.Utf8
import Parley.Proofs.Exchange.Arrivals
import Parley.Proofs.Exchange.Listening
import Parley.Proofs.Exchange.CompleteReply
import Parley.Proofs.Exchange.Interruption
import Parley.Proofs.Conversation.History
import Parley.Proofs.Screen.World
import Parley.Proofs.Screen.Core
import Parley.Proofs.Screen.Coupling
import Parley.Proofs.Screen.Turns
import Parley.Proofs.Conversation.Agreement
import Parley.Proofs.Conversation.Resizing
import Parley.Proofs.Json.Reading
import Parley.Proofs.Json.Writing
import Parley.Proofs.Wire.Encoding
import Parley.Proofs.Chat.RequestBody
import Parley.Proofs.Json.Quotation
import Parley.Proofs.Wire.LineEnds
import Parley.Proofs.Exchange.EventStream
import Parley.Proofs.Exchange.Cuts
import Parley.Proofs.Conversation.Command
import Parley.Proofs.Conversation.Rounds
import Parley.Proofs.Inline.Conduct
import Parley.Proofs.Inline.Lines
import Parley.Proofs.Terminal.Display
import Parley.Proofs.Inline.Erasure
import Parley.Proofs.Screen.Telling
import Parley.Proofs.Screen.Views
import Parley.Proofs.Screen.Typing
import Parley.Proofs.Exchange.Containment
import Parley.Proofs.CommandLine.OneShot
import Parley.Proofs.Text.Measure
import Parley.Proofs.Text.Words
import Parley.Proofs.Text.Wrapping
import Parley.Proofs.Text.Spacing
import Parley.Proofs.Text.Adjacency
import Parley.Proofs.Text.Filling
import Parley.Proofs.Text.Clusters
import Parley.Proofs.Text.LaidOut
import Parley.Proofs.Text.Trimming
import Parley.Proofs.Endpoint.Address
import Parley.Proofs.Endpoint.Settings
import Parley.Proofs.CommandLine.SingleRequest
import Parley.Proofs.Conversation.Renewal
import Parley.Proofs.Conversation.Closing
import Parley.Proofs.Screen.Recall
import Parley.Proofs.Record.Passing
import Parley.Proofs.Chat.ReplyBody
import Parley.Proofs.Json.Depth
import Parley.Proofs.Exchange.Verdict
import Parley.Proofs.Exchange.ReportedError
import Parley.Proofs.Endpoint.Precedence
import Parley.Proofs.Text.Cropping
import Parley.Proofs.Terminal.Letters
import Parley.Proofs.Terminal.Lines
import Parley.Proofs.View.StatusBar
import Parley.Proofs.Screen.Recollection
import Parley.Proofs.Text.Chopping
import Parley.Proofs.Text.Printed
import Parley.Proofs.Terminal.Breaks
import Parley.Proofs.Terminal.Pictures
import Parley.Proofs.Terminal.Printing
import Parley.Proofs.Terminal.Tags
import Parley.Proofs.Terminal.Reading
import Parley.Proofs.Terminal.Shown
import Parley.Proofs.Endpoint.Problems
import Parley.Proofs.Endpoint.Report
import Parley.Proofs.Text.Shortening
import Parley.Proofs.Terminal.Fitting
import Parley.Proofs.Terminal.Blocks
import Parley.Proofs.Terminal.Columns
import Parley.Proofs.View.BannerLayout
import Parley.Proofs.View.Banner
