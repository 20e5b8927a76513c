import ContainerDesk.Action
import ContainerDesk.Container
import ContainerDesk.Engine.Access
import ContainerDesk.Engine.Address
import ContainerDesk.Engine.Failure
import ContainerDesk.Engine.LoginCommand
import ContainerDesk.Engine.Operation
import ContainerDesk.Engine.Session
import ContainerDesk.Engine.Summary
import ContainerDesk.Fault
import ContainerDesk.Grouping.Candidate
import ContainerDesk.Grouping.Frequency
import ContainerDesk.Grouping.Group
import ContainerDesk.Grouping.Selection
import ContainerDesk.Grouping.Snapshot
import ContainerDesk.Host.Load
import ContainerDesk.Host.Size
import ContainerDesk.Journal.Entry
import ContainerDesk.Journal.Threshold
import ContainerDesk.Json.Reader
import ContainerDesk.Json.Writer
import ContainerDesk.Language.Choice
import ContainerDesk.Language.Class
import ContainerDesk.Language.Defect
import ContainerDesk.Language.Phrase
import ContainerDesk.Language.Reference
import ContainerDesk.Language.Template
import ContainerDesk.Launch
import ContainerDesk.Layout.Basic
import ContainerDesk.Layout.Figure
import ContainerDesk.Layout.Value
import ContainerDesk.Logging.Rotation
import ContainerDesk.Logging.Routing
import ContainerDesk.Logging.Source
import ContainerDesk.Main
import ContainerDesk.Number.Binary64
import ContainerDesk.Number.Decimal
import ContainerDesk.Number.Numeral
import ContainerDesk.Number.Radix
import ContainerDesk.Number.Rounded
import ContainerDesk.Proofs.Action
import ContainerDesk.Proofs.Engine.Access
import ContainerDesk.Proofs.Engine.Address
import ContainerDesk.Proofs.Engine.Connecting
import ContainerDesk.Proofs.Engine.Log
import ContainerDesk.Proofs.Engine.LoginCommand
import ContainerDesk.Proofs.Engine.Operation
import ContainerDesk.Proofs.Engine.Ports
import ContainerDesk.Proofs.Engine.Starting
import ContainerDesk.Proofs.Engine.Summary
import ContainerDesk.Proofs.Grouping.Allotment
import ContainerDesk.Proofs.Grouping.Building
import ContainerDesk.Proofs.Grouping.Candidate
import ContainerDesk.Proofs.Grouping.Frequency
import ContainerDesk.Proofs.Grouping.Group
import ContainerDesk.Proofs.Grouping.Locality
import ContainerDesk.Proofs.Grouping.Membership
import ContainerDesk.Proofs.Grouping.Nesting
import ContainerDesk.Proofs.Grouping.OrderFree
import ContainerDesk.Proofs.Grouping.Ordering
import ContainerDesk.Proofs.Grouping.Partition
import ContainerDesk.Proofs.Grouping.Segment
import ContainerDesk.Proofs.Grouping.Selection
import ContainerDesk.Proofs.Grouping.Sharing
import ContainerDesk.Proofs.Grouping.Snapshot
import ContainerDesk.Proofs.Host.Scaling
import ContainerDesk.Proofs.Host.Size
import ContainerDesk.Proofs.Json.Number
import ContainerDesk.Proofs.Json.Readable
import ContainerDesk.Proofs.Json.RoundTrip
import ContainerDesk.Proofs.Json.Text
import ContainerDesk.Proofs.Json.Written
import ContainerDesk.Proofs.Launch
import ContainerDesk.Proofs.Logging.Routing
import ContainerDesk.Proofs.Logging.Source
import ContainerDesk.Proofs.Number.Decimal
import ContainerDesk.Proofs.Number.Exact
import ContainerDesk.Proofs.Number.Notation
import ContainerDesk.Proofs.Number.Numeral
import ContainerDesk.Proofs.Number.Rounding
import ContainerDesk.Proofs.Settings.Carrying
import ContainerDesk.Proofs.Settings.Deciding
import ContainerDesk.Proofs.Settings.Domain
import ContainerDesk.Proofs.Settings.Editing
import ContainerDesk.Proofs.Settings.Edition
import ContainerDesk.Proofs.Settings.Field
import ContainerDesk.Proofs.Settings.History
import ContainerDesk.Proofs.Settings.Holding
import ContainerDesk.Proofs.Settings.Loading
import ContainerDesk.Proofs.Settings.Offending
import ContainerDesk.Proofs.Settings.Opening
import ContainerDesk.Proofs.Settings.Reload
import ContainerDesk.Proofs.Settings.Run
import ContainerDesk.Proofs.Settings.Saving
import ContainerDesk.Proofs.Settings.Section
import ContainerDesk.Proofs.Settings.Store
import ContainerDesk.Proofs.Settings.Taking
import ContainerDesk.Proofs.Settings.Telling
import ContainerDesk.Proofs.Settings.Updating
import ContainerDesk.Proofs.Settings.Watch
import ContainerDesk.Proofs.Sorting
import ContainerDesk.Proofs.Storage.Disk
import ContainerDesk.Proofs.Storage.Folder
import ContainerDesk.Proofs.Storage.Place
import ContainerDesk.Proofs.Text.Basic
import ContainerDesk.Proofs.Text.Casing
import ContainerDesk.Proofs.Text.Cut
import ContainerDesk.Proofs.Text.ShellWord
import ContainerDesk.Proofs.Text.Utf8
import ContainerDesk.Proofs.Value.Shown
import ContainerDesk.Proofs.Value.Table
import ContainerDesk.Proofs.View.Drawing
import ContainerDesk.Proofs.View.Expansion
import ContainerDesk.Proofs.View.Gate
import ContainerDesk.Proofs.View.Run
import ContainerDesk.Proofs.Window.Closing
import ContainerDesk.Proofs.Window.Frame
import ContainerDesk.Proofs.Window.Pace
import ContainerDesk.Proofs.Window.Polling
import ContainerDesk.Proofs.Window.Reopening
import ContainerDesk.Proofs.Window.Restoring
import ContainerDesk.Proofs.Window.Result
import ContainerDesk.Proofs.Window.Retaining
import ContainerDesk.Proofs.Window.Run
import ContainerDesk.Proofs.Window.Setup
import ContainerDesk.Proofs.Window.Timers
import ContainerDesk.Proofs.Window.Toolkit
import ContainerDesk.Settings.Change
import ContainerDesk.Settings.Field
import ContainerDesk.Settings.Operation
import ContainerDesk.Settings.Schema
import ContainerDesk.Settings.Section
import ContainerDesk.Settings.Store
import ContainerDesk.Settings.Watch
import ContainerDesk.Storage.Disk
import ContainerDesk.Storage.PathText
import ContainerDesk.Storage.Refusal
import ContainerDesk.Text.Basic
import ContainerDesk.Text.Blank
import ContainerDesk.Text.Casing
import ContainerDesk.Text.DecimalDigit
import ContainerDesk.Text.LineEnd
import ContainerDesk.Text.Printable
import ContainerDesk.Text.Quoted
import ContainerDesk.Text.ShellWord
import ContainerDesk.Text.SystemText
import ContainerDesk.Text.Utf8
import ContainerDesk.Value.Basic
import ContainerDesk.Value.Display
import ContainerDesk.Value.Number
import ContainerDesk.View.Column
import ContainerDesk.View.Dialog
import ContainerDesk.View.Footer
import ContainerDesk.View.Gate
import ContainerDesk.View.Tree
import ContainerDesk.View.TreeEvent
import ContainerDesk.Window.Basic
import ContainerDesk.Window.Desk
import ContainerDesk.Window.Event
