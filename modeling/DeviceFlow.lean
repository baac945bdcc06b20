import DeviceFlow.CommandLine.LogFilter
import DeviceFlow.CommandLine.Options
import DeviceFlow.CommandLine.Session
import DeviceFlow.CommandLine.Transcript
import DeviceFlow.CommandLine.Usage
import DeviceFlow.CommandLine.World
import DeviceFlow.Decimal.Binary
import DeviceFlow.Decimal.Power
import DeviceFlow.Decimal.Rounded
import DeviceFlow.Decimal.Shortest
import DeviceFlow.Device.Adb
import DeviceFlow.Device.Basic
import DeviceFlow.Device.DryRun
import DeviceFlow.Dict
import DeviceFlow.Document.Interest
import DeviceFlow.Document.Json.Reader
import DeviceFlow.Document.Json.Token
import DeviceFlow.Document.Json.Writer
import DeviceFlow.Document.Node
import DeviceFlow.Document.Value
import DeviceFlow.Document.Yaml.Glyph
import DeviceFlow.Document.Yaml.Reader
import DeviceFlow.Document.Yaml.Scalar
import DeviceFlow.Document.Yaml.Scanner
import DeviceFlow.Document.Yaml.Tag
import DeviceFlow.Document.Yaml.Token
import DeviceFlow.Document.Yaml.Writer
import DeviceFlow.Expression.Evaluate
import DeviceFlow.Expression.Number
import DeviceFlow.Expression.Token
import DeviceFlow.Files.FileSystem
import DeviceFlow.Files.Path
import DeviceFlow.Log
import DeviceFlow.Main
import DeviceFlow.Manager.Registry
import DeviceFlow.Pattern.Basic
import DeviceFlow.Pattern.Brackets
import DeviceFlow.Pattern.CharSet
import DeviceFlow.Pattern.Cursor
import DeviceFlow.Pattern.Escape
import DeviceFlow.Pattern.Fault
import DeviceFlow.Pattern.Meaning
import DeviceFlow.Pattern.Phrase
import DeviceFlow.Pattern.Reader
import DeviceFlow.Pattern.Size
import DeviceFlow.Proofs.Cancellation.History
import DeviceFlow.Proofs.Cancellation.Perform
import DeviceFlow.Proofs.Cancellation.Run
import DeviceFlow.Proofs.Cancellation.Token
import DeviceFlow.Proofs.Cancellation.Walk
import DeviceFlow.Proofs.Cancellation.Yield
import DeviceFlow.Proofs.Failure.Cause
import DeviceFlow.Proofs.Failure.Walk
import DeviceFlow.Proofs.Failure.Run
import DeviceFlow.Proofs.Files.Follow
import DeviceFlow.Proofs.Files.Path
import DeviceFlow.Proofs.Files.Proper
import DeviceFlow.Proofs.Files.Tree
import DeviceFlow.Proofs.Likeness.Plan
import DeviceFlow.Proofs.Likeness.Walk
import DeviceFlow.Proofs.Manager.Holder
import DeviceFlow.Proofs.Manager.Move
import DeviceFlow.Proofs.Manager.Operation
import DeviceFlow.Proofs.Manager.Slot
import DeviceFlow.Proofs.Nesting.Complete
import DeviceFlow.Proofs.Nesting.Piece
import DeviceFlow.Proofs.Store.Listing
import DeviceFlow.Proofs.Store.Name
import DeviceFlow.Proofs.Store.Operation
import DeviceFlow.Proofs.Store.ReadBack
import DeviceFlow.Proofs.Trace.Basic
import DeviceFlow.Proofs.Trace.Keeps
import DeviceFlow.Proofs.Trace.Perform
import DeviceFlow.Rehearsal.Cast
import DeviceFlow.Rehearsal.Ensemble
import DeviceFlow.Rehearsal.Scene
import DeviceFlow.Rehearsal.Schedule
import DeviceFlow.Rehearsal.Script
import DeviceFlow.Rehearsal.Task
import DeviceFlow.Run.Condition
import DeviceFlow.Run.Error
import DeviceFlow.Run.Event
import DeviceFlow.Run.Outcome
import DeviceFlow.Run.Perform
import DeviceFlow.Run.Plan
import DeviceFlow.Run.Record
import DeviceFlow.Run.Rig
import DeviceFlow.Run.Walk
import DeviceFlow.Screen.Basic
import DeviceFlow.Screen.File
import DeviceFlow.Screen.Path
import DeviceFlow.Settings.Basic
import DeviceFlow.Settings.File
import DeviceFlow.Store.Basic
import DeviceFlow.Store.Directory
import DeviceFlow.Store.Memory
import DeviceFlow.Text.Blank
import DeviceFlow.Text.Digits
import DeviceFlow.Text.Letter
import DeviceFlow.Text.Search
import DeviceFlow.Text.Utf8
import DeviceFlow.Timestamp
import DeviceFlow.Variables
import DeviceFlow.Watch.Chart
import DeviceFlow.Watch.Listener
import DeviceFlow.Watch.Timeline
import DeviceFlow.Workflow.Basic
import DeviceFlow.Workflow.Decode
import DeviceFlow.Workflow.Encode
import DeviceFlow.Workflow.File
import DeviceFlow.Workflow.Step
import DeviceFlow.Workflow.Text
import DeviceFlow.Workflow.Validation
import DeviceFlow.Proofs.Nesting.Course
import DeviceFlow.Proofs.Events.Story
import DeviceFlow.Proofs.Events.Run
import DeviceFlow.Proofs.Nesting.Adequate
import DeviceFlow.Proofs.Budget.Count
import DeviceFlow.Proofs.Budget.Await
import DeviceFlow.Proofs.Budget.Limit
import DeviceFlow.Proofs.Budget.Run
import DeviceFlow.Proofs.Files.Directory
import DeviceFlow.Proofs.Store.Mirror
import DeviceFlow.Proofs.Store.History
import DeviceFlow.Proofs.Store.Removal
import DeviceFlow.Proofs.Store.Failure
import DeviceFlow.Proofs.Expression.Grammar
import DeviceFlow.Proofs.Expression.Reading
import DeviceFlow.Proofs.Expression.Sound
import DeviceFlow.Proofs.Expression.Complete
import DeviceFlow.Proofs.Expression.Value
import DeviceFlow.Proofs.Wiring.Member
import DeviceFlow.Proofs.Wiring.WellFormed
import DeviceFlow.Proofs.Wiring.Valid
import DeviceFlow.Proofs.Wiring.Edge
import DeviceFlow.Proofs.Wiring.Visit
import DeviceFlow.Proofs.Wiring.Route
import DeviceFlow.Proofs.Failure.First
import DeviceFlow.Proofs.Definition.Digits
import DeviceFlow.Proofs.Definition.Stamp
import DeviceFlow.Proofs.Definition.Bearing
import DeviceFlow.Proofs.Definition.Step
import DeviceFlow.Proofs.Definition.Whole
import DeviceFlow.Proofs.Json.Reading
import DeviceFlow.Proofs.Definition.File
import DeviceFlow.Proofs.Variables.Write
import DeviceFlow.Proofs.Variables.Frame
import DeviceFlow.Proofs.Variables.Course
import DeviceFlow.Proofs.Variables.Run
import DeviceFlow.Proofs.Watch.Underway
import DeviceFlow.Proofs.Watch.Share
import DeviceFlow.Proofs.Watch.Run
import DeviceFlow.Proofs.Manager.Turn
import DeviceFlow.Proofs.Manager.Record
import DeviceFlow.Proofs.Manager.LastRecord
import DeviceFlow.Proofs.Isolation.View
import DeviceFlow.Proofs.Isolation.Alone
import DeviceFlow.Proofs.Isolation.Others
import DeviceFlow.Proofs.Isolation.Stage
import DeviceFlow.Proofs.Isolation.Run
import DeviceFlow.Proofs.Manager.Schedule
import DeviceFlow.Proofs.Manager.Call
import DeviceFlow.Proofs.Likeness.Order
import DeviceFlow.Proofs.Likeness.Unset
import DeviceFlow.Proofs.Touch.Attempt
import DeviceFlow.Proofs.Touch.Step
import DeviceFlow.Proofs.Text.Cut
import DeviceFlow.Proofs.Substitution.Reading
import DeviceFlow.Proofs.Substitution.Template
import DeviceFlow.Proofs.Substitution.Flat
import DeviceFlow.Proofs.Substitution.Remnant
import DeviceFlow.Proofs.Substitution.Parameters
import DeviceFlow.Proofs.Substitution.Names
import DeviceFlow.Proofs.Text.Trim
import DeviceFlow.Proofs.Screen.Order
import DeviceFlow.Proofs.Screen.Path
import DeviceFlow.Proofs.Polling.Basic
import DeviceFlow.Proofs.Polling.Read
import DeviceFlow.Proofs.Timing.Basic
import DeviceFlow.Proofs.Timing.Uncancelled
import DeviceFlow.Proofs.Timing.Loop
import DeviceFlow.Proofs.Wiring.Edit
import DeviceFlow.Proofs.Store.Agreement
import DeviceFlow.Proofs.Store.Enumeration
import DeviceFlow.Proofs.Store.Exchange
import DeviceFlow.Proofs.Store.Creation
import DeviceFlow.Proofs.Screen.Condition
import DeviceFlow.Proofs.Wiring.Verdict
import DeviceFlow.Proofs.Decimal.Rounded
import DeviceFlow.Proofs.Watch.Order
import DeviceFlow.Proofs.Watch.Chart
import DeviceFlow.Proofs.CommandLine.Word
import DeviceFlow.Proofs.CommandLine.Refusal
import DeviceFlow.Proofs.CommandLine.Clause
import DeviceFlow.Proofs.CommandLine.ReadBack
