import CheckIn.Calendar.Moment
import CheckIn.CommandLine.Help
import CheckIn.CommandLine.Invocation
import CheckIn.CommandLine.Listing
import CheckIn.CommandLine.Options
import CheckIn.Data
import CheckIn.Decimal.Shortest
import CheckIn.Failure
import CheckIn.Json.Basic
import CheckIn.Json.Printer
import CheckIn.Json.Reader
import CheckIn.Log.Event
import CheckIn.Log.Filter
import CheckIn.Main
import CheckIn.Pattern.Basic
import CheckIn.Pattern.Bracket
import CheckIn.Pattern.CharSet
import CheckIn.Pattern.Escape
import CheckIn.Pattern.Reader
import CheckIn.Phone.Bridge
import CheckIn.Phone.Call
import CheckIn.Phone.Command
import CheckIn.Phone.Reports
import CheckIn.Phone.Scripted
import CheckIn.Phone.Typing
import CheckIn.Process
import CheckIn.Rehearsal.Computer
import CheckIn.Rehearsal.Fault
import CheckIn.Rehearsal.Folder
import CheckIn.Rehearsal.Invocation
import CheckIn.Rehearsal.Session
import CheckIn.Rehearsal.World
import CheckIn.Run.Description
import CheckIn.Run.Desk
import CheckIn.Run.Error
import CheckIn.Run.Gate
import CheckIn.Run.Ledger
import CheckIn.Run.Lookup
import CheckIn.Run.Progress
import CheckIn.Run.Recognition
import CheckIn.Run.Request
import CheckIn.Run.ResultFormat
import CheckIn.Run.Schedule
import CheckIn.Run.Staging
import CheckIn.Run.Steps
import CheckIn.Run.Target
import CheckIn.Run.Teardown
import CheckIn.Screen.Detection
import CheckIn.Screen.Element
import CheckIn.Screen.Geometry
import CheckIn.Screen.Hierarchy
import CheckIn.Selector.Basic
import CheckIn.Selector.Parser
import CheckIn.Selector.Printer
import CheckIn.Task.Action
import CheckIn.Task.Basic
import CheckIn.Task.ScreenshotPath
import CheckIn.Task.Verb
import CheckIn.TaskFile.Basic
import CheckIn.TaskFile.Reader
import CheckIn.Text.Blank
import CheckIn.Text.Numeral
import CheckIn.Text.Parts
import CheckIn.Text.Quoted
import CheckIn.Text.Record
import CheckIn.Text.Utf8
import CheckIn.Timeline.Basic
import CheckIn.Timeline.Company
import CheckIn.Timeline.Solo
import CheckIn.Toml.Document
import CheckIn.Toml.Quoted
import CheckIn.Toml.Reader
import CheckIn.Toml.Scalar
import CheckIn.Unicode.Category
import CheckIn.Unicode.Class
import CheckIn.Unicode.Folding
import CheckIn.Unicode.Property
import CheckIn.Unicode.Ranges
import CheckIn.Unicode.Script
import CheckIn.Proofs.Requests
import CheckIn.Proofs.Run.Log
import CheckIn.Proofs.Run.Attempt
import CheckIn.Proofs.Run.Trial
import CheckIn.Proofs.Run.Looks
import CheckIn.Proofs.Run.Scope
import CheckIn.Proofs.Run.Walk
import CheckIn.Proofs.Run.Chronicle
import CheckIn.Proofs.Run.Accounts
import CheckIn.Proofs.Run.Isolation
import CheckIn.Proofs.Run.Caution
import CheckIn.Proofs.Run.Stop
import CheckIn.Proofs.Run.Exclusion
import CheckIn.Proofs.Run.Staged
import CheckIn.Proofs.Run.Polling
import CheckIn.Proofs.Run.Failures
import CheckIn.Proofs.Run.Sequence
import CheckIn.Proofs.Run.Targeting
import CheckIn.Proofs.Run.ClickLoop
import CheckIn.Proofs.Run.Pending
import CheckIn.Proofs.Selector.Grammar
import CheckIn.Proofs.Selector.Parsing
import CheckIn.Proofs.Selector.RoundTrip
import CheckIn.Proofs.Run.Candidates
import CheckIn.Proofs.Selector.Meaning
import CheckIn.Proofs.Run.Leaving
import CheckIn.Proofs.Run.Cards
import CheckIn.Proofs.Run.Narration
import CheckIn.Proofs.Task.Selecting
import CheckIn.Proofs.CommandLine.DryRun
import CheckIn.Proofs.Screen.Markup
import CheckIn.Proofs.Screen.Layout
import CheckIn.Proofs.Screen.Entities
import CheckIn.Proofs.Phone.Snapshot
import CheckIn.Proofs.Phone.Typing
import CheckIn.Proofs.Run.Tries
import CheckIn.Proofs.Run.Budget
import CheckIn.Proofs.Run.Behaviour
import CheckIn.Proofs.Run.Fallback
import CheckIn.Proofs.Rehearsal.Lasting
import CheckIn.Proofs.Pattern.Matching
import CheckIn.Proofs.Pattern.Closing
import CheckIn.Proofs.Pattern.BracketClosing
import CheckIn.Proofs.Pattern.PartClosing
import CheckIn.Proofs.Pattern.Reading
import CheckIn.Proofs.Pattern.Wrapped
import CheckIn.Proofs.Selector.Anchoring
import CheckIn.Proofs.Selector.Containing
import CheckIn.Proofs.Task.Compiling
import CheckIn.Proofs.Run.Operations
import CheckIn.Proofs.Screen.Center
import CheckIn.Proofs.Run.PageSwipe
import CheckIn.Proofs.Run.Taps
import CheckIn.Proofs.Run.Overrun
import CheckIn.Proofs.Run.Counting
import CheckIn.Proofs.Phone.Vanishing
import CheckIn.Proofs.Text.Filling
import CheckIn.Proofs.Task.Placeholders
