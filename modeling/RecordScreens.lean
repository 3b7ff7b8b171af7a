import RecordScreens.Action.Dispatch
import RecordScreens.Action.Document
import RecordScreens.Action.Effect
import RecordScreens.Action.Menu
import RecordScreens.Action.Report
import RecordScreens.Action.Spec
import RecordScreens.Action.Template
import RecordScreens.Board.Basic
import RecordScreens.Board.Document
import RecordScreens.Board.Mapping
import RecordScreens.Board.Report
import RecordScreens.Candidate.Basic
import RecordScreens.Candidate.Dataset
import RecordScreens.Candidate.Screens
import RecordScreens.Chrome.Links
import RecordScreens.Chrome.Stats
import RecordScreens.Column.Document
import RecordScreens.Column.Metric
import RecordScreens.Column.Spec
import RecordScreens.CommandLine.Arguments
import RecordScreens.CommandLine.Command
import RecordScreens.CommandLine.Outcome
import RecordScreens.CommandLine.Run
import RecordScreens.Dashboard
import RecordScreens.Dashboard.Document
import RecordScreens.Detail.Config
import RecordScreens.Detail.Document
import RecordScreens.Detail.Screen
import RecordScreens.Dialog.Bus
import RecordScreens.Dialog.Request
import RecordScreens.Dict
import RecordScreens.Failure.Action
import RecordScreens.Failure.Config
import RecordScreens.Failure.Query
import RecordScreens.Failure.Report
import RecordScreens.Filter.Document
import RecordScreens.Filter.Spec
import RecordScreens.Filter.Values
import RecordScreens.Json.Basic
import RecordScreens.Json.Decoder
import RecordScreens.Json.Draft
import RecordScreens.Json.Literal
import RecordScreens.Json.Parser
import RecordScreens.Json.Printer
import RecordScreens.Listing.Config
import RecordScreens.Listing.Document
import RecordScreens.Listing.Page
import RecordScreens.Listing.Params
import RecordScreens.Listing.Screen
import RecordScreens.Main
import RecordScreens.Number.Binary64
import RecordScreens.Number.Shortest
import RecordScreens.Proofs.Action.Containment
import RecordScreens.Proofs.Action.Effects
import RecordScreens.Proofs.Action.Menus
import RecordScreens.Proofs.Action.Paths
import RecordScreens.Proofs.Action.Requests
import RecordScreens.Proofs.Board.Agreement
import RecordScreens.Proofs.Board.Cancel
import RecordScreens.Proofs.Board.Columns
import RecordScreens.Proofs.Board.Docket
import RecordScreens.Proofs.Board.Drag
import RecordScreens.Proofs.Board.Frame
import RecordScreens.Proofs.Board.Independence
import RecordScreens.Proofs.Board.Ledger
import RecordScreens.Proofs.Board.Mapping
import RecordScreens.Proofs.Board.Mirror
import RecordScreens.Proofs.Board.Overwrites
import RecordScreens.Proofs.Board.Statuses
import RecordScreens.Proofs.Candidate.Listed
import RecordScreens.Proofs.Candidate.Opened
import RecordScreens.Proofs.Candidate.Stored
import RecordScreens.Proofs.CommandLine.Accepted
import RecordScreens.Proofs.CommandLine.Moves
import RecordScreens.Proofs.Dashboard.Accepted
import RecordScreens.Proofs.Detail.Accepted
import RecordScreens.Proofs.Detail.Load
import RecordScreens.Proofs.Dialog.Delivery
import RecordScreens.Proofs.Dialog.History
import RecordScreens.Proofs.Dialog.Hosts
import RecordScreens.Proofs.Dialog.Lock
import RecordScreens.Proofs.Dialog.Reached
import RecordScreens.Proofs.Dict
import RecordScreens.Proofs.Drafts
import RecordScreens.Proofs.Failure.Checks
import RecordScreens.Proofs.Failure.Requirements
import RecordScreens.Proofs.Filter.Meaning
import RecordScreens.Proofs.Filter.Params
import RecordScreens.Proofs.Json.Fields
import RecordScreens.Proofs.Json.Formats
import RecordScreens.Proofs.Listing.Accepted
import RecordScreens.Proofs.Listing.Built
import RecordScreens.Proofs.Listing.Inputs
import RecordScreens.Proofs.Listing.Pages
import RecordScreens.Proofs.Listing.Params
import RecordScreens.Proofs.Listing.Sent
import RecordScreens.Proofs.Listing.Shown
import RecordScreens.Proofs.Listing.Vacant
import RecordScreens.Proofs.Positions
import RecordScreens.Proofs.Query.AggregateFetch
import RecordScreens.Proofs.Query.AggregateSession
import RecordScreens.Proofs.Query.Alterations
import RecordScreens.Proofs.Query.Asked
import RecordScreens.Proofs.Query.DeclaredNames
import RecordScreens.Proofs.Query.Footprint
import RecordScreens.Proofs.Query.Freshness
import RecordScreens.Proofs.Query.Invalidation
import RecordScreens.Proofs.Query.LastFetch
import RecordScreens.Proofs.Query.Lifetimes
import RecordScreens.Proofs.Query.Mutation
import RecordScreens.Proofs.Query.MutationOutcome
import RecordScreens.Proofs.Query.Numbered
import RecordScreens.Proofs.Query.Overlap
import RecordScreens.Proofs.Query.Parts
import RecordScreens.Proofs.Query.PublishedOrder
import RecordScreens.Proofs.Query.Refetch
import RecordScreens.Proofs.Query.Refreshed
import RecordScreens.Proofs.Query.Requests
import RecordScreens.Proofs.Query.Traffic
import RecordScreens.Proofs.Record.Displayed
import RecordScreens.Proofs.Record.Lawful
import RecordScreens.Proofs.Record.Reading
import RecordScreens.Proofs.Routine.Beside
import RecordScreens.Proofs.Routine.Bursts
import RecordScreens.Proofs.Routine.Keeps
import RecordScreens.Proofs.Routine.Prompt
import RecordScreens.Proofs.Routine.Steps
import RecordScreens.Proofs.Section.Shown
import RecordScreens.Proofs.Source.Changes
import RecordScreens.Proofs.Source.Logged
import RecordScreens.Proofs.Source.Order
import RecordScreens.Proofs.Source.Writes
import RecordScreens.Proofs.Status.Insertions
import RecordScreens.Proofs.Text.Blank
import RecordScreens.Proofs.View.Buttons
import RecordScreens.Proofs.View.Tables
import RecordScreens.Query.Aggregate
import RecordScreens.Query.Binder
import RecordScreens.Query.Descriptor
import RecordScreens.Query.Paged
import RecordScreens.Query.Report
import RecordScreens.Query.Single
import RecordScreens.Query.State
import RecordScreens.Record.Basic
import RecordScreens.Record.Display
import RecordScreens.Record.Dynamic
import RecordScreens.Routine
import RecordScreens.Section.Journey
import RecordScreens.Section.Navigator
import RecordScreens.Section.Spec
import RecordScreens.Settings
import RecordScreens.Settings.Report
import RecordScreens.Source.Basic
import RecordScreens.Source.Document
import RecordScreens.Source.Matching
import RecordScreens.Source.Report
import RecordScreens.Source.Scripted
import RecordScreens.Source.Store
import RecordScreens.Status.Table
import RecordScreens.Text.Blank
import RecordScreens.Text.CaseData
import RecordScreens.Text.Elapsed
import RecordScreens.Text.Lowercase
import RecordScreens.Text.Quoted
import RecordScreens.Text.UnprintedData
import RecordScreens.Toml.Basic
import RecordScreens.Toml.Number
import RecordScreens.Toml.Parser
import RecordScreens.Toml.Table
import RecordScreens.Toml.Text
import RecordScreens.View.Layout
import RecordScreens.View.Parts
import RecordScreens.View.Report
