import Bedspace.Api.Action
import Bedspace.Api.MediaType
import Bedspace.Api.Problem
import Bedspace.Api.Respond
import Bedspace.Api.Route
import Bedspace.Api.Target
import Bedspace.Application.Basic
import Bedspace.Application.Cascade
import Bedspace.Application.Lifecycle
import Bedspace.Booking.Basic
import Bedspace.Booking.Lifecycle
import Bedspace.Calendar.Date
import Bedspace.Calendar.DateRange
import Bedspace.Calendar.DateText
import Bedspace.CommandLine.Command
import Bedspace.CommandLine.FileTree
import Bedspace.CommandLine.Options
import Bedspace.CommandLine.Run
import Bedspace.Csv.Record
import Bedspace.Csv.Row
import Bedspace.Decimal.Fixed
import Bedspace.Decimal.Read
import Bedspace.Estate.Basic
import Bedspace.Estate.Distance
import Bedspace.Estate.Import
import Bedspace.Estate.Listing
import Bedspace.Failure
import Bedspace.Id
import Bedspace.Json.Application
import Bedspace.Json.Booking
import Bedspace.Json.Decode
import Bedspace.Json.Document
import Bedspace.Json.Estate
import Bedspace.Json.Number
import Bedspace.Json.Search
import Bedspace.Json.Value
import Bedspace.Main
import Bedspace.Paging
import Bedspace.Proofs.Acting
import Bedspace.Proofs.Alone
import Bedspace.Proofs.Amid
import Bedspace.Proofs.Booking.Admission
import Bedspace.Proofs.Booking.Creation
import Bedspace.Proofs.Booking.Dates
import Bedspace.Proofs.Booking.InService
import Bedspace.Proofs.Booking.Redating
import Bedspace.Proofs.Booking.Turnaround
import Bedspace.Proofs.Calendar.Days
import Bedspace.Proofs.Calendar.Overlaps
import Bedspace.Proofs.Cascade.Account
import Bedspace.Proofs.Cascade.Cancelling
import Bedspace.Proofs.Cascade.Course
import Bedspace.Proofs.Cascade.Effect
import Bedspace.Proofs.Cascade.Heredity
import Bedspace.Proofs.Cascade.Nodes
import Bedspace.Proofs.Cascade.Order
import Bedspace.Proofs.Cascade.Standing
import Bedspace.Proofs.Cascade.Throughout
import Bedspace.Proofs.Changes
import Bedspace.Proofs.Clients
import Bedspace.Proofs.Confined
import Bedspace.Proofs.Csv.Lines
import Bedspace.Proofs.Estate.Bookkeeping
import Bedspace.Proofs.Estate.Grouping
import Bedspace.Proofs.Estate.Imported
import Bedspace.Proofs.Estate.RowNumbers
import Bedspace.Proofs.Footprint
import Bedspace.Proofs.Holding
import Bedspace.Proofs.LateAssessment
import Bedspace.Proofs.Loading
import Bedspace.Proofs.Numbering
import Bedspace.Proofs.Ownership
import Bedspace.Proofs.Pages
import Bedspace.Proofs.Requests
import Bedspace.Proofs.Rights
import Bedspace.Proofs.Runs
import Bedspace.Proofs.SavedTrees
import Bedspace.Proofs.Search.ApprovedPremises
import Bedspace.Proofs.Search.Bookable
import Bedspace.Proofs.Search.Listed
import Bedspace.Proofs.Search.Listing
import Bedspace.Proofs.Search.SameNights
import Bedspace.Proofs.Search.Scan
import Bedspace.Proofs.Search.TemporaryAccommodation
import Bedspace.Proofs.Search.Window
import Bedspace.Proofs.Submission
import Bedspace.Proofs.Undisturbed
import Bedspace.Proofs.Withdrawables
import Bedspace.Proofs.Writes
import Bedspace.Proofs.WritesLast
import Bedspace.Search.Availability
import Bedspace.Search.Basic
import Bedspace.Search.Find
import Bedspace.Search.Report
import Bedspace.Settings.Address
import Bedspace.Settings.Basic
import Bedspace.Settings.LogFilter
import Bedspace.Settings.Pattern
import Bedspace.Settings.Pattern.Atom
import Bedspace.Settings.Pattern.Class
import Bedspace.Settings.Pattern.Group
import Bedspace.Settings.Pattern.Mode
import Bedspace.Settings.VariableFile
import Bedspace.Store.Basic
import Bedspace.Store.Call
import Bedspace.Store.Program
import Bedspace.Table
import Bedspace.Text.Alphanumeric
import Bedspace.Text.Blank
import Bedspace.Text.LowerCase
import Bedspace.Text.LowerCase.Table
import Bedspace.Text.Number
import Bedspace.Text.Order
import Bedspace.Text.Utf8
import Bedspace.Validation
import Bedspace.Withdrawal
