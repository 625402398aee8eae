import AssetSearch.Text.Blank
import AssetSearch.Text.Lowercase
import AssetSearch.Text.Occurrence
import AssetSearch.Text.Quoted
import AssetSearch.Decimal.Shortest
import AssetSearch.Json.Printer
import AssetSearch.Json.Decode
import AssetSearch.Calendar.Timestamp
import AssetSearch.Calendar.Duration
import AssetSearch.Query.Composer
import AssetSearch.Query.Examples
import AssetSearch.Asset
import AssetSearch.Keys.Basic
import AssetSearch.Settings
import AssetSearch.Task
import AssetSearch.Translation
import AssetSearch.History.Record
import AssetSearch.Export.Request
import AssetSearch.Wire.Message
import AssetSearch.Wire.Frame
import AssetSearch.Keys.Batch
import AssetSearch.Diagnostics
import AssetSearch.Cancellation
import AssetSearch.Progress.Tracker
import AssetSearch.Progress.Delivery
import AssetSearch.Progress.Board
import AssetSearch.Theme.Location
import AssetSearch.Wire.Client
import AssetSearch.Theme.Store
import AssetSearch.Backend.Remote
import AssetSearch.Search
import AssetSearch.History.Browser
import AssetSearch.Workspace
import AssetSearch.Keys.Manage
import AssetSearch.Translation.Convert
import AssetSearch.Settings.Save
import AssetSearch.Theme.Saving
import AssetSearch.Proofs.Wire.Views
import AssetSearch.Proofs.Wire.Moments
import AssetSearch.Proofs.Wire.Sound
import AssetSearch.Proofs.Wire.Calls
import AssetSearch.Proofs.Wire.ReplyMatching
import AssetSearch.Proofs.Wire.Teardown
import AssetSearch.Proofs.Progress.Boards
import AssetSearch.Proofs.Export.Tracked
import AssetSearch.Proofs.Progress.Dismissal
import AssetSearch.Proofs.Progress.Deadlines
import AssetSearch.Proofs.Progress.Desks
import AssetSearch.Proofs.Progress.Disposal
import AssetSearch.Proofs.Wire.Framing
import AssetSearch.Proofs.Progress.Deliveries
import AssetSearch.Proofs.History.InStep
import AssetSearch.Proofs.Wire.Endings
import AssetSearch.Proofs.Wire.Publications
import AssetSearch.Proofs.Task.Ids
import AssetSearch.Proofs.Export.Process
import AssetSearch.Proofs.Export.Isolation
import AssetSearch.Proofs.Progress.Sessions
import AssetSearch.Proofs.Backend.WellFormed
import AssetSearch.Proofs.Backend.Asking
import AssetSearch.Proofs.Backend.Requests
import AssetSearch.Proofs.Backend.Runs
import AssetSearch.Proofs.Files.Keeping
import AssetSearch.Proofs.Theme.Names
import AssetSearch.Proofs.Theme.Saves
import AssetSearch.Proofs.Theme.Persistence
import AssetSearch.Proofs.Progress.Observers
import AssetSearch.Proofs.Query.Texts
import AssetSearch.Proofs.Text.Lowering
import AssetSearch.Proofs.Query.Narrowing
import AssetSearch.Proofs.Query.Staleness
import AssetSearch.Proofs.Workspace.Origin
import AssetSearch.Proofs.Workspace.Paging
import AssetSearch.Proofs.Json.FreeForm
import AssetSearch.Proofs.Json.Lasting
import AssetSearch.Proofs.Json.Records
import AssetSearch.Proofs.Json.Sameness
import AssetSearch.Proofs.Calendar.TimestampText
import AssetSearch.Proofs.Wire.RoundTrips
import AssetSearch.Proofs.Wire.Survival
import AssetSearch.Proofs.Query.Quotes
import AssetSearch.Proofs.Progress.Scripts
import AssetSearch.Proofs.Task.Draws
import AssetSearch.Proofs.History.Replaying
import AssetSearch.Proofs.Export.Unreported
import AssetSearch.Proofs.Keys.Batches
import AssetSearch.Proofs.Keys.Checks
import AssetSearch.Proofs.Json.Words
import AssetSearch.Proofs.Wire.Classification
import AssetSearch.Proofs.Progress.Continuity
import AssetSearch.Proofs.Progress.Policies
import AssetSearch.Proofs.Translation.Targets
import AssetSearch.Proofs.Json.Texts
import AssetSearch.Proofs.Backend.Parameters
import AssetSearch.Proofs.Text.Surroundings
import AssetSearch.Proofs.Platform.Spellings
import AssetSearch.Proofs.History.Filtering
