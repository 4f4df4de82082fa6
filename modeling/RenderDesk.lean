import RenderDesk.Artifact.Export
import RenderDesk.Artifact.FileName
import RenderDesk.Artifact.Stamp
import RenderDesk.Document.Edit
import RenderDesk.Document.Example
import RenderDesk.Document.Title
import RenderDesk.Duration
import RenderDesk.Engine.Command
import RenderDesk.Engine.Executor
import RenderDesk.Engine.Machine
import RenderDesk.Engine.StartError
import RenderDesk.Engine.Task
import RenderDesk.Files.IoError
import RenderDesk.Files.Operations
import RenderDesk.Files.Path
import RenderDesk.Files.Tree
import RenderDesk.Http.Client
import RenderDesk.Http.Message
import RenderDesk.Http.Tape
import RenderDesk.Http.Wire
import RenderDesk.Json.Read
import RenderDesk.Json.Value
import RenderDesk.Program.Launch
import RenderDesk.Program.OneShot
import RenderDesk.Program.Schedule
import RenderDesk.Program.System
import RenderDesk.Service.Calls
import RenderDesk.Service.Exchange
import RenderDesk.Service.Failure
import RenderDesk.Service.Remote
import RenderDesk.Service.Settings
import RenderDesk.Service.Wire
import RenderDesk.Session.Message
import RenderDesk.Session.State
import RenderDesk.Session.Update
import RenderDesk.Session.View
import RenderDesk.Settings.Blank
import RenderDesk.Settings.CommandLine
import RenderDesk.Settings.File
import RenderDesk.Settings.Literal
import RenderDesk.Settings.Load
import RenderDesk.Settings.Preferences
import RenderDesk.Settings.Token
import RenderDesk.Storage.AtomicWrite
import RenderDesk.Storage.Committer
import RenderDesk.Storage.FileStore
import RenderDesk.Storage.Guard
import RenderDesk.Storage.Store
import RenderDesk.Terminal.Command
import RenderDesk.Terminal.Desk
import RenderDesk.Terminal.Incoming
import RenderDesk.Terminal.Transcript
import RenderDesk.Text.Blank
import RenderDesk.Text.Cut
import RenderDesk.Text.Digits
import RenderDesk.Text.Lines
import RenderDesk.Text.Printable
import RenderDesk.Text.Quoted
import RenderDesk.Text.Replace
import RenderDesk.Text.Utf8
import RenderDesk.Timed
import RenderDesk.Url.Address
import RenderDesk.Url.Authority
import RenderDesk.Url.Domain
import RenderDesk.Url.Parse
import RenderDesk.Url.Percent
import RenderDesk.Url.Punycode
import RenderDesk.Url.Segments
import RenderDesk.Url.Url
import RenderDesk.Main
import RenderDesk.Proofs.Coherence
import RenderDesk.Proofs.Transitions
import RenderDesk.Program.Circuit
import RenderDesk.Proofs.Rows
import RenderDesk.Proofs.Saving
import RenderDesk.Proofs.Jobs
import RenderDesk.Proofs.SavedMark
import RenderDesk.Proofs.Attendance
import RenderDesk.Proofs.Leaving
import RenderDesk.Proofs.StoredText
import RenderDesk.Proofs.SingleFlight
import RenderDesk.Proofs.Previews
import RenderDesk.Proofs.Commuting
import RenderDesk.Proofs.Verdict
import RenderDesk.Proofs.Answers
import RenderDesk.Proofs.Turns
import RenderDesk.Storage.Shelf
import RenderDesk.Proofs.Screen
import RenderDesk.Proofs.Debouncing
import RenderDesk.Proofs.Committing
import RenderDesk.Proofs.Logs
import RenderDesk.Proofs.Copying
import RenderDesk.Proofs.Places
import RenderDesk.Proofs.Growing
import RenderDesk.Proofs.AllOrNothing
import RenderDesk.Proofs.Entries
import RenderDesk.Proofs.Tables
import RenderDesk.Proofs.Exporting
import RenderDesk.Program.Errand
import RenderDesk.Proofs.Errands
import RenderDesk.Proofs.Rounds
import RenderDesk.Proofs.Logging
import RenderDesk.Proofs.Extracting
import RenderDesk.Proofs.Downloading
import RenderDesk.Proofs.Quoting
import RenderDesk.Proofs.Recording
import RenderDesk.Proofs.Replaying
import RenderDesk.Proofs.Resolving
import RenderDesk.Proofs.Fetching
import RenderDesk.Proofs.Decoding
import RenderDesk.Proofs.Addressing
import RenderDesk.Proofs.Naming
import RenderDesk.Proofs.Trimming
import RenderDesk.Proofs.Devices
import RenderDesk.Proofs.Typing
import RenderDesk.Proofs.Undoing
import RenderDesk.Proofs.Headings
import RenderDesk.Proofs.Ticking
import RenderDesk.Proofs.Metadata
import RenderDesk.Proofs.Settled
import RenderDesk.Proofs.Trailing
