import SceneBench.Number.Text
import SceneBench.Geometry.Camera
import SceneBench.Record.Encoding
import SceneBench.Content
import SceneBench.Storage.Path
import SceneBench.Storage.Error
import SceneBench.Identity
import SceneBench.Storage.Room
import SceneBench.Storage.Reading
import SceneBench.Storage.Stream
import SceneBench.Storage.Utf8
import SceneBench.Log
import SceneBench.Storage.Action
import SceneBench.Storage.Files
import SceneBench.Storage.Disk.Node
import SceneBench.Storage.Disk.Basic
import SceneBench.Storage.Disk.Trail
import SceneBench.Storage.Disk.Walk
import SceneBench.Storage.Disk.Host
import SceneBench.Scene.Basic
import SceneBench.Scene.Error
import SceneBench.Scene.Producer
import SceneBench.Scene.Watched
import SceneBench.Routine.Basic
import SceneBench.Routine.ContentFile
import SceneBench.Routine.Standard
import SceneBench.Registry
import SceneBench.Storage.ScriptedReader
import SceneBench.Text.Visible
import SceneBench.Text.Quoted
import SceneBench.Json.Fault
import SceneBench.Json.Cursor
import SceneBench.Json.Number
import SceneBench.Json.Strings
import SceneBench.Json.Skip
import SceneBench.Json.Reader
import SceneBench.Json.Shape
import SceneBench.Json.Document
import SceneBench.Plan.Basic
import SceneBench.Plan.Reading
import SceneBench.Plan.Writing
import SceneBench.Plan.Loading
import SceneBench.Summary
import SceneBench.Run
import SceneBench.CommandLine
import SceneBench.Main
import SceneBench.Storage.Disk.Trail
import SceneBench.Proofs.Table
import SceneBench.Proofs.Scene.Held
import SceneBench.Proofs.Registry.Links
import SceneBench.Proofs.Registry.Steps
import SceneBench.Proofs.Registry.Calls
import SceneBench.Proofs.Registry.Correspondence
import SceneBench.Proofs.Registry.Identities
import SceneBench.Proofs.Registry.FailedCreation
import SceneBench.Proofs.Routine.Entering
import SceneBench.Proofs.Registry.StateChange
import SceneBench.Proofs.Plan.Placement
import SceneBench.Proofs.Record.RoundTrip
import SceneBench.Proofs.Storage.Jobs
import SceneBench.Proofs.Routine.Served
import SceneBench.Proofs.Plan.Expectation
import SceneBench.Proofs.Registry.Shown
import SceneBench.Proofs.Plan.Creating
import SceneBench.Proofs.Plan.Outcome
import SceneBench.Proofs.Storage.WholeFile
import SceneBench.Proofs.Record.Format
import SceneBench.Proofs.Storage.Filling
import SceneBench.Proofs.Storage.ReadingLoop
import SceneBench.Proofs.Storage.Following
import SceneBench.Proofs.Storage.Keeping
import SceneBench.Proofs.Routine.ReadBack
import SceneBench.Proofs.Routine.Showing
import SceneBench.Proofs.Registry.Lives
import SceneBench.Proofs.Registry.Histories
import SceneBench.Proofs.Registry.Requests
import SceneBench.Proofs.Registry.Counting
import SceneBench.Proofs.Registry.Numbering
import SceneBench.Proofs.Registry.Recorded
import SceneBench.Proofs.Registry.Ledger
import SceneBench.Proofs.Plan.CleanUp
import SceneBench.Proofs.Plan.Reporting
import SceneBench.Proofs.Json.Scanning
import SceneBench.Proofs.Json.Numerals
import SceneBench.Proofs.Json.Literals
import SceneBench.Proofs.Json.Spelling
import SceneBench.Proofs.Json.Skipping
import SceneBench.Proofs.Json.Meaning
import SceneBench.Proofs.Json.Records
import SceneBench.Proofs.Json.Accounts
import SceneBench.Proofs.Json.Respelling
import SceneBench.Proofs.Json.Leaving
import SceneBench.Proofs.Json.Brackets
import SceneBench.Proofs.Json.WellFormed
import SceneBench.Proofs.Plan.Shapes
import SceneBench.Proofs.Plan.Spellings
import SceneBench.Proofs.Plan.Settings
import SceneBench.Proofs.Storage.Standing
import SceneBench.Proofs.Storage.EncodedText
import SceneBench.Proofs.Registry.Provenance
import SceneBench.Proofs.Storage.Asking
import SceneBench.Proofs.Storage.Carrying
import SceneBench.Proofs.Storage.WriteRead
import SceneBench.Proofs.Storage.Directories
import SceneBench.Proofs.Storage.Joining
import SceneBench.Proofs.Plan.SummaryFiles
import SceneBench.Proofs.Plan.ContentFiles
import SceneBench.Proofs.Registry.Destroying
import SceneBench.Proofs.Scene.Issuing
import SceneBench.Proofs.Storage.Interruptions
import SceneBench.Proofs.Content.Sponge
import SceneBench.Proofs.Geometry.Enclosing
import SceneBench.Proofs.Storage.Ancestors
import SceneBench.Proofs.Storage.Ensuring
