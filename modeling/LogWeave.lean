import LogWeave.Command.Outcome
import LogWeave.Docker.Patrol
import LogWeave.Docker.Recording
import LogWeave.Headcount
import LogWeave.Line.Arrival
import LogWeave.Line.Source
import LogWeave.LogQuery
import LogWeave.Main
import LogWeave.Proofs.Output.Printing
import LogWeave.Proofs.Run.Turn
import LogWeave.Request
import LogWeave.Run.Feed
import LogWeave.Run.Observation
import LogWeave.Run.Rehearsal
import LogWeave.Run.Weave
import LogWeave.Settings.Credentials
import LogWeave.Settings.Layers
import LogWeave.Status.Bulletin
import LogWeave.Status.Document
import LogWeave.Proofs.Run.Headcount
import LogWeave.Proofs.Run.Move
import LogWeave.Proofs.Line.Chronicle
import LogWeave.Proofs.Run.Resume
import LogWeave.Proofs.Run.Passage
import LogWeave.Proofs.Run.Completion
import LogWeave.Proofs.Run.Ending
import LogWeave.Proofs.Headcount.Waiting
import LogWeave.Proofs.Run.Sifting
import LogWeave.Proofs.Run.Wiring
import LogWeave.Proofs.Run.Halting
import LogWeave.Proofs.Run.Errand
import LogWeave.Proofs.Run.Dispatch
import LogWeave.Proofs.Run.Progress
import LogWeave.Proofs.Run.Failing
import LogWeave.Proofs.Run.Cancelling
import LogWeave.Proofs.Run.Telling
import LogWeave.Proofs.Run.Lasting
import LogWeave.Proofs.Run.Grammar
import LogWeave.Proofs.Run.Recital
import LogWeave.Proofs.Output.Sorting
import LogWeave.Proofs.Run.Order
import LogWeave.Proofs.Run.Receipts
import LogWeave.Proofs.Run.Notices
import LogWeave.Proofs.Time.Almanac
import LogWeave.Proofs.Line.Stamping
import LogWeave.Proofs.Status.Watching
import LogWeave.Proofs.Run.Sighting
import LogWeave.Proofs.Run.Pacing
import LogWeave.Proofs.Run.Attribution
import LogWeave.Proofs.Json.KeepingUp
import LogWeave.Proofs.Settings.Layering
import LogWeave.Proofs.Settings.Overlaying
import LogWeave.Proofs.Time.Lenience
import LogWeave.Proofs.Status.Spelling
import LogWeave.Proofs.Docker.Mirroring
import LogWeave.Proofs.Docker.Patrolling
import LogWeave.Proofs.Run.Heedless
import LogWeave.Proofs.Text.Encoding
import LogWeave.Proofs.Json.Taking
import LogWeave.Proofs.Json.Spelling
import LogWeave.Proofs.Json.Parts
import LogWeave.Proofs.Json.Order
import LogWeave.Proofs.Json.RoundTrip
import LogWeave.Proofs.Files.Walking
import LogWeave.Proofs.Files.Keeping
import LogWeave.Proofs.Files.LastWrite
import LogWeave.Proofs.Command.Words
import LogWeave.Proofs.Command.Sessions
import LogWeave.Proofs.Output.Punctual
import LogWeave.Proofs.Run.Latency
import LogWeave.Proofs.Run.Beat
import LogWeave.Proofs.Run.Retrying
import LogWeave.Proofs.Line.Writing
import LogWeave.Proofs.Line.Zones
import LogWeave.Proofs.Output.Collating
import LogWeave.Proofs.Run.Zones
import LogWeave.Proofs.Docker.Framing
import LogWeave.Proofs.Run.Unbroken
import LogWeave.Proofs.Docker.Content
import LogWeave.Proofs.Output.Refusing
import LogWeave.Proofs.Run.Cutoff
import LogWeave.Proofs.Text.Order
import LogWeave.Proofs.Docker.Listing
import LogWeave.Proofs.Command.Table
import LogWeave.Proofs.Run.Staffing
