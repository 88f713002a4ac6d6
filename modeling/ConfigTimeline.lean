import ConfigTimeline.Json.Texts
import ConfigTimeline.Main
import ConfigTimeline.Store.Database.Edit
import ConfigTimeline.Store.Memory.Unit
import ConfigTimeline.Store.Overview
import ConfigTimeline.Store.Script
import ConfigTimeline.Proofs.Store.Atomicity
import ConfigTimeline.Proofs.Id.Text
import ConfigTimeline.Proofs.Time.FullText
import ConfigTimeline.Proofs.Store.Cells
import ConfigTimeline.Proofs.Store.Constraints
import ConfigTimeline.Proofs.Store.Representation
import ConfigTimeline.Proofs.Store.Queries
import ConfigTimeline.Proofs.Store.Simulation
import ConfigTimeline.Proofs.Store.TableModel
import ConfigTimeline.Proofs.Store.Equivalence
import ConfigTimeline.Proofs.Id.Order
import ConfigTimeline.Proofs.Timeline.Gapless
import ConfigTimeline.Proofs.Store.ReadUnits
import ConfigTimeline.Proofs.Store.Reasoning
import ConfigTimeline.Proofs.Timeline.Commits
import ConfigTimeline.Proofs.Store.Writes
import ConfigTimeline.Proofs.Service.Appending
import ConfigTimeline.Proofs.Service.Repinning
import ConfigTimeline.Proofs.Service.Effects
import ConfigTimeline.Proofs.Service.Run
import ConfigTimeline.Proofs.Timeline.Growth
import ConfigTimeline.Proofs.Timeline.History
import ConfigTimeline.Proofs.Timeline.Chains
import ConfigTimeline.Proofs.Timeline.Resolved
import ConfigTimeline.Proofs.Timeline.Ordering
import ConfigTimeline.Proofs.Timeline.Creation
import ConfigTimeline.Proofs.Store.Keeping
import ConfigTimeline.Proofs.Timeline.AppendOnly
import ConfigTimeline.Proofs.Timeline.Links
import ConfigTimeline.Proofs.Store.Sector
import ConfigTimeline.Proofs.Store.MemorySectors
import ConfigTimeline.Proofs.Store.DatabaseSectors
import ConfigTimeline.Proofs.Store.Replay
import ConfigTimeline.Proofs.Store.Commuting
import ConfigTimeline.Proofs.Service.Reading
import ConfigTimeline.Proofs.Timeline.Reads
import ConfigTimeline.Proofs.Service.Masking
import ConfigTimeline.Proofs.Timeline.Deltas
import ConfigTimeline.Proofs.Timeline.Masks
import ConfigTimeline.Proofs.Service.Confinement
import ConfigTimeline.Proofs.Service.Separation
import ConfigTimeline.Proofs.Service.Commuting
import ConfigTimeline.Proofs.Service.Answers
import ConfigTimeline.Proofs.Timeline.Permanence
import ConfigTimeline.Proofs.Timeline.Environments
import ConfigTimeline.Proofs.Timeline.Pins
import ConfigTimeline.Proofs.Timeline.Paging
import ConfigTimeline.Proofs.Store.Insertions
import ConfigTimeline.Proofs.Service.Refusals
import ConfigTimeline.Proofs.Timeline.ChosenIds
import ConfigTimeline.Proofs.Service.Directories
import ConfigTimeline.Proofs.Store.Steady
import ConfigTimeline.Proofs.Service.Twins
import ConfigTimeline.Proofs.Timeline.FarPages
import ConfigTimeline.Proofs.Store.Contents
import ConfigTimeline.Proofs.Timeline.Overlaps
import ConfigTimeline.Proofs.Service.Binding
import ConfigTimeline.Proofs.Service.Granting
import ConfigTimeline.Proofs.Timeline.Bindings
import ConfigTimeline.Proofs.Request.Validation
import ConfigTimeline.Proofs.Store.Keys
import ConfigTimeline.Proofs.Store.Spelling
import ConfigTimeline.Proofs.Store.Selections
import ConfigTimeline.Proofs.Store.ReadBack
import ConfigTimeline.Proofs.Service.Relaying
import ConfigTimeline.Proofs.Text.Digits
import ConfigTimeline.Proofs.Json.RoundTrip
import ConfigTimeline.Proofs.Time.ShortText
import ConfigTimeline.Proofs.Record.Wire
import ConfigTimeline.Proofs.Request.Wire
import ConfigTimeline.Proofs.Service.Overlaying
import ConfigTimeline.Proofs.Id.Codec
import ConfigTimeline.Proofs.Directory.Runs
import ConfigTimeline.Proofs.Directory.Indexes
import ConfigTimeline.Proofs.Request.Pages
import ConfigTimeline.Proofs.Id.Generation
