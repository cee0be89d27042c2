import ProvenBlocks.Bus.Exchange
import ProvenBlocks.Item.Json
import ProvenBlocks.Json.Announcement
import ProvenBlocks.Main
import ProvenBlocks.Settings.Json
import ProvenBlocks.Utf8.Lemmas
import ProvenBlocks.Proofs.AllOrNothing
import ProvenBlocks.Proofs.Attribution
import ProvenBlocks.Proofs.Reference
import ProvenBlocks.Proofs.Reloading
import ProvenBlocks.Proofs.Restarts
import ProvenBlocks.Proofs.SelfContained
import ProvenBlocks.Proofs.Visibility
import ProvenBlocks.Proofs.Wiring
import ProvenBlocks.Proofs.Encodings
import ProvenBlocks.Proofs.Halting
import ProvenBlocks.Proofs.Commitment
import ProvenBlocks.Proofs.BlockFiles
import ProvenBlocks.Proofs.Placement
import ProvenBlocks.Proofs.Succession
import ProvenBlocks.Proofs.NodeRuns
import ProvenBlocks.Proofs.Schedules
import ProvenBlocks.Proofs.LastSave
import ProvenBlocks.Proofs.Protocol
import ProvenBlocks.Proofs.SeedLag
import ProvenBlocks.Proofs.Tallies
import ProvenBlocks.Proofs.Startups
import ProvenBlocks.Proofs.Texts
import ProvenBlocks.Proofs.ProofFailures
import ProvenBlocks.Proofs.Capacity
import ProvenBlocks.Proofs.Retention
import ProvenBlocks.Proofs.Feeds
import ProvenBlocks.Proofs.Summaries
import ProvenBlocks.Proofs.RunCounts
import ProvenBlocks.Proofs.TornFiles
import ProvenBlocks.Proofs.Consumers
import ProvenBlocks.Proofs.Shelves
import ProvenBlocks.Proofs.Evictions
import ProvenBlocks.Proofs.Agreement
import ProvenBlocks.Proofs.Backlogs
