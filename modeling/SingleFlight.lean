import SingleFlight.Capacity
import SingleFlight.CommandLine.Options
import SingleFlight.CommandLine.Parse
import SingleFlight.CommandLine.Program
import SingleFlight.CommandLine.Usage
import SingleFlight.Config
import SingleFlight.Decimal.Binary
import SingleFlight.Decimal.Fixed
import SingleFlight.Decimal.Notation
import SingleFlight.Decimal.Reading
import SingleFlight.Decimal.Shortest
import SingleFlight.Entry
import SingleFlight.Error
import SingleFlight.Event
import SingleFlight.Fetch
import SingleFlight.Gate
import SingleFlight.Guard
import SingleFlight.Random.ChaCha
import SingleFlight.Random.Generator
import SingleFlight.Reclaimer
import SingleFlight.Registry
import SingleFlight.Scenario.Answer
import SingleFlight.Scenario.Background
import SingleFlight.Scenario.Calls
import SingleFlight.Scenario.Calls.Entries
import SingleFlight.Scenario.Calls.Guards
import SingleFlight.Scenario.Calls.Registries
import SingleFlight.Scenario.Calls.Stores
import SingleFlight.Scenario.Calls.Threads
import SingleFlight.Scenario.Plan
import SingleFlight.Scenario.Run
import SingleFlight.Scenario.Script
import SingleFlight.Scenario.Stage
import SingleFlight.Scenario.State
import SingleFlight.Scenario.Step
import SingleFlight.Schedule
import SingleFlight.Simulation.Burst
import SingleFlight.Simulation.Crew
import SingleFlight.Simulation.Destination
import SingleFlight.Simulation.Export
import SingleFlight.Simulation.Guarded
import SingleFlight.Simulation.Joined
import SingleFlight.Simulation.Latency
import SingleFlight.Simulation.Plain
import SingleFlight.Simulation.Render
import SingleFlight.Simulation.Report
import SingleFlight.Simulation.Results
import SingleFlight.Simulation.Run
import SingleFlight.Simulation.Settings
import SingleFlight.Simulation.Strategy
import SingleFlight.Simulation.Tally
import SingleFlight.Simulation.Workload
import SingleFlight.Store.Basic
import SingleFlight.Store.Heap
import SingleFlight.Store.Lookup
import SingleFlight.Store.Procedure
import SingleFlight.Store.Removal
import SingleFlight.Store.Segments
import SingleFlight.Store.Statistics
import SingleFlight.Store.Sweep
import SingleFlight.Text.Column
import SingleFlight.Text.Lines
import SingleFlight.Text.Plain
import SingleFlight.Text.Quoted
import SingleFlight.Text.Unseen
import SingleFlight.Text.Word
import SingleFlight.Time.Clock
import SingleFlight.Time.Duration
import SingleFlight.Main
import SingleFlight.Proofs.Crowd.Basic
import SingleFlight.Proofs.Crowd.Invariant
import SingleFlight.Proofs.Crowd.Progress
import SingleFlight.Proofs.Crowd.Protection
import SingleFlight.Proofs.Crowd.Turns
import SingleFlight.Proofs.Entry.Cases
import SingleFlight.Proofs.Entry.History
import SingleFlight.Proofs.Entry.LockHistory
import SingleFlight.Proofs.Entry.Readers
import SingleFlight.Proofs.Fetch.Phases
import SingleFlight.Proofs.Fetch.Recovery
import SingleFlight.Proofs.Flat.Basic
import SingleFlight.Proofs.Flat.Refinement
import SingleFlight.Proofs.Registry.Bureau
import SingleFlight.Proofs.Registry.Discipline
import SingleFlight.Proofs.Registry.Frames
import SingleFlight.Proofs.Registry.Names
import SingleFlight.Proofs.Simulation.Ledger
import SingleFlight.Proofs.Simulation.Totals
import SingleFlight.Proofs.Store.Mapping
import SingleFlight.Proofs.Store.Placement
import SingleFlight.Proofs.Store.Undisturbed
import SingleFlight.Proofs.Traffic.Agreement
import SingleFlight.Proofs.Traffic.Basic
import SingleFlight.Proofs.Traffic.Condemned
import SingleFlight.Proofs.Traffic.Conservation
import SingleFlight.Proofs.Traffic.Course
import SingleFlight.Proofs.Traffic.Departed
import SingleFlight.Proofs.Traffic.Durability
import SingleFlight.Proofs.Traffic.Exclusion
import SingleFlight.Proofs.Traffic.Gates
import SingleFlight.Proofs.Traffic.Holds
import SingleFlight.Proofs.Traffic.Identities
import SingleFlight.Proofs.Traffic.Invalidation
import SingleFlight.Proofs.Traffic.Layout
import SingleFlight.Proofs.Traffic.Meeting
import SingleFlight.Proofs.Traffic.Origins
import SingleFlight.Proofs.Traffic.Provenance
import SingleFlight.Proofs.Traffic.Reprieve
import SingleFlight.Proofs.Traffic.Returns
import SingleFlight.Proofs.Traffic.Sound
import SingleFlight.Proofs.Traffic.Steps
import SingleFlight.Proofs.Traffic.Sweeping
import SingleFlight.Proofs.Workshop.Basic
import SingleFlight.Proofs.Workshop.Endings
import SingleFlight.Proofs.Workshop.Guards
import SingleFlight.Proofs.Workshop.Known
import SingleFlight.Proofs.Workshop.Locks
import SingleFlight.Proofs.Workshop.Steps
import SingleFlight.Proofs.Registry.Bureau
import SingleFlight.Proofs.Registry.Discipline
import SingleFlight.Proofs.Undisturbed.Sweep
import SingleFlight.Proofs.Undisturbed.Replacement
import SingleFlight.Proofs.Traffic.Openings
import SingleFlight.Proofs.Undisturbed.Lookup
import SingleFlight.Proofs.Undisturbed.Decision
import SingleFlight.Proofs.Undisturbed.Failure
import SingleFlight.Proofs.Entry.Attempts
import SingleFlight.Proofs.Traffic.Torn
import SingleFlight.Proofs.Traffic.Reports
import SingleFlight.Proofs.Simulation.Latencies
import SingleFlight.Proofs.Simulation.Requests
import SingleFlight.Proofs.Schedule.Roster
import SingleFlight.Proofs.Schedule.Custody
import SingleFlight.Proofs.Schedule.Exclusion
import SingleFlight.Proofs.Schedule.Rounds
import SingleFlight.Proofs.Schedule.Succession
