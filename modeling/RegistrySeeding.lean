import RegistrySeeding.Main
import RegistrySeeding.Registry.Script
import RegistrySeeding.Proofs.Seed.CleanRun
import RegistrySeeding.Proofs.Seed.Counting
import RegistrySeeding.Proofs.Ledger.Presence
import RegistrySeeding.Proofs.Seed.Idempotence
import RegistrySeeding.Proofs.Ledger.Growth
import RegistrySeeding.Proofs.Seed.Keeping
import RegistrySeeding.Proofs.Seed.Recovery
import RegistrySeeding.Proofs.Seed.CallOrder
import RegistrySeeding.Proofs.Seed.Cancellation
import RegistrySeeding.Proofs.Seed.Blocks
import RegistrySeeding.Proofs.Seed.Muting
import RegistrySeeding.Proofs.Seed.Attribution
import RegistrySeeding.Proofs.Seed.EventStream
import RegistrySeeding.Proofs.Seed.CleanJournal
import RegistrySeeding.Proofs.Ledger.FreshKeys
import RegistrySeeding.Proofs.Seed.CleanEffect
import RegistrySeeding.Proofs.Seed.Agreement
import RegistrySeeding.Proofs.Seed.Resolution
import RegistrySeeding.Proofs.Seed.Reordering
import RegistrySeeding.Proofs.Client.Tokens
import RegistrySeeding.Proofs.Client.PageServer
import RegistrySeeding.Proofs.Seed.Noninterference
import RegistrySeeding.Proofs.Json.Entries
import RegistrySeeding.Proofs.Record.RoundTrip
import RegistrySeeding.Proofs.Seed.Parting
import RegistrySeeding.Proofs.Seed.Provenance
import RegistrySeeding.Proofs.Seed.Refusal
import RegistrySeeding.Proofs.Json.Position
import RegistrySeeding.Proofs.Source.Loading
import RegistrySeeding.Proofs.Client.Faults
import RegistrySeeding.Proofs.Json.Faithful
import RegistrySeeding.Proofs.Time.Rfc3339
import RegistrySeeding.Proofs.Seed.Trials
import RegistrySeeding.Proofs.Seed.Rejection
import RegistrySeeding.Proofs.Client.Verdicts
import RegistrySeeding.Proofs.Json.Spelling
import RegistrySeeding.Proofs.Json.NumberReading
import RegistrySeeding.Proofs.Json.Skipping
import RegistrySeeding.Proofs.Json.Meaning
import RegistrySeeding.Proofs.Json.Senses
import RegistrySeeding.Proofs.Json.Gathering
import RegistrySeeding.Proofs.Record.Acceptance
import RegistrySeeding.Proofs.Seed.FirstListed
import RegistrySeeding.Proofs.Client.Bodies
import RegistrySeeding.Proofs.Summary.ReadBack
import RegistrySeeding.Proofs.Config.Authorization
import RegistrySeeding.Proofs.Seed.WordSums
