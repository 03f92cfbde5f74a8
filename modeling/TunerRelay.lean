import TunerRelay.Arguments.Json
import TunerRelay.Main
import TunerRelay.Receiver.Refusal
import TunerRelay.Receiver.Script
import TunerRelay.Relay.Rehearsal
import TunerRelay.Relay.Traffic
import TunerRelay.Session.Rehearsal
import TunerRelay.Json.Text
import TunerRelay.Pool.Holder
import TunerRelay.Proofs.Lists
import TunerRelay.Proofs.Pool.Conservation
import TunerRelay.Proofs.Relay.Crew
import TunerRelay.Proofs.Relay.Stranding
import TunerRelay.Proofs.Relay.Isolation
import TunerRelay.Proofs.Relay.Intrusion
import TunerRelay.Proofs.Wire.Records
import TunerRelay.Proofs.Relay.Reading
import TunerRelay.Proofs.Relay.Commands
import TunerRelay.Proofs.Pool.Packing
import TunerRelay.Proofs.Pool.Stages
import TunerRelay.Proofs.Relay.Supply
import TunerRelay.Proofs.Relay.Delivery
import TunerRelay.Proofs.Relay.Ledger
import TunerRelay.Proofs.Relay.Stream
import TunerRelay.Session.Course
import TunerRelay.Proofs.Arguments.Acceptance
import TunerRelay.Proofs.Arguments.Printing
import TunerRelay.Proofs.Arguments.Quoting
import TunerRelay.Proofs.Relay.Resources
import TunerRelay.Proofs.Session.Configuring
import TunerRelay.Proofs.Receiver.Sharing
import TunerRelay.Proofs.Receiver.Freshness
import TunerRelay.Proofs.Relay.Farewells
import TunerRelay.Proofs.Relay.Overtaking
import TunerRelay.Device.Logged
import TunerRelay.Session.Hosting
import TunerRelay.Proofs.Session.Protocol
import TunerRelay.Proofs.Session.Closing
import TunerRelay.Proofs.Session.Cancelling
import TunerRelay.Proofs.Session.Returning
import TunerRelay.Proofs.Schedules
import TunerRelay.Proofs.Pool.PlainArray
import TunerRelay.Proofs.Pool.Refinement
import TunerRelay.Proofs.Pool.Lending
import TunerRelay.Proofs.Relay.Charge
import TunerRelay.Proofs.Relay.Settling
import TunerRelay.Proofs.Relay.Balance
import TunerRelay.Proofs.Session.Sections
import TunerRelay.Proofs.Session.Leaks
import TunerRelay.Proofs.Session.Intents
import TunerRelay.Proofs.Session.Coverage
import TunerRelay.Proofs.Session.Lateness
import TunerRelay.Proofs.Pool.Relaying
import TunerRelay.Proofs.Pool.WritingBack
import TunerRelay.Proofs.Relay.Feeding
import TunerRelay.Proofs.Relay.Tally
import TunerRelay.Proofs.Program.Ending
import TunerRelay.Proofs.Receiver.Changes
import TunerRelay.Proofs.Receiver.Rounds
import TunerRelay.Proofs.Tuner.Percentage
import TunerRelay.Proofs.Adapter.Dispatch
import TunerRelay.Proofs.Receiver.Latest
import TunerRelay.Proofs.Session.Preparing
import TunerRelay.Proofs.Wire.Formats
import TunerRelay.Proofs.Receiver.Banners
import TunerRelay.Proofs.Pool.Blocking
import TunerRelay.Proofs.Session.Announcing
