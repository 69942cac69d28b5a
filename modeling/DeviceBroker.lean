import DeviceBroker.RemoteId
import DeviceBroker.Text.Blank
import DeviceBroker.Text.Number
import DeviceBroker.Message.Request
import DeviceBroker.Message.Reply
import DeviceBroker.Table
import DeviceBroker.Identity.Registry
import DeviceBroker.Memory
import DeviceBroker.Override
import DeviceBroker.Simulator.Telemetry
import DeviceBroker.Simulator.State
import DeviceBroker.Simulator.Serve
import DeviceBroker.Broker.Serve
import DeviceBroker.Wire.Codec
import DeviceBroker.Wire.Envelope
import DeviceBroker.Wire.Frame
import DeviceBroker.Config.Environment
import DeviceBroker.Document.Json
import DeviceBroker.Document.Message
import DeviceBroker.Client.Script
import DeviceBroker.Client.Connection
import DeviceBroker.Server.Session
import DeviceBroker.Client.Link
import DeviceBroker.Proofs.Broker.Dangling
import DeviceBroker.Proofs.Broker.Failure
import DeviceBroker.Proofs.Broker.Freshness
import DeviceBroker.Proofs.Broker.History
import DeviceBroker.Proofs.Broker.Isolation
import DeviceBroker.Proofs.Bytes
import DeviceBroker.Proofs.Identity.Claims
import DeviceBroker.Proofs.Identity.Plain
import DeviceBroker.Proofs.Wire.Format
import DeviceBroker.Proofs.Broker.Conduct
import DeviceBroker.Proofs.Broker.Turns
import DeviceBroker.Proofs.Broker.Slots
import DeviceBroker.Proofs.Broker.Teardowns
import DeviceBroker.Proofs.Broker.Origins
import DeviceBroker.Proofs.Simulator.Openings
import DeviceBroker.Proofs.Broker.Tenants
import DeviceBroker.Proofs.Broker.Orphans
import DeviceBroker.Proofs.Broker.Regions
import DeviceBroker.Proofs.Broker.Mappings
import DeviceBroker.Proofs.Broker.Undone
import DeviceBroker.Proofs.Broker.Removals
import DeviceBroker.Proofs.Broker.Answers
import DeviceBroker.Proofs.Client.Transparency
import DeviceBroker.Proofs.Broker.Payloads
import DeviceBroker.Proofs.Client.Verdicts
import DeviceBroker.Proofs.Client.Conversation
import DeviceBroker.Proofs.Server.Replies
import DeviceBroker.Proofs.Broker.Arrays
import DeviceBroker.Proofs.Wire.Chunks
import DeviceBroker.Proofs.Identity.Renaming
import DeviceBroker.Proofs.Broker.Renaming
import DeviceBroker.Proofs.Broker.Recycling
import DeviceBroker.Proofs.Identity.Pruning
import DeviceBroker.Proofs.Simulator.Cards
import DeviceBroker.Proofs.Simulator.Confinement
import DeviceBroker.Proofs.Broker.Cards
import DeviceBroker.Proofs.Broker.Confinement
import DeviceBroker.Proofs.Simulator.Failure
import DeviceBroker.Proofs.Simulator.Cores
import DeviceBroker.Proofs.Simulator.Occupancy
import DeviceBroker.Proofs.Simulator.Registers
import DeviceBroker.Proofs.Broker.Reverted
import DeviceBroker.Proofs.Broker.Registers
import DeviceBroker.Proofs.Server.Capacity
import DeviceBroker.Proofs.Properties
import DeviceBroker.Proofs.Simulator.Listing
import DeviceBroker.Proofs.Broker.Tokens
import DeviceBroker.Proofs.Broker.Stranded
import DeviceBroker.Proofs.Broker.Listing
import DeviceBroker.Proofs.Broker.Parents
import DeviceBroker.Proofs.Simulator.Addresses
import DeviceBroker.Proofs.Broker.Objects
import DeviceBroker.Proofs.Broker.Navigation
import DeviceBroker.Proofs.Broker.Reconfiguration
import DeviceBroker.Proofs.Broker.Polling
import DeviceBroker.Proofs.Broker.Metrics
import DeviceBroker.Proofs.Server.Buses
import DeviceBroker.Proofs.Simulator.Vacancies
import DeviceBroker.Proofs.Simulator.Overwriting
import DeviceBroker.Proofs.RemoteId
