import RoverDispatch.Fleet.Basic
import RoverDispatch.Fleet.Draft
import RoverDispatch.Fleet.DraftFile
import RoverDispatch.Fleet.Outcome
import RoverDispatch.Fleet.Record
import RoverDispatch.Fleet.Registry
import RoverDispatch.Fleet.Snapshot
import RoverDispatch.Fleet.Sweep
import RoverDispatch.Json.Document
import RoverDispatch.Json.Number
import RoverDispatch.Json.Quoted
import RoverDispatch.Json.Record
import RoverDispatch.Json.Scan
import RoverDispatch.Json.Shape
import RoverDispatch.Json.Skip
import RoverDispatch.Message.Basic
import RoverDispatch.Message.Fault
import RoverDispatch.Message.Payload
import RoverDispatch.Network.Address
import RoverDispatch.Network.Link
import RoverDispatch.Node.Coordinator
import RoverDispatch.Node.Rover
import RoverDispatch.Node.Settings
import RoverDispatch.Numeric.Decimal
import RoverDispatch.Numeric.Interval
import RoverDispatch.Numeric.Single
import RoverDispatch.Rover.Simulation
import RoverDispatch.Session.Agent
import RoverDispatch.Session.Exchange
import RoverDispatch.Session.Execution
import RoverDispatch.Session.Reaction
import RoverDispatch.Session.Reception
import RoverDispatch.Session.Reports
import RoverDispatch.Session.Supervisor
import RoverDispatch.Session.Timing
import RoverDispatch.Session.TimingFile
import RoverDispatch.Table
import RoverDispatch.Text.Blank
import RoverDispatch.Text.Printable
import RoverDispatch.Text.Quoted
import RoverDispatch.Transfer.Assembly
import RoverDispatch.Transfer.Error
import RoverDispatch.Transfer.Messages
import RoverDispatch.Transfer.Split
import RoverDispatch.Transfer.Window
import RoverDispatch.Wire.Datagram
import RoverDispatch.Wire.Error
import RoverDispatch.Wire.Field
import RoverDispatch.Wire.FieldTable
import RoverDispatch.Wire.Schema
import RoverDispatch.Wire.Value
import RoverDispatch.Wire.Word
import RoverDispatch.Proofs.Wire.Fields
import RoverDispatch.Proofs.Wire.Values
import RoverDispatch.Proofs.Wire.Payloads
import RoverDispatch.Proofs.Wire.Messages
import RoverDispatch.Proofs.Table
import RoverDispatch.Proofs.Transfer.Splitting
import RoverDispatch.Proofs.Transfer.Windows
import RoverDispatch.Proofs.Transfer.Reassembly
import RoverDispatch.Proofs.Session.Receptions
import RoverDispatch.Proofs.Session.ReportQueues
import RoverDispatch.Proofs.Session.Agents
import RoverDispatch.Proofs.Session.Lifecycles
import RoverDispatch.Proofs.Session.Chronicles
import RoverDispatch.Proofs.Session.Supervisors
import RoverDispatch.Proofs.Session.Transfers
import RoverDispatch.Proofs.Session.Conversations
import RoverDispatch.Proofs.Session.Restarts
import RoverDispatch.Proofs.Session.ReportLogs
import RoverDispatch.Proofs.Session.Reporting
import RoverDispatch.Proofs.Session.EventStreams
import RoverDispatch.Proofs.Session.PendingReports
import RoverDispatch.Proofs.Session.Acknowledgements
import RoverDispatch.Proofs.Session.Deadlines
import RoverDispatch.Proofs.Session.Patience
import RoverDispatch.Proofs.Session.Answers
import RoverDispatch.Proofs.Session.Exchanges
import RoverDispatch.Proofs.Fleet.StaleSessions
import RoverDispatch.Proofs.Fleet.Drafts
import RoverDispatch.Proofs.Fleet.Assignments
import RoverDispatch.Proofs.Fleet.Outcomes
import RoverDispatch.Proofs.Fleet.Reservations
import RoverDispatch.Proofs.Fleet.Refusals
import RoverDispatch.Proofs.Fleet.Sweeps
import RoverDispatch.Proofs.Session.TransferAttempts
import RoverDispatch.Proofs.Session.ReportGaps
import RoverDispatch.Proofs.Session.Silence
import RoverDispatch.Proofs.Session.Farewells
import RoverDispatch.Proofs.Session.ReportLedgers
import RoverDispatch.Proofs.Session.ReportStreams
import RoverDispatch.Proofs.Session.Schedules
import RoverDispatch.Proofs.Transfer.Fragments
import RoverDispatch.Proofs.Transfer.Parts
import RoverDispatch.Proofs.Session.Faults
import RoverDispatch.Proofs.Session.Requests
import RoverDispatch.Proofs.Wire.FieldRuns
import RoverDispatch.Proofs.Wire.FieldTables
import RoverDispatch.Proofs.Wire.ValueReaders
import RoverDispatch.Proofs.Wire.SchemaReading
import RoverDispatch.Proofs.Wire.Truncation
import RoverDispatch.Proofs.Fleet.Independence
import RoverDispatch.Proofs.Transfer.Numbering
import RoverDispatch.Proofs.Fleet.Records
import RoverDispatch.Proofs.Fleet.MissionStages
import RoverDispatch.Proofs.Fleet.Leftovers
import RoverDispatch.Proofs.Fleet.Intakes
import RoverDispatch.Proofs.Transfer.Packings
import RoverDispatch.Proofs.Transfer.WindowHistories
import RoverDispatch.Proofs.Node.Scans
