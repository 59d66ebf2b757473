import Readout.Acquire.ChannelFile
import Readout.Acquire.Command
import Readout.Acquire.Config
import Readout.Acquire.Credit
import Readout.Acquire.Error
import Readout.Acquire.Label
import Readout.Acquire.Layout
import Readout.Acquire.Ongoing
import Readout.Acquire.Reassembly
import Readout.Acquire.Rehearsal
import Readout.Acquire.Request
import Readout.Acquire.Run
import Readout.Acquire.Sink
import Readout.Acquire.Stream
import Readout.Acquire.Trace
import Readout.Address
import Readout.Bytes
import Readout.Cli.Arguments
import Readout.Cli.Command
import Readout.Cli.Exit
import Readout.Cli.Quantity
import Readout.Cli.Report
import Readout.Cli.Run
import Readout.Cli.Table
import Readout.Control.Envelope
import Readout.Control.Kind
import Readout.Control.Payload
import Readout.Duration
import Readout.Endpoint
import Readout.Fault
import Readout.Folder
import Readout.Frame.Basic
import Readout.Frame.Reader
import Readout.Frame.Writer
import Readout.Json.Quote
import Readout.Json.Scan
import Readout.Json.Value
import Readout.Link.Call
import Readout.Link.Channel
import Readout.Link.Client
import Readout.Link.Connection
import Readout.Link.Error
import Readout.Link.Handshake
import Readout.Link.Hello
import Readout.Link.Inbound
import Readout.Link.Peer
import Readout.Link.Server
import Readout.Main
import Readout.Pieces
import Readout.Simulator.Answer
import Readout.Simulator.Link
import Readout.Simulator.Samples
import Readout.Simulator.Service
import Readout.Simulator.Session
import Readout.SystemFault
import Readout.Text.Blank
import Readout.Text.Decimal
import Readout.Text.Hex
import Readout.Text.Parts
import Readout.Text.Shortest
import Readout.Text.Utf8
import Readout.Transport
import Readout.Wire.Key
import Readout.Wire.Schema
import Readout.Wire.Varint
import Readout.Word
import Readout.Proofs.Messages
import Readout.Proofs.Positions
import Readout.Proofs.Accounts
import Readout.Proofs.Modes
import Readout.Proofs.Finishing
import Readout.Proofs.FrameCodec
import Readout.Proofs.FrameSending
import Readout.Proofs.Legibility
import Readout.Proofs.Foreign
import Readout.Proofs.Cancelling
import Readout.Proofs.Patience
import Readout.Proofs.Folders
import Readout.Proofs.FilesKept
import Readout.Proofs.Greetings
import Readout.Proofs.Inflow
import Readout.Proofs.Segmentation
import Readout.Proofs.Agreement
import Readout.Proofs.Delivery
import Readout.Proofs.LinkAtRest
import Readout.Proofs.MessageSizes
import Readout.Proofs.SimulatedAnswers
import Readout.Proofs.SimulatedRuns
import Readout.Proofs.SharedLink
import Readout.Proofs.SyntheticBlocks
import Readout.Proofs.SyntheticDelivery
import Readout.Proofs.QueueHistory
import Readout.Proofs.StreamEnds
import Readout.Proofs.Settlement
import Readout.Proofs.Consumption
import Readout.Proofs.EffectOrder
import Readout.Proofs.FileWriting
import Readout.Proofs.WholeFiles
import Readout.Proofs.FilesReadBack
import Readout.Proofs.Demultiplexing
import Readout.Proofs.DealingInWords
import Readout.Proofs.ReplySizes
import Readout.Proofs.EndpointText
import Readout.Proofs.EndpointGrammar
import Readout.Proofs.CreditFormula
import Readout.Proofs.WholeFrames
import Readout.Proofs.StreamPartition
import Readout.Proofs.BatchWriting
import Readout.Proofs.Failures
import Readout.Proofs.Deadlines
import Readout.Proofs.RequestSizes
import Readout.Proofs.Shapes
import Readout.Proofs.Truncation
import Readout.Proofs.FurtherFields
import Readout.Proofs.BoundedBuffers
import Readout.Proofs.Passage
import Readout.Proofs.RecordSizes
import Readout.Proofs.Overload
