import StationLink.BucketMap
import StationLink.Clock
import StationLink.Coded
import StationLink.Command
import StationLink.ConnectString
import StationLink.Event
import StationLink.Filter
import StationLink.Frame
import StationLink.Frame.Decoder
import StationLink.Gateway
import StationLink.Gateway.Location
import StationLink.Gateway.Loopback
import StationLink.Gateway.Settings
import StationLink.Interface
import StationLink.Json.Frames
import StationLink.Json.Journal
import StationLink.Json.Messages
import StationLink.Json.Parser
import StationLink.Json.Printer
import StationLink.Json.Record
import StationLink.Json.Settings
import StationLink.Json.Token
import StationLink.Json.Value
import StationLink.Keyset
import StationLink.Keyset.Panel
import StationLink.KeysetBank
import StationLink.Line
import StationLink.LinkSettings
import StationLink.LinkTable
import StationLink.Main
import StationLink.Message.Error
import StationLink.Message.Reader
import StationLink.Message.Writer
import StationLink.Multiplexer
import StationLink.Proofs.ActionQueue
import StationLink.Proofs.Arrivals
import StationLink.Proofs.AssociationList
import StationLink.Proofs.BankReception
import StationLink.Proofs.BrokenTransmissions
import StationLink.Proofs.BucketMap
import StationLink.Proofs.Closing
import StationLink.Proofs.CommandPolicy
import StationLink.Proofs.ConnectString
import StationLink.Proofs.ControlTraffic
import StationLink.Proofs.DeadTransport
import StationLink.Proofs.Delivery
import StationLink.Proofs.DisabledInterface
import StationLink.Proofs.DisplayWrites
import StationLink.Proofs.DormantInterfaces
import StationLink.Proofs.FailedWrites
import StationLink.Proofs.FilterHistory
import StationLink.Proofs.FilterTransparency
import StationLink.Proofs.FiniteMap
import StationLink.Proofs.FrameRoundTrip
import StationLink.Proofs.FrameStorms
import StationLink.Proofs.Greeting
import StationLink.Proofs.HalfOpenLinks
import StationLink.Proofs.HandlerSweeps
import StationLink.Proofs.HardwareNames
import StationLink.Proofs.Isolation
import StationLink.Proofs.LastingProperty
import StationLink.Proofs.LinkChanges
import StationLink.Proofs.LinkConsent
import StationLink.Proofs.LinkHistories
import StationLink.Proofs.LinkOperations
import StationLink.Proofs.LinkStatus
import StationLink.Proofs.LinkTimers
import StationLink.Proofs.LinkedPair
import StationLink.Proofs.MessageLanguage
import StationLink.Proofs.MessageReader
import StationLink.Proofs.MessageRoundTrip
import StationLink.Proofs.MultiplexerOperations
import StationLink.Proofs.NoisyStream
import StationLink.Proofs.OverlongTrains
import StationLink.Proofs.Peers
import StationLink.Proofs.ProbeSchedule
import StationLink.Proofs.PromptOwner
import StationLink.Proofs.ReadSize
import StationLink.Proofs.Reception
import StationLink.Proofs.Registration
import StationLink.Proofs.RestingWorker
import StationLink.Proofs.RunningPeriod
import StationLink.Proofs.Sending
import StationLink.Proofs.SettingsValidation
import StationLink.Proofs.SharedBank
import StationLink.Proofs.SharedTransport
import StationLink.Proofs.SideBySide
import StationLink.Proofs.Silence
import StationLink.Proofs.SingleLink
import StationLink.Proofs.SortedMap
import StationLink.Proofs.StaleTimers
import StationLink.Proofs.StatusReports
import StationLink.Proofs.TimerAgenda
import StationLink.Proofs.TimerQueue
import StationLink.Proofs.TrainResults
import StationLink.Proofs.TrainRoundTrip
import StationLink.Proofs.TrainingAgreement
import StationLink.Proofs.TransportState
import StationLink.Report
import StationLink.Session
import StationLink.SortedMap
import StationLink.Stimulus
import StationLink.Text.Blank
import StationLink.Text.Extending
import StationLink.Text.Hex
import StationLink.Text.Quoted
import StationLink.Text.Unprintable
import StationLink.Text.Utf8
import StationLink.TimerQueue
import StationLink.Train
import StationLink.Vocabulary
