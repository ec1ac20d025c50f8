import ControlLoop.Bench
import ControlLoop.Config.Fields
import ControlLoop.Config.Plant
import ControlLoop.Config.Service
import ControlLoop.Config.Table
import ControlLoop.Control.Controller
import ControlLoop.Control.Pid
import ControlLoop.Control.Service
import ControlLoop.Decimal.Basic
import ControlLoop.Decimal.Nearest
import ControlLoop.Decimal.Read
import ControlLoop.Decimal.Scaled
import ControlLoop.Decimal.Shortest
import ControlLoop.Decimal.Text
import ControlLoop.Diagnostics
import ControlLoop.Double
import ControlLoop.Duration
import ControlLoop.Fault
import ControlLoop.Link.Client
import ControlLoop.Link.ControllerLink
import ControlLoop.Link.Loopback
import ControlLoop.Link.Network
import ControlLoop.Link.Tracker
import ControlLoop.Mailbox
import ControlLoop.Main
import ControlLoop.Message.Basic
import ControlLoop.Message.Wire
import ControlLoop.NameMap
import ControlLoop.Net.Address
import ControlLoop.Pack.Object
import ControlLoop.Pack.Read
import ControlLoop.Pack.Write
import ControlLoop.Plant.Actuators
import ControlLoop.Plant.Basic
import ControlLoop.Plant.Layout
import ControlLoop.Plant.Loop
import ControlLoop.Plant.RateMonitor
import ControlLoop.Plant.Sensors
import ControlLoop.Plant.Simulation
import ControlLoop.Plant.State
import ControlLoop.Power
import ControlLoop.Proofs.ActuatorRun
import ControlLoop.Proofs.AddressText
import ControlLoop.Proofs.ClosedLoop
import ControlLoop.Proofs.ConfigRoundTrip
import ControlLoop.Proofs.ConfigSafety
import ControlLoop.Proofs.CsvRoundTrip
import ControlLoop.Proofs.DiagnosticsInterleaving
import ControlLoop.Proofs.FloatMagnitude
import ControlLoop.Proofs.FloatText
import ControlLoop.Proofs.FrameBoundary
import ControlLoop.Proofs.LayoutBuild
import ControlLoop.Proofs.LoopTermination
import ControlLoop.Proofs.MailboxInterleaving
import ControlLoop.Proofs.MessageGrammar
import ControlLoop.Proofs.NearestDouble
import ControlLoop.Proofs.PackGrammar
import ControlLoop.Proofs.PackRoundTrip
import ControlLoop.Proofs.RateWindows
import ControlLoop.Proofs.RecorderTable
import ControlLoop.Proofs.ReplyAccounting
import ControlLoop.Proofs.SampleOutcome
import ControlLoop.Proofs.SensorSchedule
import ControlLoop.Proofs.ServiceConservation
import ControlLoop.Proofs.ShortestDecimal
import ControlLoop.Proofs.SpanConversion
import ControlLoop.Proofs.StepContract
import ControlLoop.Proofs.TickSchedule
import ControlLoop.Proofs.UnregisteredAccounting
import ControlLoop.Proofs.WindowStats
import ControlLoop.Proofs.WireRoundTrip
import ControlLoop.Random
import ControlLoop.Record
import ControlLoop.Recorder
import ControlLoop.SpringMass.Rig
import ControlLoop.SpringMass.State
import ControlLoop.Stats
import ControlLoop.Text.Csv
import ControlLoop.Text.CsvRead
import ControlLoop.Text.GraphemeExtend
import ControlLoop.Text.Hex
import ControlLoop.Text.Lines
import ControlLoop.Text.Printable
import ControlLoop.Text.Quoted
import ControlLoop.Value
