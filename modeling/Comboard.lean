import Comboard.Tracker
import Comboard.ReplayWindow
import Comboard.Code.Uplink
import Comboard.Code.Recovery
import Comboard.Lib.Machine
import Comboard.Code.Scheduler
import Comboard.Code.CanCommunication
import Comboard.Code.CommandPath
import Comboard.Deadlock
import Comboard.Assembler
import Comboard.Transfer
import Comboard.RecoveryPath
import Comboard.Resume
import Comboard.Lib.Frames
import Comboard.Framing
import Comboard.Code.Periodic
import Comboard.Code.LoraTx
import Comboard.LoraSteps
import Comboard.Priority
import Comboard.Fairness
import Comboard.Lib.SameOrder
import Comboard.Delivery
import Comboard.Events
import Comboard.Deadline
import Comboard.Code.CanCodec
import Comboard.Verbatim
import Comboard.Lib.Fields
import Comboard.LoraCodec
import Comboard.CanGrammar
import Comboard.Session
import Comboard.DumpFailure
import Comboard.Code.Link
import Comboard.Telemetry
import Comboard.Slots
import Comboard.PowerSnapshot
import Comboard.Advance
import Comboard.Code.RxGuard
import Comboard.HalfDuplex
import Comboard.Code.GroundTime
import Comboard.GroundTime
import Comboard.SessionSteps
import Comboard.Beacon
import Comboard.FinishedDump
import Comboard.Code.EmergencyPath
import Comboard.Emergency
import Comboard.Cadence
import Comboard.Lib.Digits
import Comboard.Code.GnssTime
import Comboard.Code.Gnss
import Comboard.GnssState
import Comboard.GnssTimeOff
import Comboard.Code.SdTask
import Comboard.Code.SdLogVerify
import Comboard.SdLog
import Comboard.Lib.Calendar
import Comboard.UnixTime
import Comboard.BitWrites
import Comboard.ControlRollSignal
import Comboard.MissionInvalid
import Comboard.Code.LoraTiming
import Comboard.TimingWindows
import Comboard.Code.GnssLine
import Comboard.Lib.Lines
import Comboard.NmeaLines
import Comboard.Acknowledgement
import Comboard.RmcGrammar
import Comboard.Code.GnssTimeSlices
import Comboard.TimeResponse
import Comboard.Code.CanCommunicationTask
import Comboard.CanSteps
import Comboard.CanRefinement
import Comboard.DriverState
import Comboard.ErrorFlag
import Comboard.ObservedFrames
import Comboard.ReceivedFrames
import Comboard.Code.CanLog
import Comboard.Code.SdLogStats
import Comboard.LogVerdict
import Comboard.Attempts
import Comboard.Code.LoraRx
import Comboard.TraceOrder
import Comboard.UplinkBytes
import Comboard.WriteGuard
import Comboard.Code.GnssConversation
import Comboard.GnssConversation
