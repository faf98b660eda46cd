import CuriosityT1S.Lib.Mealy
import CuriosityT1S.Lib.WrapCounter
import CuriosityT1S.Systick
import CuriosityT1S.Lib.Memory
import CuriosityT1S.Tc6Lwip
import CuriosityT1S.RxSoundness
import CuriosityT1S.RxRecovery
import CuriosityT1S.Heartbeat
import CuriosityT1S.RttOneShot
import CuriosityT1S.RawTxQueue
import CuriosityT1S.ResetGate
import CuriosityT1S.Lib.Latest
import CuriosityT1S.MainLoop
import CuriosityT1S.TwoBoards
import CuriosityT1S.RttExchange
import CuriosityT1S.WakeUp
import CuriosityT1S.DmaSpi
import CuriosityT1S.SpiStack
import CuriosityT1S.SpiExclusive
import CuriosityT1S.App
import CuriosityT1S.PressEvents
import CuriosityT1S.Lib.RefCount
import CuriosityT1S.SpiOverrun
import CuriosityT1S.TxRefs
import CuriosityT1S.Lib.Lifecycle
import CuriosityT1S.RxBuffers
import CuriosityT1S.RawRoles
import CuriosityT1S.Iperf
import CuriosityT1S.Main
import CuriosityT1S.IperfAgreement
import CuriosityT1S.ResetGesture
import CuriosityT1S.ResetFreeze
import CuriosityT1S.PromptExchange
import CuriosityT1S.LedMirror
import CuriosityT1S.BackPressure
import CuriosityT1S.PlcaPolling
import CuriosityT1S.RxBound
import CuriosityT1S.TxSegments
import CuriosityT1S.Instances
import CuriosityT1S.Lib.StableRun
import CuriosityT1S.TxCounters
import CuriosityT1S.Debounce
import CuriosityT1S.Elapsed
import CuriosityT1S.IperfLedger
import CuriosityT1S.IperfStartStop
import CuriosityT1S.IntLine
import CuriosityT1S.DmaCompletion
import CuriosityT1S.FailedInit
import CuriosityT1S.HeartbeatSchedule
import CuriosityT1S.Lib.Decimal
import CuriosityT1S.MegaFormat
import CuriosityT1S.RttAverage
import CuriosityT1S.ServerStats
import CuriosityT1S.IperfLayout
import CuriosityT1S.Lib.I2cBus
import CuriosityT1S.Lib.Ring
import CuriosityT1S.I2cHost
import CuriosityT1S.I2cScript
import CuriosityT1S.I2cRequests
import CuriosityT1S.I2cBooks
import CuriosityT1S.I2cTransfer
import CuriosityT1S.I2cBuffers
import CuriosityT1S.MacAddress
import CuriosityT1S.FrameStream
import CuriosityT1S.RawLink
import CuriosityT1S.PlcaMessages
import CuriosityT1S.ResetExact
import CuriosityT1S.StageQueue
import CuriosityT1S.DmaInterrupt
import CuriosityT1S.InstanceGates
import CuriosityT1S.SpiRegisters
import CuriosityT1S.SpiInFlight
import CuriosityT1S.SpiExchange
import CuriosityT1S.SpiEarly
import CuriosityT1S.SpiCompletion
