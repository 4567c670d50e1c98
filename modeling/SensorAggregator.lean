import SensorAggregator.Base.Machine
import SensorAggregator.Base.Counter
import SensorAggregator.Base.Fifo
import SensorAggregator.Base.Monitor
import SensorAggregator.Base.Serial
import SensorAggregator.Base.Ticks
import SensorAggregator.Base.Delivery
import SensorAggregator.Base.Measure
import SensorAggregator.Base.Emission
import SensorAggregator.Base.Component
import SensorAggregator.Base.Extremes
import SensorAggregator.Base.Batches
import SensorAggregator.Base.Stages
import SensorAggregator.Base.Debounce
import SensorAggregator.Base.Decimal
import SensorAggregator.Base.Hexadecimal
import SensorAggregator.Base.Columns
import SensorAggregator.Base.Template
import SensorAggregator.Base.Word
import SensorAggregator.Config.AppConfig
import SensorAggregator.Datalog.SensorRecord
import SensorAggregator.Datalog.RingBuffer
import SensorAggregator.Datalog.RingSlots
import SensorAggregator.Datalog.RingRefinement
import SensorAggregator.Datalog.SensorLog
import SensorAggregator.Datalog.LogRefinement
import SensorAggregator.Datalog.LogAtomicity
import SensorAggregator.Drivers.GpioDrv
import SensorAggregator.Drivers.GpioLed
import SensorAggregator.Drivers.UartDrv
import SensorAggregator.Drivers.WdtDrv
import SensorAggregator.Drivers.WdtReport
import SensorAggregator.Drivers.XadcDrv
import SensorAggregator.Drivers.Slcr
import SensorAggregator.Console.FmtMilli
import SensorAggregator.Console.WriteDec
import SensorAggregator.Console.Printf
import SensorAggregator.Platform.Uptime
import SensorAggregator.Platform.ResetCause
import SensorAggregator.Platform.Fault
import SensorAggregator.Platform.FaultText
import SensorAggregator.Tasks.Watchdog
import SensorAggregator.Tasks.WatchdogReference
import SensorAggregator.Tasks.Producer
import SensorAggregator.Tasks.SensorExtremes
import SensorAggregator.Tasks.Consumer
import SensorAggregator.Tasks.StallReference
import SensorAggregator.Tasks.Drain
import SensorAggregator.Tasks.SensorText
import SensorAggregator.Tasks.SampleLine
import SensorAggregator.Tasks.ReportText
import SensorAggregator.Tasks.Ui
import SensorAggregator.Tasks.UiButtons
import SensorAggregator.System.Step
import SensorAggregator.System.Ledger
import SensorAggregator.System.Accounting
import SensorAggregator.System.Wakeup
import SensorAggregator.System.Report
import SensorAggregator.System.LoopBody
import SensorAggregator.System.Progress
import SensorAggregator.System.Doorbell
import SensorAggregator.System.QueueDepth
import SensorAggregator.System.TimerTicks
import SensorAggregator.System.DrainPass
import SensorAggregator.System.StallRuns
import SensorAggregator.System.Commands
import SensorAggregator.System.Response
import SensorAggregator.System.HangReset
import SensorAggregator.System.LogFigures
import SensorAggregator.System.CycleFigures
import SensorAggregator.System.Stream
import SensorAggregator.System.ReportShown
import SensorAggregator.System.RecordResponse
import SensorAggregator.System.StartUp
import SensorAggregator.System.UserInput
