import MeterTester.SlotFile
import MeterTester.FileSystem
import MeterTester.Dfs
import MeterTester.RingLog
import MeterTester.Reboot
import MeterTester.BitMatrix
import MeterTester.Decoder
import MeterTester.Frame
import MeterTester.FrameFormat
import MeterTester.Pairing
import MeterTester.Interleave
import MeterTester.HeaderScan
import MeterTester.Uart
import MeterTester.UartBound
import MeterTester.UartAnswer
import MeterTester.UartFresh
import MeterTester.World
import MeterTester.MainLoop
import MeterTester.Turn
import MeterTester.Cursor
import MeterTester.Handover
import MeterTester.Numeral
import MeterTester.SerialFile
import MeterTester.SerialLine
import MeterTester.SerialSystem
import MeterTester.Serial
import MeterTester.UartFrame
import MeterTester.ReadBack
import MeterTester.RoundTrip
import MeterTester.ProductCode
import MeterTester.Distance
import MeterTester.Rejected
import MeterTester.AxRecord
import MeterTester.Detector
import MeterTester.NextSerial
import MeterTester.Fifo
import MeterTester.Autorange
import MeterTester.Counters
import MeterTester.Verdict
import MeterTester.Modes
import MeterTester.Confirmed
import MeterTester.ClockSet
import MeterTester.Since
import MeterTester.Stamp
import MeterTester.Carousel
import MeterTester.Browser
import MeterTester.Ax5043
import MeterTester.Driver
import MeterTester.Receiving
import MeterTester.Transmission
import MeterTester.TableWrites
import MeterTester.RegisterTable
import MeterTester.CheckDigits
import MeterTester.SingleError
import MeterTester.LcdScreen
