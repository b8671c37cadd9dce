import TimelapsePlus.Lib.Word
import TimelapsePlus.Lib.Loop
import TimelapsePlus.Ptp.Lists
import TimelapsePlus.Ptp.Usb
import TimelapsePlus.Ptp.Driver
import TimelapsePlus.Ptp.Tables
import TimelapsePlus.Ptp.Camera
import TimelapsePlus.Ptp.Eos
import TimelapsePlus.Ptp.EosBounds
import TimelapsePlus.Ptp.EosLists
import TimelapsePlus.Ptp.EosStream
import TimelapsePlus.Ptp.EosFraming
import TimelapsePlus.Lib.Run
import TimelapsePlus.Ptp.Nikon
import TimelapsePlus.Ptp.Session
import TimelapsePlus.Ptp.Availability
import TimelapsePlus.Ptp.Integrity
import TimelapsePlus.Lib.Walk
import TimelapsePlus.Shutter.Exposure
import TimelapsePlus.Shutter.Termination
import TimelapsePlus.Shutter.Timer
import TimelapsePlus.Shutter.Accounting
import TimelapsePlus.Shutter.Clock
import TimelapsePlus.Shutter.World
import TimelapsePlus.Shutter.Delivery
import TimelapsePlus.Shutter.Ticks
import TimelapsePlus.Shutter.Once
import TimelapsePlus.Shutter.Sync
import TimelapsePlus.Shutter.Firing
import TimelapsePlus.Shutter.Release
import TimelapsePlus.Lib.Stages
import TimelapsePlus.Shutter.Task
import TimelapsePlus.Shutter.Stop
import TimelapsePlus.Shutter.Frames
import TimelapsePlus.Bluetooth.RoundTrip
import TimelapsePlus.Shutter.Bulbing
import TimelapsePlus.Lib.Spline
import TimelapsePlus.Shutter.Keyframes
import TimelapsePlus.Menu.Plot
import TimelapsePlus.Menu.Chart
import TimelapsePlus.Shutter.Light
import TimelapsePlus.Shutter.Sampling
import TimelapsePlus.Ptp.Busy
import TimelapsePlus.Menu.MainLoop
import TimelapsePlus.Menu.Method
import TimelapsePlus.Bluetooth.Driver
import TimelapsePlus.Bluetooth.Modes
import TimelapsePlus.Bluetooth.Events
import TimelapsePlus.Bluetooth.Remote
import TimelapsePlus.Shutter.Ramping
import TimelapsePlus.Shutter.Flag
import TimelapsePlus.Ptp.Capabilities
import TimelapsePlus.Shutter.Duration
import TimelapsePlus.Shutter.Time
import TimelapsePlus.Eeprom.Settings
import TimelapsePlus.Eeprom.Slots
import TimelapsePlus.Bluetooth.Nmx
import TimelapsePlus.Lib.Query
import TimelapsePlus.Ptp.Access
import TimelapsePlus.Ptp.Reassembly
import TimelapsePlus.Menu.Alerts
import TimelapsePlus.Lib.Layout
import TimelapsePlus.Ptp.SonyStream
import TimelapsePlus.Ptp.SonyBuffer
import TimelapsePlus.Ptp.Setters
import TimelapsePlus.Menu.KeyframeEditor
import TimelapsePlus.Lib.Blind
import TimelapsePlus.Ptp.Modes
import TimelapsePlus.Ptp.Reconnection
import TimelapsePlus.Ptp.Neighbours
import TimelapsePlus.Shutter.Balance
import TimelapsePlus.Shutter.Longest
import TimelapsePlus.Shutter.Interpolation
import TimelapsePlus.Shutter.Interval
import TimelapsePlus.Shutter.Rebase
import TimelapsePlus.Lib.Gap
import TimelapsePlus.Menu.Insertion
import TimelapsePlus.Lib.Grid
import TimelapsePlus.Menu.Stepping
import TimelapsePlus.Lib.Radix
import TimelapsePlus.Menu.EditNumber
import TimelapsePlus.Lib.Nesting
import TimelapsePlus.Menu.Navigation
import TimelapsePlus.Lib.Nearest
import TimelapsePlus.Shutter.ShutterSpeed
import TimelapsePlus.Shutter.BulbLimit
import TimelapsePlus.Shutter.RampLimits
import TimelapsePlus.Shutter.Hdr
import TimelapsePlus.Shutter.ModeSwitch
import TimelapsePlus.Shutter.Focus
import TimelapsePlus.Bluetooth.Bounds
import TimelapsePlus.Ptp.DeviceInfo
import TimelapsePlus.Ptp.NikonEvents
import TimelapsePlus.Ptp.Restoring
import TimelapsePlus.Lib.Exchange
import TimelapsePlus.Math.Sort
import TimelapsePlus.Lib.Trimmed
import TimelapsePlus.Math.Median
import TimelapsePlus.Lib.Writes
import TimelapsePlus.Notify.Table
import TimelapsePlus.Notify.Changes
import TimelapsePlus.Bluetooth.NmxQuery
import TimelapsePlus.Lib.Hysteresis
import TimelapsePlus.Button.Debounce
import TimelapsePlus.Menu.Programs
import TimelapsePlus.Lib.Restart
import TimelapsePlus.Shutter.LightLock
import TimelapsePlus.Lib.Extremes
import TimelapsePlus.Menu.BulbSearch
import TimelapsePlus.Menu.Calibration
import TimelapsePlus.Lib.Replica
import TimelapsePlus.Bluetooth.Peer
import TimelapsePlus.Bluetooth.Values
import TimelapsePlus.Bluetooth.Watches
import TimelapsePlus.Bluetooth.Pairing
import TimelapsePlus.Bluetooth.Copies
import TimelapsePlus.Bluetooth.Watching
import TimelapsePlus.Twi.Master
import TimelapsePlus.Twi.Transfers
import TimelapsePlus.Twi.Sensor
import TimelapsePlus.Bluetooth.Controller
import TimelapsePlus.Bluetooth.Orders
import TimelapsePlus.Bluetooth.Pieces
import TimelapsePlus.Lib.Pointwise
import TimelapsePlus.Lcd.Screen
import TimelapsePlus.Lcd.Display
import TimelapsePlus.Lcd.Text
import TimelapsePlus.Menu.Page
import TimelapsePlus.Menu.Pages
import TimelapsePlus.Lib.Catchup
import TimelapsePlus.Shutter.Motion
import TimelapsePlus.Shutter.Gear
import TimelapsePlus.Ptp.Opening
import TimelapsePlus.Ptp.Connection
import TimelapsePlus.Ptp.Stopping
import TimelapsePlus.Menu.Names
