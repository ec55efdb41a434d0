import GnomePilot.Lib.Loop
import GnomePilot.Device.Database
import GnomePilot.Device.Store
import GnomePilot.Sync.State
import GnomePilot.Sync.Record
import GnomePilot.Sync.Engine
import GnomePilot.Sync.Steps
import GnomePilot.Sync.Direction
import GnomePilot.Sync.Pair
import GnomePilot.Sync.Rewrites
import GnomePilot.Sync.Simulation
import GnomePilot.Sync.Visits
import GnomePilot.Sync.Passes
import GnomePilot.Sync.Run
import GnomePilot.Sync.Outcome
import GnomePilot.Sync.Fresh
import GnomePilot.Sync.NoLostUpdate
import GnomePilot.Sync.Agreement
import GnomePilot.Sync.Table
import GnomePilot.Sync.Merge
import GnomePilot.Sync.Copy
import GnomePilot.Sync.Transfer
import GnomePilot.Sync.Replay
import GnomePilot.Sync.Fate
import GnomePilot.Sync.Retry
import GnomePilot.Sync.Frame
import GnomePilot.Sync.Reach
import GnomePilot.Sync.Resurrection
import GnomePilot.Lib.KeyFile
import GnomePilot.Lib.History
import GnomePilot.Lib.Pairing
import GnomePilot.Lib.HashTable
import GnomePilot.Lib.Numeral
import GnomePilot.Queue.Request
import GnomePilot.Queue.Store
import GnomePilot.Queue.Pending
import GnomePilot.Queue.Handle
import GnomePilot.Queue.Drain
import GnomePilot.Daemon.Manager
import GnomePilot.Daemon.Conduits
import GnomePilot.Daemon.Stamp
import GnomePilot.PilotMap.Map
import GnomePilot.PilotMap.File
import GnomePilot.PilotMap.Loader
import GnomePilot.PilotMap.Sessions
import GnomePilot.PilotMap.Source
import GnomePilot.Desktop.Server
import GnomePilot.Desktop.Changes
import GnomePilot.Desktop.Calendar
import GnomePilot.Desktop.Deletions
import GnomePilot.Desktop.Callbacks
import GnomePilot.Desktop.Together
import GnomePilot.Desktop.Categories
import GnomePilot.Lib.Bracket
import GnomePilot.Sync.Bracket
import GnomePilot.Lib.Strike
import GnomePilot.Conduits.FileInstall
import GnomePilot.Conduits.Backup
import GnomePilot.Conduits.BackupRestore
import GnomePilot.Daemon.Install
import GnomePilot.Daemon.FirstSync
import GnomePilot.Daemon.Restore
import GnomePilot.Lib.Variant
import GnomePilot.Daemon.Signals
import GnomePilot.Daemon.Admission
import GnomePilot.Queue.RoundTrip
import GnomePilot.Daemon.Config
import GnomePilot.Capplet.State
import GnomePilot.Capplet.Conduits
import GnomePilot.Capplet.PDialog
import GnomePilot.Capplet.Preserves
import GnomePilot.Lib.Registry
import GnomePilot.Daemon.Devices
import GnomePilot.Daemon.Serving
import GnomePilot.Daemon.Sound
import GnomePilot.Daemon.Watches
import GnomePilot.Daemon.RemoveDevice
import GnomePilot.Daemon.Pause
import GnomePilot.Daemon.Monitored
import GnomePilot.Daemon.Resume
import GnomePilot.Daemon.PauseResume
import GnomePilot.Daemon.Iterate
import GnomePilot.Conduits.InstallLoop
import GnomePilot.Conduits.AllOrNothing
import GnomePilot.Lib.Shift
import GnomePilot.Conduits.Naming
import GnomePilot.Conduits.Generations
import GnomePilot.Conduits.BackupCopy
import GnomePilot.Conduits.BackupKept
import GnomePilot.Conduits.RestoreOrder
import GnomePilot.Conduits.RestoreScan
import GnomePilot.Desktop.ForEach
import GnomePilot.Lib.Tiling
import GnomePilot.Desktop.Split
import GnomePilot.Lib.Walk
import GnomePilot.Desktop.Clearing
import GnomePilot.Daemon.Offer
import GnomePilot.Lib.CString
import GnomePilot.Desktop.Charset
import GnomePilot.Desktop.CategoryNames
import GnomePilot.Desktop.Times
import GnomePilot.Desktop.Todo
import GnomePilot.Daemon.UucpLock
import GnomePilot.Desktop.Address
import GnomePilot.Lib.Stock
import GnomePilot.Desktop.Phones
import GnomePilot.Desktop.PhoneRoundTrip
import GnomePilot.Desktop.Appointment
import GnomePilot.Desktop.AppointmentRoundTrip
import GnomePilot.Lib.Escape
import GnomePilot.Lib.Pointer
import GnomePilot.Conduits.NameBuffer
import GnomePilot.Lib.StringList
import GnomePilot.Lib.Ticket
import GnomePilot.Daemon.Enablement
import GnomePilot.Daemon.Management
import GnomePilot.Daemon.Installed
import GnomePilot.Daemon.Loading
import GnomePilot.Queue.Batch
import GnomePilot.Queue.Cradle
import GnomePilot.Daemon.Cradle
import GnomePilot.Applet.Tray
import GnomePilot.Applet.Agreement
import GnomePilot.Applet.Pause
import GnomePilot.Lib.Hex
import GnomePilot.Daemon.Usb
import GnomePilot.Daemon.Connection
import GnomePilot.Daemon.InstallClient
