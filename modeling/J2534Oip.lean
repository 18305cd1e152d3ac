import J2534Oip.Lib.Reader
import J2534Oip.Pipe.Protocol
import J2534Oip.Cannelloni.Packet
import J2534Oip.Cannelloni.Receive
import J2534Oip.Cannelloni.Client
import J2534Oip.Cannelloni.Write
import J2534Oip.Cannelloni.Device
import J2534Oip.Lib.Mailbox
import J2534Oip.Cannelloni.Session
import J2534Oip.Pipe.Interleaving
import J2534Oip.CborUtils
import J2534Oip.Log.ReadRecord
import J2534Oip.Viewer.Cannelloni
import J2534Oip.Cannelloni.SessionTable
import J2534Oip.Pipe.Chunking
import J2534Oip.Viewer.Json
import J2534Oip.Viewer.Wrapper
import J2534Oip.Viewer.Export
import J2534Oip.Wrapper.Forward
import J2534Oip.Wrapper.EntryPoints
import J2534Oip.Wrapper.Load
import J2534Oip.Wrapper.Transparent
import J2534Oip.Wrapper.Record
import J2534Oip.Cannelloni.Api
import J2534Oip.Cannelloni.LastError
import J2534Oip.Lib.Ownership
import J2534Oip.Log.Trees
import J2534Oip.Cannelloni.Locks
import J2534Oip.Cannelloni.Deadlock
import J2534Oip.Cannelloni.Wire
import J2534Oip.Cannelloni.Identifier
import J2534Oip.Cannelloni.Parse
import J2534Oip.Cannelloni.ReadCall
import J2534Oip.Cannelloni.Select
import J2534Oip.Pipe.Receive
import J2534Oip.Pipe.Torn
import J2534Oip.Viewer.Bounds
import J2534Oip.Log.Bounds
import J2534Oip.Debug.Crc32
import J2534Oip.Cannelloni.DeviceInfo
import J2534Oip.Cannelloni.Enumerate
import J2534Oip.Cannelloni.Host
import J2534Oip.Debug.Statements
import J2534Oip.Lib.Rows
import J2534Oip.Pipe.Dispatch
import J2534Oip.Socks.Receive
import J2534Oip.Viewer.Rows
import J2534Oip.Lib.Posted
import J2534Oip.Lib.Stores
import J2534Oip.ProgramMemory
import J2534Oip.Emulator.Calls
import J2534Oip.Emulator.Memory
import J2534Oip.Viewer.App
import J2534Oip.Viewer.Shown
import J2534Oip.Viewer.Sessions
import J2534Oip.Viewer.LoadedFuncs
import J2534Oip.Cannelloni.RoundTrip
import J2534Oip.Viewer.Records
import J2534Oip.Viewer.Calls
import J2534Oip.Log.Calls
import J2534Oip.Viewer.ClientLog
import J2534Oip.Viewer.EmulatorLog
import J2534Oip.Lib.Registry
import J2534Oip.Settings
import J2534Oip.Cannelloni.Defaults
import J2534Oip.Cannelloni.Configured
import J2534Oip.Startup
import J2534Oip.Pipe.Connect
import J2534Oip.Lib.Network
import J2534Oip.Cannelloni.Network
import J2534Oip.Cannelloni.Ioctl
import J2534Oip.Cannelloni.Handed
import J2534Oip.Cannelloni.Program
