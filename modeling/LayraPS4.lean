import LayraPS4.Library.Observation
import LayraPS4.Library.ObjectTable
import LayraPS4.Library.SlotVector
import LayraPS4.Library.Loops
import LayraPS4.Library.GrowingMap
import LayraPS4.Library.Brackets
import LayraPS4.Networking.NetworkingCore
import LayraPS4.Networking.Tunnel
import LayraPS4.Networking.CoreStates
import LayraPS4.Networking.ResolveHostname
import LayraPS4.NpAuth.EntryPoints
import LayraPS4.NpAuth.Requests
import LayraPS4.NpAuth.Creation
import LayraPS4.NpAuth.Threads
import LayraPS4.NpAuth.RequestTable
import LayraPS4.NpAuth.Accounting
import LayraPS4.NpAuth.Handles
import LayraPS4.NpAuth.Lifetime
import LayraPS4.NpAuth.Outcome
import LayraPS4.NpAuth.Reuse
import LayraPS4.NpAuth.Calls
import LayraPS4.NpAuth.Effects
import LayraPS4.NpAuth.SingleThread
import LayraPS4.NpAuth.Tokens
import LayraPS4.NpAuth.Checked
import LayraPS4.NpAuth.Undefined
import LayraPS4.NpAuth.SlotTable
import LayraPS4.NpAuth.FullAbstraction
import LayraPS4.NpAuth.Linearization
import LayraPS4.NpAuth.Isolation
import LayraPS4.NpAuth.Recovery
import LayraPS4.Net.ErrorHandler
import LayraPS4.Net.Accept
import LayraPS4.Net.SysNet
import LayraPS4.Net.ReturnErrorCode
import LayraPS4.Net.EthernetAddr
import LayraPS4.Net.Retrievals
import LayraPS4.Net.OtherPlatforms
import LayraPS4.Library.AsciiCase
import LayraPS4.Memory.MemoryManager
import LayraPS4.Dashboard.Themes
import LayraPS4.Dashboard.ThemeBook
import LayraPS4.Dashboard.MainLoop
import LayraPS4.Dashboard.ImGuiCalls
import LayraPS4.Cpu.CpuEmulator
import LayraPS4.Library.ByteOrder
import LayraPS4.Net.NetworkOrder
