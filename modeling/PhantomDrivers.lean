import PhantomDrivers.Semantics.Call
import PhantomDrivers.Semantics.Heap
import PhantomDrivers.Semantics.Leases
import PhantomDrivers.Semantics.Resources
import PhantomDrivers.Semantics.Partial
import PhantomDrivers.Semantics.Dialogue
import PhantomDrivers.Semantics.Simulation
import PhantomDrivers.Semantics.Runs
import PhantomDrivers.Semantics.LeastSearch
import PhantomDrivers.Semantics.OrderedSearch
import PhantomDrivers.Semantics.Loops
import PhantomDrivers.Semantics.Traces
import PhantomDrivers.Semantics.Bytes
import PhantomDrivers.Semantics.Packing
import PhantomDrivers.Raw1394.Interface
import PhantomDrivers.Raw1394.Memory
import PhantomDrivers.Raw1394.Traced
import PhantomDrivers.Raw1394.BusRecord
import PhantomDrivers.Raw1394.Manager
import PhantomDrivers.Raw1394.QuietBus
import PhantomDrivers.Raw1394.HandleNumbers
import PhantomDrivers.LibPhantom.Communication
import PhantomDrivers.LibPhantom.MemoryReads
import PhantomDrivers.LibPhantom.BufferReads
import PhantomDrivers.LibPhantom.AcknowledgedWrites
import PhantomDrivers.LibPhantom.FirewireDevice
import PhantomDrivers.LibPhantom.ConfigRomFormat
import PhantomDrivers.LibPhantom.ReadConfigRom
import PhantomDrivers.LibPhantom.ConfigRomLayout
import PhantomDrivers.LibPhantom.RomReads
import PhantomDrivers.LibPhantom.SensableDevices
import PhantomDrivers.LibPhantom.ByteOrder
import PhantomDrivers.LibPhantom.RomGetters
import PhantomDrivers.LibPhantom.VendorName
import PhantomDrivers.LibPhantom.OpenDevices
import PhantomDrivers.LibPhantom.OpenDeviceCounters
import PhantomDrivers.LibPhantom.Library
import PhantomDrivers.LibPhantom.ChannelsAvailable
import PhantomDrivers.LibPhantom.DeviceLifecycle
import PhantomDrivers.LibPhantom.IsoRegisters
import PhantomDrivers.LibPhantom.PhantomFind
import PhantomDrivers.LibPhantom.ConfigRomTest
import PhantomDrivers.LibPhantom.PhantomIsoChannel
import PhantomDrivers.LibPhantom.Phantom
import PhantomDrivers.LibPhantom.StartPhantom
import PhantomDrivers.LibPhantom.Platforms
import PhantomDrivers.LibPhantom.StopPhantom
import PhantomDrivers.LibPhantom.PhantomRuns
import PhantomDrivers.LibPhantom.ReliableBus
import PhantomDrivers.LibPhantom.StartSpecification
import PhantomDrivers.LibPhantom.FreeChannels
import PhantomDrivers.LibPhantom.ChannelLedger
import PhantomDrivers.LibPhantom.ControlRegister
import PhantomDrivers.LibPhantom.DeviceIterator
import PhantomDrivers.LibPhantom.IteratorWalk
import PhantomDrivers.LibPhantom.FindPhantom
import PhantomDrivers.LibPhantom.ExclusiveNodes
import PhantomDrivers.LibPhantom.HandleLedger
import PhantomDrivers.LibPhantom.SearchFrames
import PhantomDrivers.LibPhantom.SearchTable
import PhantomDrivers.LibPhantom.BusAssertions
import PhantomDrivers.LibPhantom.Enumeration
import PhantomDrivers.LibPhantom.Footprint
import PhantomDrivers.LibPhantom.FirstPhantom
import PhantomDrivers.LibPhantom.IsoIterate
import PhantomDrivers.LibPhantom.ReceivedData
import PhantomDrivers.LibPhantom.Packets
import PhantomDrivers.LibPhantom.ChannelPointers
import PhantomDrivers.LibPhantom.PacketHandlers
import PhantomDrivers.MacOSX.ClaimedChannels
import PhantomDrivers.MacOSX.ReceiveProgram
import PhantomDrivers.MacOSX.DeviceIterator
import PhantomDrivers.RevEng.ProbeNode
import PhantomDrivers.RevEng.ProbeFailures
import PhantomDrivers.RevEng.EasyCom
import PhantomDrivers.RevEng.Omni
import PhantomDrivers.RevEng.Scan
import PhantomDrivers.RevEng.ScanAgreement
import PhantomDrivers.RevEng.PacketLength
import PhantomDrivers.RevEng.InitialiseDevice
import PhantomDrivers.RevEng.MotorSafety
import PhantomDrivers.RevEng.ChannelAgreement
import PhantomDrivers.RevEng.ChannelClaims
import PhantomDrivers.RevEng.StartRefinement
import PhantomDrivers.RevEng.SessionEnd
import PhantomDrivers.RevEng.Controller
import PhantomDrivers.RevEng.SessionWrites
import PhantomDrivers.RevEng.PacketTraffic
