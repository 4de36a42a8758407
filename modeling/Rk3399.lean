import Rk3399.Common.Word
import Rk3399.Common.Program
import Rk3399.Common.Invariant
import Rk3399.Common.BitField
import Rk3399.Common.Packing
import Rk3399.Common.LastWrite
import Rk3399.Common.BitString
import Rk3399.Common.Simulation
import Rk3399.Common.Truncation
import Rk3399.Common.Strings
import Rk3399.Common.Memory
import Rk3399.Common.Words
import Rk3399.Isp.Properties.Crop
import Rk3399.Isp.Properties.Paths
import Rk3399.Jpeg.Model.Stream
import Rk3399.Jpeg.Model.Container
import Rk3399.Jpeg.Model.Headers
import Rk3399.Jpeg.Model.Scan
import Rk3399.Jpeg.Model.ImageInfo
import Rk3399.Jpeg.Model.Registers
import Rk3399.Jpeg.Model.Tables
import Rk3399.Jpeg.Model.PostProcessor
import Rk3399.Jpeg.Model.Hardware
import Rk3399.Jpeg.Model.EmptyScan
import Rk3399.Jpeg.Model.Markers
import Rk3399.Jpeg.Model.Decode
import Rk3399.Jpeg.Model.Session
import Rk3399.Jpeg.Helpers.Start
import Rk3399.Jpeg.Helpers.Standing
import Rk3399.Jpeg.Helpers.StandingProbe
import Rk3399.Jpeg.Helpers.StandingRun
import Rk3399.Jpeg.Helpers.HuffmanRun
import Rk3399.Jpeg.Helpers.Limits
import Rk3399.Jpeg.Helpers.Geometry
import Rk3399.Jpeg.Helpers.TableImage
import Rk3399.Jpeg.Helpers.TableRegisters
import Rk3399.Jpeg.Helpers.TableBounds
import Rk3399.Jpeg.Helpers.MemoryRun
import Rk3399.Jpeg.Helpers.Reading
import Rk3399.Jpeg.Helpers.Bytes
import Rk3399.Jpeg.Helpers.SideBySide
import Rk3399.Jpeg.Helpers.SliceSteps
import Rk3399.Jpeg.Properties.AbsentTables
import Rk3399.Jpeg.Properties.Confinement
import Rk3399.Jpeg.Properties.EmptyScans
import Rk3399.Jpeg.Properties.Flushing
import Rk3399.Jpeg.Properties.HeaderLoops
import Rk3399.Jpeg.Properties.HeaderScanning
import Rk3399.Jpeg.Properties.HuffmanSegments
import Rk3399.Jpeg.Properties.NonInterleavedTables
import Rk3399.Jpeg.Properties.Planes
import Rk3399.Jpeg.Properties.Probing
import Rk3399.Jpeg.Properties.ProgressiveStarts
import Rk3399.Jpeg.Properties.ProgressiveTables
import Rk3399.Jpeg.Properties.QuantSegments
import Rk3399.Jpeg.Properties.RegisterTable
import Rk3399.Jpeg.Properties.ScanHeaders
import Rk3399.Jpeg.Properties.Slices
import Rk3399.Jpeg.Properties.StreamStart
import Rk3399.Jpeg.Properties.TableMemory
import Rk3399.Jpeg.Properties.TablesInForce
import Rk3399.Jpeg.Properties.TablesLossless
import Rk3399.Jpeg.Properties.TablesRepresentable
import Rk3399.Led.Properties.Encodings
import Rk3399.Led.Properties.Requests
import Rk3399.Led.Properties.Volume
import Rk3399.Modeset.Properties.BootLock
import Rk3399.Modeset.Properties.BootRequests
import Rk3399.Modeset.Properties.BufferRing
import Rk3399.Modeset.Properties.DecodedRows
import Rk3399.Modeset.Properties.Hotplug
import Rk3399.Modeset.Properties.HotplugEvents
import Rk3399.SimpleConfig.Properties.Capture
import Rk3399.SimpleConfig.Properties.ChannelPlan
import Rk3399.SimpleConfig.Properties.Exchanges
import Rk3399.SimpleConfig.Properties.InvalidFrames
import Rk3399.SimpleConfig.Properties.ScanResults
import Rk3399.SimpleConfig.Properties.SsidText
import Rk3399.SimpleConfig.Properties.Supplicant
import Rk3399.Update.Helpers.Items
import Rk3399.Update.Properties.ChecksExactly
import Rk3399.Update.Properties.Malformed
import Rk3399.Update.Properties.Recovery
import Rk3399.Update.Properties.Retries
import Rk3399.Update.Properties.WritesExactly
import Rk3399.VendorStorage.Properties.Commands
import Rk3399.VendorStorage.Properties.RoundTrip
import Rk3399.Wrapper.Helpers.Ledger
import Rk3399.Wrapper.Properties.Normalised
import Rk3399.Wrapper.Properties.Ownership
import Rk3399.Wrapper.Properties.PostProcessor
import Rk3399.Wrapper.Properties.Reallocation
import Rk3399.Wrapper.Properties.Slices
