import AwHal.Lib.Loop
import AwHal.Lib.Stacking
import AwHal.Lib.CNumber
import AwHal.Lib.Partition
import AwHal.Lib.Handover
import AwHal.Lib.GuardedRun
import AwHal.Lib.OrderedSet
import AwHal.Lib.CText
import AwHal.Lib.Tickets
import AwHal.Lib.Reading
import AwHal.Hwc.Layer
import AwHal.Hwc.LayerPlanner
import AwHal.Hwc.HWChannel
import AwHal.Hwc.Strategy
import AwHal.Hwc.StrategyGuarantees
import AwHal.Hwc.StrategyKept
import AwHal.Hwc.StrategyBandwidth
import AwHal.Hwc.StrategyChannels
import AwHal.Hwc.StrategyAfbc
import AwHal.Hwc.StrategyHosts
import AwHal.Hwc.Rearrange
import AwHal.Hwc.Compositor
import AwHal.Hwc.DeviceManager
import AwHal.Hwc.DeviceSwap
import AwHal.Hwc.DeviceFactory
import AwHal.Hwc.Disp2Device
import AwHal.Hwc.WriteBack
import AwHal.Hwc.WriteBackRuns
import AwHal.Hwc.DisplayValidate
import AwHal.Hwc.BufferPool
import AwHal.Hwc.RotateSession
import AwHal.Hwc.RotateSessionRuns
import AwHal.Hwc.RotatorManager
import AwHal.Hwc.RotatorManagerRuns
import AwHal.Hwc.Alignment
import AwHal.Hwc.RotatedCrop
import AwHal.Displayd.DeviceConfig
import AwHal.Displayd.BootFile
import AwHal.Displayd.HdmiDevice
import AwHal.Edid.Parser
import AwHal.Edid.Extensions
import AwHal.Edid.DataBlocks
import AwHal.Edid.Walks
import AwHal.Edid.Parses
import AwHal.Edid.OwnBytes
import AwHal.Edid.BytesBehind
import AwHal.Edid.CapabilityMap
import AwHal.Lib.ByteMemory
import AwHal.Lib.ByteRuns
import AwHal.Hwc.SelfWriteBack
import AwHal.Keymaster.TeeSession
import AwHal.Keymaster.RequestPacking
import AwHal.Keymaster.ParamSets
import AwHal.Keymaster.KeyCalls
import AwHal.Keymaster.BlockRelease
import AwHal.Keymaster.Characteristics
import AwHal.Isp.UseCount
import AwHal.Camera.V4L2Camera
import AwHal.Camera.CaptureResults
import AwHal.Camera.StreamBuffers
import AwHal.Lib.RefCount
import AwHal.Camera.FrameRefs
import AwHal.Lib.SlotRing
import AwHal.Lib.Chain
import AwHal.Lib.Locking
import AwHal.Audio.LockOrder
import AwHal.Lib.Handles
import AwHal.Audio.PcmHandles
import AwHal.Wireless.HwInfo
import AwHal.Wireless.HwInfoMerge
import AwHal.Camera.ComposeHandOff
import AwHal.Camera.ComposeRings
import AwHal.Pq.ConnectionTable
import AwHal.Pq.RequestQueue
import AwHal.Pq.Firmware
import AwHal.Pq.Reassembly
import AwHal.Pq.ReassemblySafety
import AwHal.Pq.Framing
import AwHal.Pq.FirmwareReload
import AwHal.TuningApp.PacketFraming
import AwHal.TuningApp.ThreadPool
import AwHal.TuningApp.CaptureImage
import AwHal.TuningApp.TuningCfg
import AwHal.TuningApp.CfgByteOrder
import AwHal.TuningApp.TuningServer
import AwHal.TuningApp.CfgRoundTrip
import AwHal.TuningApp.BufferLeftover
import AwHal.TuningApp.ServerBuffers
import AwHal.Hwc.BufferPoolRelease
import AwHal.Hwc.BufferPoolReuse
import AwHal.Hwc.WriteBackPool
import AwHal.Hwc.WriteBackOrder
import AwHal.Hwc.WriteBackShift
import AwHal.Hwc.SelfWriteBackCommit
import AwHal.Hwc.WriteBackSize
import AwHal.Edid.Identity
import AwHal.Isp.MeshShading
import AwHal.TuningApp.Stat3aInfo
import AwHal.TuningApp.RawFlow
import AwHal.TuningApp.CaptureTransfer
import AwHal.Isp.ConfigUpdate
import AwHal.Edid.Checksums
import AwHal.Edid.ParseInvariant
import AwHal.Displayd.DefaultConfig
import AwHal.TuningApp.CfgLens
import AwHal.Camera.OsalQueue
import AwHal.Camera.YuyvConvert
import AwHal.Camera.FlashCountdown
import AwHal.Camera.StreamIndices
import AwHal.Camera.SetupStreams
import AwHal.Camera.JpegBlob
import AwHal.TuningApp.ShellFormat
import AwHal.Wireless.VohciSend
import AwHal.Wireless.VohciRecv
import AwHal.TuningApp.RawFlowChannels
import AwHal.Lib.BitFields
import AwHal.Lib.CellUpdates
import AwHal.Pq.DispDriver
import AwHal.Pq.Sharpness
import AwHal.Pq.Translate
import AwHal.Pq.RegisterSections
import AwHal.Pq.NumberLists
import AwHal.Wireless.DeviceId
import AwHal.Wireless.CachedModule
import AwHal.Wireless.ConfigText
import AwHal.Wireless.ConfigFile
import AwHal.Camera.WaterMark
import AwHal.Lib.Replacing
import AwHal.Wireless.StrReplace
import AwHal.Wireless.ArgExpand
import AwHal.Pq.SectionWindow
import AwHal.Pq.SectionReads
import AwHal.Pq.SectionScan
import AwHal.Pq.SectionBrackets
import AwHal.Pq.SectionsFound
import AwHal.Lib.NewtonRoot
import AwHal.Isp.SqrtM
import AwHal.Lib.GapSort
import AwHal.Isp.ShellSort
import AwHal.Camera.ComposePictures
import AwHal.Camera.WaterMarkText
import AwHal.Lib.Fields
import AwHal.Camera.WaterMarkTriples
import AwHal.Audio.PackedSamples
import AwHal.Audio.RawOutput
import AwHal.Audio.PresentationPosition
import AwHal.Audio.ProcessedCapture
import AwHal.Lib.Overtaking
import AwHal.Lib.Owners
import AwHal.Hwc.CommitThread
import AwHal.Hwc.FenceFlow
import AwHal.Lib.NearestKey
import AwHal.Camera.PartialMetadata
import AwHal.Camera.Metadata
import AwHal.Camera.V4L2Controls
import AwHal.Lib.KeyedMap
import AwHal.Camera.StaticProperties
import AwHal.Camera.SupportedStreams
import AwHal.Lib.Hysteresis
import AwHal.Thermal.ThermalHelper
import AwHal.Sensors.AccelSensor
import AwHal.Lib.Watcher
import AwHal.Displayd.Hotplug
