import ExynosHal.VideoApi.FullT35Exact
import ExynosHal.VideoApi.SeiFiller
import ExynosHal.Strongbox.ParamsGrammar
import ExynosHal.Strongbox.AuthorizationListComplete
import ExynosHal.Weaver.AnySlot
import ExynosHal.Boot.PersistedRecord
import ExynosHal.SwConverter.Tiled64Deinterleave
import ExynosHal.Thermal.StepWise
import ExynosHal.Thermal.Hysteresis
import ExynosHal.Thermal.ScenarioSwitch
import ExynosHal.Thermal.Barrier
import ExynosHal.Thermal.VirtualSwitch
import ExynosHal.Thermal.Parser.ScenarioNames
import ExynosHal.Thermal.AccessRun
import ExynosHal.CpBoot.DumpRotation
import ExynosHal.CpBoot.ImageChunks
import ExynosHal.Audio.StatusOpen
import ExynosHal.Audio.Instance
import ExynosHal.Audio.DirectVolume
import ExynosHal.Audio.CallState
import ExynosHal.Audio.RouteUsers
import ExynosHal.Audio.OffloadProtocol
import ExynosHal.SoundTrigger.Listens
import ExynosHal.SoundTrigger.Mic
import ExynosHal.SoundTrigger.Locks
import ExynosHal.Hdr.KneePoints
import ExynosHal.Hdr.ParcelSize
import ExynosHal.Hdr.Independence
import ExynosHal.Strongbox.Pkcs8Rsa
import ExynosHal.Strongbox.ImportTruth
import ExynosHal.Strongbox.RequestsInside
import ExynosHal.Strongbox.Replies
import ExynosHal.Strongbox.Streaming
import ExynosHal.Strongbox.Stalls
import ExynosHal.Strongbox.Characteristics
import ExynosHal.Gralloc.PlaneLayout
import ExynosHal.Gralloc.LegalFormats
import ExynosHal.Strongbox.OperationTable
import ExynosHal.Gralloc.DescriptorCodec
import ExynosHal.Gralloc.ImportAtomic
import ExynosHal.SwConverter.RgbToYuvCorrect
import ExynosHal.Csc.MfcRoundTrip
import ExynosHal.Sbwc.DecodeCache
import ExynosHal.Audio.CallLocks
import ExynosHal.Audio.DeviceChoice
import ExynosHal.CpBoot.DumpLengths
import ExynosHal.SoundTrigger.Pcms
import ExynosHal.DisplayColor.Settings
import ExynosHal.ThermalHal.Temperatures
import ExynosHal.ThermalHal.CpuUsage
import ExynosHal.SoundTrigger.Unloaded
