import ExynosHal.Library.Words
import Mathlib.Data.BitVec
import Mathlib.Logic.Function.Basic

/-! # The vocabulary of the audio HAL

Stream types, usages and devices of `audio_streams.h`, `audio_usages.h` and
`audio_devices.h`, and the device masks, modes and sources of the Android audio headers
as far as `audio_hw.c` tells them apart.
-/

namespace ExynosHal.Audio

structure Build where
  sthalInterface : Bool
  btA2dpOffload : Bool
  usbOffload : Bool
  directMultiChannelStream : Bool

inductive StreamType where
  | playbackNoAttribute | playbackPrimary | playbackFast | playbackDeepBuffer | playbackLowLatency
  | playbackComprOffload | playbackMmap | playbackAuxDigital | playbackIncallMusic | playbackDirect
  | captureNoAttribute | capturePrimary | captureCall | captureLowLatency | captureMmap
  | captureFmTuner | captureFmRecording | captureHotword
  | none
  deriving DecidableEq

inductive Status where
  | standby | ready | idle | playing | paused
  deriving DecidableEq

def Status.aboveReady : Status → Bool
  | .standby | .ready => false
  | .idle | .playing | .paused => true

def Status.aboveIdle : Status → Bool
  | .standby | .ready | .idle => false
  | .playing | .paused => true

inductive Usage where
  | media | recording | camcorder
  | voiceCallNb | voiceCallNbHac | voiceCallWb | voiceCallWbHac
  | volteCallNb | volteCallWb | volteCallSwb | volteVtCallNb | volteVtCallWb | volteVtCallSwb
  | tty | incallMusic | callForwardingPrimary | spectro
  | wifiCallNb | wifiCallWb | wifiCallSwb | videoCall | voipCall | communication | apTty
  | incallUplink | incallDownlink | incallUplinkDownlink
  | recognition
  | fmRadioTuner | fmRadioCapture | usbFmRadio | remoteMic | listenback
  | hotwordSeamless | hotwordRecord
  | loopback | loopbackNodelay | loopbackRealtime | loopbackCodec
  | rms
  | none
  deriving DecidableEq

/-- From `AUSAGE_CPCALL_MIN` to `AUSAGE_CPCALL_MAX`. -/
def Usage.isCPCall (usage : Usage) : Bool :=
  Usage.voiceCallNb.ctorIdx ≤ usage.ctorIdx && usage.ctorIdx ≤ Usage.spectro.ctorIdx

/-- From `AUSAGE_APCALL_MIN` to `AUSAGE_APCALL_MAX`. -/
def Usage.isAPCall (usage : Usage) : Bool :=
  Usage.wifiCallNb.ctorIdx ≤ usage.ctorIdx && usage.ctorIdx ≤ Usage.apTty.ctorIdx

inductive DeviceType where
  | handset | speaker | speakerDex | speakerDual | speakerGaming | headset | headphone | usbHeadset | btScoHeadset
  | speakerAndHeadset | speakerAndHeadphone | speakerAndUsbHeadset | speakerAndBtScoHeadset
  | btA2dpHeadphone | speakerAndBtA2dpHeadphone
  | auxDigital | fmExternal | callFwd
  | mainMic | subMic | headsetMic | usbHeadsetMic | btScoHeadsetMic | btNrecHeadsetMic
  | handsetMic | headsetMainMic | headphoneMic | speakerMic | speakerDexMic | speakerGamingMic
  | stereoMic | quadMic | fullMic | usbFullMic | usbHcoMic | hcoMic | vcoMic
  | fmTuner
  | none
  deriving DecidableEq

def DeviceType.code (b : Build) (d : DeviceType) : Nat :=
  if b.btA2dpOffload ∨ d.ctorIdx < 13 then d.ctorIdx else d.ctorIdx - 2

inductive Modifier where
  | btScoRxNb | btScoRxWb | btA2dpPlayback | btScoTxNb | btScoTxWb | none
  deriving DecidableEq

inductive Force where
  | nonForceRoute | forceRoute | callDrive
  deriving DecidableEq

inductive Mode where
  | normal | ringtone | inCall | inCommunication
  | other (n : Int)
  deriving DecidableEq

inductive Source where
  | default | mic | voiceUplink | voiceDownlink | voiceCall | camcorder | voiceRecognition | fmTuner | hotword
  | other (n : Nat)
  deriving DecidableEq

def Source.isCallRecording : Source → Bool
  | .voiceUplink | .voiceDownlink | .voiceCall => true
  | _ => false

inductive FmState where
  | off | on | recording
  deriving DecidableEq

abbrev Devices := U32

def bitIn : Devices := 0x80000000
def outEarpiece : Devices := 0x1
def outSpeaker : Devices := 0x2
def outWiredHeadset : Devices := 0x4
def outWiredHeadphone : Devices := 0x8
def outBluetoothSco : Devices := 0x10
def outBluetoothScoHeadset : Devices := 0x20
def outBluetoothScoCarkit : Devices := 0x40
def outAllSco : Devices := 0x70
def outAllA2dp : Devices := 0x380
def outAuxDigital : Devices := 0x400
def outUsbDevice : Devices := 0x4000
def outTelephonyTx : Devices := 0x10000
def outUsbHeadset : Devices := 0x4000000
def outAllUsb : Devices := 0x4006000
def inBuiltinMic : Devices := 0x80000004
def inBluetoothScoHeadset : Devices := 0x80000008
def inWiredHeadset : Devices := 0x80000010
def inBackMic : Devices := 0x80000080
def inUsbDevice : Devices := 0x80001000
def inFmTuner : Devices := 0x80002000
def inUsbHeadset : Devices := 0x82000000
def inDefault : Devices := 0xC0000000

def hasAny (devices mask : Devices) : Bool := devices &&& mask != 0

def popcount (devices : Devices) : Nat := (List.range 32).countP fun k => devices.getLsbD k

def isUsbInDevice (devices : Devices) : Bool := hasAny devices bitIn && popcount (devices &&& ~~~bitIn) == 1 &&
    hasAny (devices &&& ~~~bitIn) (inUsbDevice ||| inUsbHeadset)

abbrev Flags := U32

def outputFlagDirect : Flags := 0x1
def outputFlagPrimary : Flags := 0x2
def outputFlagFast : Flags := 0x4
def outputFlagDeepBuffer : Flags := 0x8
def outputFlagCompressOffload : Flags := 0x10
def outputFlagNonBlocking : Flags := 0x20
def outputFlagRaw : Flags := 0x100
def outputFlagMmapNoirq : Flags := 0x4000
def outputFlagIncallMusic : Flags := 0x10000
def inputFlagFast : Flags := 0x1
def inputFlagHwHotword : Flags := 0x2
def inputFlagMmapNoirq : Flags := 0x10
def inputFlagVoipTx : Flags := 0x20

end ExynosHal.Audio
