import ExynosHal.Audio.Device

/-! # The choice of a device in and out of a call

`get_device_id` asks itself for the devices of the primary output, which must not lead back to the primary
output, and reads the voice manager without asking whether there is one.
-/

namespace ExynosHal.Audio
open Option (bind_eq_bind isSome_iff_exists)

def Selectable (devices : Devices) : Prop :=
  devices ∈ [outEarpiece, outSpeaker, outWiredHeadset, outWiredHeadphone, outBluetoothSco, outBluetoothScoHeadset,
    outBluetoothScoCarkit, outUsbDevice, outUsbHeadset]

def DeviceType.SameAccessory : DeviceType → DeviceType → Prop
  | .btScoHeadset, mic => mic = .btScoHeadsetMic ∨ mic = .btNrecHeadsetMic
  | .usbHeadset, mic => mic = .usbHeadsetMic ∨ mic = .headphoneMic
  | .headset, mic => mic = .headsetMic
  | .handset, mic | .speaker, mic | .headphone, mic => mic = .handsetMic ∨ mic = .speakerMic ∨ mic = .headphoneMic
  | _, _ => False

namespace State

variable (b : Build) (s : State) (devices : Devices)

def Returns : Prop :=
  ∃ rounds device mic, s.deviceIdRounds b rounds devices = some device ∧ s.indeviceIdFromOutdevice b device = some mic

def Calm : Prop := ∀ v ∈ s.voice, v.ttyMode = .off ∧ v.callForwarding = false

def normally : State := { s with amode := .normal }

def Alike : Prop := ∃ device mic, s.deviceId b devices = some device ∧ s.normally.deviceId b devices = some device ∧
    s.indeviceIdFromOutdevice b device = some mic ∧ device.SameAccessory mic

def ChoosesRight : Prop := s.Returns b devices ∧ (s.isCallMode → s.Calm → Selectable devices → s.Alike b devices)

end State

def Direct (devices : Devices) : Prop := devices ≤ bitIn ∧ devices ≠ outTelephonyTx

namespace State

variable (b : Build) (s : State) (devices : Devices)

def Reaches : Prop :=
  s.isCallMode → s.voice.isSome ∧ (Direct devices ∨ ∃ out ∈ s.primary, Direct out.requestedDevices)

def Undisturbed : Prop := s.isCallMode → s.Calm → Selectable devices →
    hasAny devices outAllSco = false ∧ ¬ (s.fmViaA2dp ∧ s.isFMRadioOn)

end State

section
variable {b : Build} {s : State} {devices : Devices} {ofPrimary : Option DeviceType}

open State

theorem callOutput_eq_none_iff : s.callOutput ofPrimary devices = none ↔ devices = outTelephonyTx ∧
    ofPrimary = none := by
  unfold callOutput
  split_ifs <;> simp_all [outTelephonyTx, outEarpiece, outSpeaker, outWiredHeadset, outWiredHeadphone]
  rintro rfl
  simp [outBluetoothSco, outBluetoothScoHeadset, outBluetoothScoCarkit, outUsbHeadset, outUsbDevice] at *

theorem callDevice_eq_none_iff {v : Voice} :
    s.callDevice v ofPrimary devices = none ↔ devices = outTelephonyTx ∧ ofPrimary = none := by
  rw [← callOutput_eq_none_iff (s := s), callDevice]
  cases s.callOutput ofPrimary devices <;> simp

theorem deviceIdRounds_eq_none (hcall : s.isCallMode = true)
    (hprim : ∀ out ∈ s.primary, s.voice = none ∨ ¬ Direct out.requestedDevices)
    (hdevs : s.voice = none ∨ ¬ Direct devices) (rounds : Nat) : s.deviceIdRounds b rounds devices = none := by
  induction rounds generalizing devices with
  | zero => rfl
  | succ rounds ih =>
    have hof : (do deviceIdRounds b s rounds (← s.primary).requestedDevices) = none := by
      rcases hp : s.primary with _ | out
      · rfl
      · exact ih (hprim out hp)
    rw [deviceIdRounds, if_pos hcall]
    dsimp only
    rw [hof]
    split_ifs with hin
    · rfl
    · rcases hv : s.voice with _ | v
      · rfl
      · have hnone : s.callDevice v none devices = none := by
          refine callDevice_eq_none_iff.mpr ⟨?_, rfl⟩
          rcases hdevs with hvoice | hdirect
          · cases hv.symm.trans hvoice
          · by_contra htx
            exact hdirect ⟨BitVec.not_lt.mp hin, htx⟩
        simp [hnone]

theorem indeviceIdFromOutdevice_isSome (hv : s.isCallMode → s.voice.isSome) (device : DeviceType) :
    (s.indeviceIdFromOutdevice b device).isSome := by
  unfold indeviceIdFromOutdevice
  rcases hcall : s.isCallMode
  · rfl
  · rw [if_pos rfl]
    obtain ⟨v, hv⟩ := isSome_iff_exists.mp (hv hcall)
    have hmic : (s.callMic device).isSome := by
      cases device <;> simp [callMic, hv]
      split_ifs <;> rfl
    obtain ⟨mic, hmic⟩ := isSome_iff_exists.mp hmic
    simp only [callIndevice, hmic, hv, bind_eq_bind, Option.bind_some]
    split_ifs <;> rfl

theorem deviceIdRounds_isSome (hcall : s.isCallMode = true) (hv : s.voice.isSome) (rounds : Nat)
    (h : Direct devices ∨ ∃ out ∈ s.primary, (s.deviceIdRounds b rounds out.requestedDevices).isSome) :
    (s.deviceIdRounds b (rounds + 1) devices).isSome := by
  have hof : ¬ Direct devices → (do deviceIdRounds b s rounds (← s.primary).requestedDevices).isSome := by
    intro hdirect
    obtain ⟨out, hout, hsome⟩ := h.resolve_left hdirect
    rw [hout]
    exact hsome
  rw [deviceIdRounds, if_pos hcall]
  dsimp only
  split_ifs with hin
  · obtain ⟨device, hdev⟩ := isSome_iff_exists.mp (hof fun hdirect => BitVec.not_lt.mpr hdirect.1 hin)
    rw [hdev]
    exact indeviceIdFromOutdevice_isSome (fun _ => hv) device
  · obtain ⟨v, hv⟩ := isSome_iff_exists.mp hv
    rcases hdev : s.callDevice v (do deviceIdRounds b s rounds (← s.primary).requestedDevices) devices with _ | device
    · obtain ⟨htx, hnone⟩ := callDevice_eq_none_iff.mp hdev
      rw [hnone] at hof
      exact absurd (hof fun hdirect => hdirect.2 htx) Bool.false_ne_true
    · simp only [bind_eq_bind] at hdev
      simp only [hv, bind_eq_bind, Option.bind_some, hdev]
      split_ifs <;> rfl

theorem returns_iff_reaches : s.Returns b devices ↔ s.Reaches devices := by
  constructor
  · rintro ⟨rounds, device, mic, hdev, -⟩ hcall
    by_contra hnot
    have hstuck (d : Devices) (hd : d = devices ∨ ∃ out ∈ s.primary, d = out.requestedDevices) :
        s.voice = none ∨ ¬ Direct d := by
      rcases hv : s.voice with _ | v
      · exact .inl rfl
      · right
        intro hdirect
        refine hnot ⟨by rw [hv]; rfl, ?_⟩
        rcases hd with rfl | ⟨out, hout, rfl⟩
        · exact .inl hdirect
        · exact .inr ⟨out, hout, hdirect⟩
    have hnone := deviceIdRounds_eq_none (b := b) hcall (fun out hout => hstuck _ (.inr ⟨out, hout, rfl⟩))
      (hstuck _ (.inl rfl)) rounds
    cases hnone.symm.trans hdev
  · intro h
    have hsome : (s.deviceIdRounds b 2 devices).isSome := by
      rcases hcall : s.isCallMode
      · rw [deviceIdRounds, hcall]
        rfl
      · obtain ⟨hv, hdirect⟩ := h hcall
        refine deviceIdRounds_isSome hcall hv 1 (hdirect.imp_right ?_)
        rintro ⟨out, hout, hdirect⟩
        exact ⟨out, hout, deviceIdRounds_isSome hcall hv 0 (.inl hdirect)⟩
    obtain ⟨device, hdev⟩ := isSome_iff_exists.mp hsome
    obtain ⟨mic, hmic⟩ := isSome_iff_exists.mp (indeviceIdFromOutdevice_isSome (b := b) (fun hcall => (h hcall).1)
      device)
    exact ⟨2, device, mic, hdev, hmic⟩

end

section
variable {b : Build} {s : State} {devices : Devices}

open State

theorem deviceId_calm (hcall : s.isCallMode = true) (hv : s.voice.isSome) (hcalm : s.Calm) {device : DeviceType}
    (hin : ¬ devices > bitIn) (hdev : ∀ ofPrimary, s.callOutput ofPrimary devices = some device)
      (hne : device ≠ .none) :
    s.deviceId b devices = some device := by
  obtain ⟨v, hv⟩ := isSome_iff_exists.mp hv
  obtain ⟨htty, hforwarding⟩ := hcalm v hv
  simp [deviceId, deviceIdRounds, hcall, hin, hv, callDevice, hdev, htty, hforwarding, hne]

theorem callIndevice_calm (hv : s.voice.isSome) (hcalm : s.Calm) (device : DeviceType) :
    s.callIndevice b device = s.callMic device := by
  obtain ⟨v, hv⟩ := isSome_iff_exists.mp hv
  simp [callIndevice, hv, (hcalm v hv).1]

theorem normalDeviceId_eq (hin : ¬ devices > bitIn) : s.normalDeviceId b devices =
    if s.fmViaA2dp ∧ s.isFMRadioOn then .fmExternal else ({} : State).normalDeviceId b devices := by
  have hquiet : ¬ (({} : State).fmViaA2dp ∧ ({} : State).isFMRadioOn) := by decide
  rw [normalDeviceId, normalDeviceId, if_neg hin, if_neg hin, if_neg hquiet]

theorem alike_iff_of_tables (b : Build) (devices : Devices) (hcall : s.isCallMode = true) (hv : s.voice.isSome)
    (hcalm : s.Calm) (device chosen : DeviceType)
    (hin : ¬ devices > bitIn) (hdev : ∀ ofPrimary, s.callOutput ofPrimary devices = some device)
    (hmic : ∃ mic, s.callMic device = some mic ∧ device.SameAccessory mic) (hne : device ≠ .none ∧ device ≠ .fmExternal)
    (hnormal : ({} : State).normalDeviceId b devices = chosen)
    (hsco : hasAny devices outAllSco = false ↔ chosen = device) :
    s.Alike b devices ↔ hasAny devices outAllSco = false ∧ ¬ (s.fmViaA2dp ∧ s.isFMRadioOn) := by
  have hnormally : s.normally.deviceId b devices = some (s.normalDeviceId b devices) := rfl
  rw [Alike, deviceId_calm hcall hv hcalm hin hdev hne.1, hnormally, normalDeviceId_eq hin, hnormal, hsco]
  constructor
  · rintro ⟨_, mic, ⟨⟩, h, -⟩
    split_ifs at h with hfm
    · exact absurd (Option.some.inj h).symm hne.2
    · exact ⟨Option.some.inj h, hfm⟩
  · rintro ⟨rfl, hfm⟩
    obtain ⟨mic, hmic, hsame⟩ := hmic
    refine ⟨_, mic, rfl, by rw [if_neg hfm], ?_, hsame⟩
    unfold indeviceIdFromOutdevice
    rw [if_pos hcall, callIndevice_calm hv hcalm, hmic]

theorem alike_iff (hcall : s.isCallMode = true) (hv : s.voice.isSome) (hcalm : s.Calm) (h : Selectable devices) :
    s.Alike b devices ↔ hasAny devices outAllSco = false ∧ ¬ (s.fmViaA2dp ∧ s.isFMRadioOn) := by
  have husb : ∃ mic, s.callMic .usbHeadset = some mic ∧ DeviceType.usbHeadset.SameAccessory mic := by
    rcases h : isUsbInDevice s.actualCaptureDevice <;> simp [callMic, h, DeviceType.SameAccessory]
  have htables (device chosen : DeviceType) := alike_iff_of_tables b devices hcall hv hcalm device chosen
  obtain ⟨sthal, offload, usb, direct⟩ := b
  simp only [Selectable, List.mem_cons, List.not_mem_nil, or_false] at h
  rcases h with rfl | rfl | rfl | rfl | rfl | rfl | rfl | rfl | rfl
  · exact htables .handset .handset (by decide) (fun _ => rfl) ⟨_, rfl, .inl rfl⟩ (by decide) rfl (by decide)
  · exact htables .speaker .speaker (by decide) (fun _ => rfl) ⟨_, rfl, .inr (.inl rfl)⟩ (by decide) rfl (by decide)
  · exact htables .headset .headset (by decide) (fun _ => rfl) ⟨_, rfl, rfl⟩ (by decide) rfl (by decide)
  · exact htables .headphone .headphone (by decide) (fun _ => rfl) ⟨_, rfl, .inr (.inr rfl)⟩ (by decide) rfl (by decide)
  iterate 3 exact htables .usbHeadset .btScoHeadset (by decide) (fun _ => rfl) husb (by decide) rfl (by decide)
  iterate 2
    exact htables .usbHeadset .usbHeadset (by decide) (fun _ => rfl) husb (by decide)
      (by cases offload <;> rfl) (by decide)

end

/-- Both functions return, and a call changes no accessory, just when the recursion gets to a direct output
and the device is not one of the exceptions. -/
theorem choosesRight_iff (b : Build) (s : State) (devices : Devices) :
    s.ChoosesRight b devices ↔ s.Reaches devices ∧ s.Undisturbed devices := by
  rw [State.ChoosesRight, returns_iff_reaches]
  refine and_congr_right fun hreaches => ?_
  refine forall_congr' fun hcall => forall_congr' fun hcalm => forall_congr' fun h => ?_
  exact alike_iff hcall (hreaches hcall).1 hcalm h

/-- In a call a SCO headset is taken for a USB headset. -/
theorem sco_falls_through : ¬ ∀ (b : Build) (s : State) (devices : Devices), s.ChoosesRight b devices := by
  intro h
  obtain ⟨-, halike⟩ := h ⟨false, false, false, false⟩ { amode := .inCall, voice := some { callStatus := .active } }
    outBluetoothScoHeadset
  have hcalm : State.Calm { amode := .inCall, voice := some { callStatus := .active } } := by
    rintro v ⟨⟩
    exact ⟨rfl, rfl⟩
  obtain ⟨device, mic, hcall, hnormal, -⟩ := halike rfl hcalm (by unfold Selectable; decide)
  cases hcall
  cases hnormal

end ExynosHal.Audio
