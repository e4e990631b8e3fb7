import ExynosHal.Library.Words
import Mathlib.Tactic

/-! # Boot control of the two slots

`lib_exbc` changes the slot information in memory. `Exynos_BootControl` reads the record of the slotinfo
partition before every operation and writes it back after it; a read or a write may fail.
-/

namespace ExynosHal.Boot.BootControl

structure Metadata where
  bootable : Byte
  isActive : Byte
  bootSuccessful : Byte
  triesRemaining : Byte
  deriving DecidableEq

structure SlotInfo where
  metadata : Fin 2 → Metadata
  mergeStatus : U32
  otaFlag : Byte

def resetSlotInfo : SlotInfo where
  metadata slot := ⟨1, if slot = 0 then 1 else 0, 0, 7⟩
  mergeStatus := 0
  otaFlag := 0

def SlotInfo.setMetadata (si : SlotInfo) (slot : Fin 2) (m : Metadata) : SlotInfo :=
  { si with metadata := Function.update si.metadata slot m }

/-! ## Operations on the slot information

`current` is the slot of `ro.boot.slot_suffix`.
-/

def SlotInfo.markBootSuccessful (si : SlotInfo) (slot : Fin 2) : SlotInfo :=
  si.setMetadata slot { si.metadata slot with bootSuccessful := 1 }

def SlotInfo.setActiveBootSlot (si : SlotInfo) (current : Option (Fin 2)) (slot : Fin 2) : SlotInfo :=
  let si := si.setMetadata slot ⟨1, 1, 0, 7⟩
  let si := { si with otaFlag := if some slot = current then 0 else 1 }
  si.setMetadata (1 - slot) { si.metadata (1 - slot) with isActive := 0 }

def SlotInfo.setSlotAsUnbootable (si : SlotInfo) (slot : Fin 2) : SlotInfo :=
  let si := si.setMetadata slot ⟨0, 0, 0, 0⟩
  if (si.metadata (1 - slot)).bootable ≠ 0 then
    si.setMetadata (1 - slot) { si.metadata (1 - slot) with isActive := 1 }
  else si

def SlotInfo.setSnapshotMergeStatus (si : SlotInfo) (status : U32) : SlotInfo := { si with mergeStatus := status }

/-- `slot_data`: the merge status is a signed bit-field of eight bits. -/
structure SlotData where
  magic : List Byte
  metadata : Fin 2 → Metadata
  metadataReserved : Fin 2 → List Byte
  mergeStatus : Byte
  otaFlag : Byte
  reserved : List Byte
  deriving DecidableEq

def slotInfoMagic : List Byte := [0x45, 0x58, 0x42, 0x43]

/-- `Encode`; the bytes it does not set are those of the local `data`. -/
def encode (si : SlotInfo) (data : SlotData) : SlotData := { data with
    magic := slotInfoMagic
    metadata := si.metadata
    mergeStatus := si.mergeStatus.setWidth 8
    otaFlag := si.otaFlag }

def decode (data : SlotData) : SlotInfo where
  metadata := data.metadata
  mergeStatus := data.mergeStatus.signExtend 32
  otaFlag := data.otaFlag

def verifySlot (data : SlotData) : Bool := data.magic = slotInfoMagic

structure BootState where
  info : SlotInfo
  record : SlotData

structure Access where
  readOk : Bool
  resetWriteOk : Bool
  writeOk : Bool
  stack : SlotData
  resetStack : SlotData

def writeSlotData (s : BootState) (ok : Bool) (data : SlotData) : Bool × BootState :=
  if ok then (true, { s with record := data }) else (false, s)

def loadSlot (s : BootState) (io : Access) : Bool × BootState :=
  if io.readOk then
    if verifySlot s.record then (true, { s with info := decode s.record })
    else
      let s := { s with info := resetSlotInfo }
      writeSlotData s io.resetWriteOk (encode s.info io.resetStack)
  else (false, s)

def saveSlot (s : BootState) (io : Access) : Bool × BootState := writeSlotData s io.writeOk (encode s.info io.stack)

def modifySlot (s : BootState) (io : Access) (f : SlotInfo → SlotInfo) : Bool × BootState :=
  match loadSlot s io with
  | (false, s) => (false, s)
  | (true, s) => saveSlot { s with info := f s.info } io

/-- The slot as an index, where `IsValidSlot` accepts it. -/
def validSlot (slot : U32) : Option (Fin 2) :=
  if h : slot.toNat < 2 then some ⟨slot.toNat, h⟩ else none

def modifyValidSlot (s : BootState) (io : Access) (slot : U32)
    (f : Fin 2 → SlotInfo → SlotInfo) : Bool × BootState :=
  match validSlot slot with
  | none => (false, s)
  | some slot => modifySlot s io (f slot)

/-- `GetCurrentSlot`: -1 when the suffix names no slot. -/
def getCurrentSlot (current : Option (Fin 2)) : U32 :=
  match current with
  | none => -1
  | some slot => BitVec.ofNat 32 slot.val

def markBootSuccessful (current : Option (Fin 2)) (s : BootState) (io : Access) : Bool × BootState :=
  modifyValidSlot s io (getCurrentSlot current) fun slot si => si.markBootSuccessful slot

def setActiveBootSlot (current : Option (Fin 2)) (slot : U32) (s : BootState) (io : Access) : Bool × BootState :=
  modifyValidSlot s io slot fun slot si => si.setActiveBootSlot current slot

def setSlotAsUnbootable (slot : U32) (s : BootState) (io : Access) : Bool × BootState :=
  modifyValidSlot s io slot fun slot si => si.setSlotAsUnbootable slot

def setSnapshotMergeStatus (status : U32) (s : BootState) (io : Access) : Bool × BootState :=
  modifySlot s io fun si => si.setSnapshotMergeStatus status

end ExynosHal.Boot.BootControl
