import ExynosHal.Boot.BootControl
import ExynosHal.Library.Run

/-! # Consistent slots

One active slot among the bootable ones, and nothing left on a slot that is not bootable.
-/

namespace ExynosHal.Boot.SlotInvariant
open BootControl Library.Run
open Function (update_of_ne update_self)

structure Consistent (metadata : Fin 2 → Metadata) : Prop where
  not_both_active : ∀ slot, (metadata slot).isActive ≠ 0 → (metadata (1 - slot)).isActive = 0
  active_of_bootable : ∀ slot, (metadata slot).bootable ≠ 0 →
    ∃ active, (metadata active).isActive ≠ 0 ∧ (metadata active).bootable ≠ 0
  unbootable : ∀ slot, (metadata slot).bootable = 0 → metadata slot = ⟨0, 0, 0, 0⟩

structure SlotsOk (s : BootState) : Prop where
  valid : verifySlot s.record
  info : Consistent s.info.metadata
  record : Consistent s.record.metadata

theorem sub_sub_slot (slot : Fin 2) : 1 - (1 - slot) = slot := by
  revert slot
  decide

theorem sub_slot_ne (slot : Fin 2) : 1 - slot ≠ slot := by
  revert slot
  decide

theorem eq_or_eq_sub (slot other : Fin 2) : other = slot ∨ other = 1 - slot := by
  revert slot other
  decide

theorem consistent_iff (metadata : Fin 2 → Metadata) (slot : Fin 2) : Consistent metadata ↔
      ((metadata slot).isActive ≠ 0 → (metadata (1 - slot)).isActive = 0) ∧
      ((metadata slot).bootable ≠ 0 ∨ (metadata (1 - slot)).bootable ≠ 0 →
        (metadata slot).isActive ≠ 0 ∧ (metadata slot).bootable ≠ 0 ∨
        (metadata (1 - slot)).isActive ≠ 0 ∧ (metadata (1 - slot)).bootable ≠ 0) ∧
      ((metadata slot).bootable = 0 → metadata slot = ⟨0, 0, 0, 0⟩) ∧
      ((metadata (1 - slot)).bootable = 0 → metadata (1 - slot) = ⟨0, 0, 0, 0⟩) := by
  constructor
  · rintro ⟨hact, hbootable, hunbootable⟩
    refine ⟨hact slot, ?_, hunbootable slot, hunbootable (1 - slot)⟩
    intro h
    obtain ⟨active, ha⟩ : ∃ active, (metadata active).isActive ≠ 0 ∧ (metadata active).bootable ≠ 0 :=
      h.elim (hbootable slot) (hbootable (1 - slot))
    rcases eq_or_eq_sub slot active with rfl | rfl
    · exact .inl ha
    · exact .inr ha
  · rintro ⟨hact, hbootable, hslot, hother⟩
    constructor
    · intro s hs
      rcases eq_or_eq_sub slot s with rfl | rfl
      · exact hact hs
      · rw [sub_sub_slot]
        by_contra hne
        exact hs (hact hne)
    · intro s hs
      have h : (metadata slot).bootable ≠ 0 ∨ (metadata (1 - slot)).bootable ≠ 0 := by
        rcases eq_or_eq_sub slot s with rfl | rfl
        · exact .inl hs
        · exact .inr hs
      rcases hbootable h with ha | ha
      · exact ⟨slot, ha⟩
      · exact ⟨1 - slot, ha⟩
    · intro s
      rcases eq_or_eq_sub slot s with rfl | rfl
      · exact hslot
      · exact hother

theorem consistent_reset : Consistent resetSlotInfo.metadata := by
  rw [consistent_iff _ 0]
  decide

variable {si : SlotInfo}

theorem consistent_setActiveBootSlot (h : Consistent si.metadata) (current : Option (Fin 2)) (slot : Fin 2) :
    Consistent (si.setActiveBootSlot current slot).metadata := by
  have hne := sub_slot_ne slot
  obtain ⟨-, -, -, hother⟩ := (consistent_iff _ slot).mp h
  rw [consistent_iff _ slot]
  simp only [SlotInfo.setActiveBootSlot, SlotInfo.setMetadata, update_self, update_of_ne hne, update_of_ne hne.symm]
  refine ⟨fun _ => trivial, fun _ => .inl (by decide), fun hzero => absurd hzero (by decide), ?_⟩
  intro hzero
  rw [hother hzero]

theorem consistent_setSlotAsUnbootable (h : Consistent si.metadata)
    (slot : Fin 2) : Consistent (si.setSlotAsUnbootable slot).metadata := by
  have hne := sub_slot_ne slot
  obtain ⟨-, -, -, hother⟩ := (consistent_iff _ slot).mp h
  rw [consistent_iff _ slot]
  simp only [SlotInfo.setSlotAsUnbootable, SlotInfo.setMetadata, update_of_ne hne]
  split
  · rename_i hbootable
    simp only [update_self, update_of_ne hne.symm]
    refine ⟨fun h0 => absurd rfl h0, fun _ => .inr ⟨by decide, hbootable⟩, fun _ => trivial, ?_⟩
    intro hzero
    exact absurd hzero hbootable
  · rename_i hzero
    simp only [update_self, update_of_ne hne]
    refine ⟨fun h0 => absurd rfl h0, ?_, fun _ => trivial, hother⟩
    rintro (h0 | h0)
    · exact absurd rfl h0
    · exact absurd h0 hzero

theorem consistent_markBootSuccessful_iff (h : Consistent si.metadata) (slot : Fin 2) :
    Consistent (si.markBootSuccessful slot).metadata ↔ (si.metadata slot).bootable ≠ 0 := by
  have hne := sub_slot_ne slot
  obtain ⟨hact, hbootable, hslot, hother⟩ := (consistent_iff _ slot).mp h
  rw [consistent_iff _ slot]
  simp only [SlotInfo.markBootSuccessful, SlotInfo.setMetadata, update_self, update_of_ne hne]
  constructor
  · rintro ⟨-, -, hmarked, -⟩ hzero
    have hbyte : (1 : Byte) = 0 := congrArg Metadata.bootSuccessful (hmarked hzero)
    exact absurd hbyte (by decide)
  · intro hboot
    exact ⟨hact, hbootable, fun hzero => absurd hzero hboot, hother⟩

variable {s : BootState}

theorem loadSlot_of_valid (hvalid : verifySlot s.record) (io : Access) :
    loadSlot s io = if io.readOk then (true, { s with info := decode s.record }) else (false, s) := by
  simp only [loadSlot, hvalid, if_true]

theorem modifySlot_of_valid (hvalid : verifySlot s.record) (io : Access) (f : SlotInfo → SlotInfo) :
    (modifySlot s io f).2 =
      if io.readOk then
        { info := f (decode s.record)
          record := if io.writeOk then encode (f (decode s.record)) io.stack else s.record }
      else s := by
  rw [modifySlot, loadSlot_of_valid hvalid]
  cases io.readOk with
  | false => rfl
  | true => cases hwrite : io.writeOk <;> simp [saveSlot, writeSlotData, hwrite]

theorem slotsOk_modifySlot_iff (h : SlotsOk s) (io : Access) (f : SlotInfo → SlotInfo) : SlotsOk (modifySlot s io f).2 ↔
      (io.readOk → Consistent (f (decode s.record)).metadata) := by
  rw [modifySlot_of_valid h.valid]
  cases io.readOk with
  | false => exact iff_of_true h (fun hread => nomatch hread)
  | true =>
    constructor
    · intro hok _
      exact hok.info
    · intro hf
      cases io.writeOk with
      | false => exact ⟨h.valid, hf rfl, h.record⟩
      | true => exact ⟨by simp [verifySlot, encode], hf rfl, hf rfl⟩

theorem slotsOk_modifyValidSlot (h : SlotsOk s) (io : Access) (slot : U32) {f : Fin 2 → SlotInfo → SlotInfo}
    (hf : ∀ slot si, Consistent si.metadata → Consistent (f slot si).metadata) :
    SlotsOk (modifyValidSlot s io slot f).2 := by
  rw [modifyValidSlot]
  cases validSlot slot with
  | none => exact h
  | some slot => exact (slotsOk_modifySlot_iff h io (f slot)).mpr fun _ => hf slot _ h.record

theorem validSlot_getCurrentSlot (current : Option (Fin 2)) : validSlot (getCurrentSlot current) = current := by
  revert current
  decide

inductive HalOp where
  | setActiveBootSlot (slot : U32)
  | setSlotAsUnbootable (slot : U32)
  | markBootSuccessful
  | setSnapshotMergeStatus (status : U32)

def step (current : Option (Fin 2)) (s : BootState) : HalOp × Access → BootState
  | (.setActiveBootSlot slot, io) => (setActiveBootSlot current slot s io).2
  | (.setSlotAsUnbootable slot, io) => (setSlotAsUnbootable slot s io).2
  | (.markBootSuccessful, io) => (markBootSuccessful current s io).2
  | (.setSnapshotMergeStatus status, io) => (setSnapshotMergeStatus status s io).2

def MarksBootable (current : Option (Fin 2)) (s : BootState) : HalOp × Access → Prop
  | (.markBootSuccessful, io) => io.readOk → ∀ slot, current = some slot → (s.record.metadata slot).bootable ≠ 0
  | _ => True

theorem slotsOk_step_iff (current : Option (Fin 2)) (h : SlotsOk s)
    (input : HalOp × Access) : SlotsOk (step current s input) ↔ MarksBootable current s input := by
  obtain ⟨op, io⟩ := input
  cases op with
  | setActiveBootSlot slot =>
    refine iff_of_true (slotsOk_modifyValidSlot h io slot ?_) trivial
    intro slot si hsi
    exact consistent_setActiveBootSlot hsi current slot
  | setSlotAsUnbootable slot =>
    refine iff_of_true (slotsOk_modifyValidSlot h io slot ?_) trivial
    intro slot si hsi
    exact consistent_setSlotAsUnbootable hsi slot
  | setSnapshotMergeStatus status =>
    exact iff_of_true ((slotsOk_modifySlot_iff h io _).mpr fun _ => h.record) trivial
  | markBootSuccessful =>
    simp only [step, markBootSuccessful, modifyValidSlot, validSlot_getCurrentSlot, MarksBootable]
    cases current with
    | none => exact iff_of_true h fun _ slot hslot => nomatch hslot
    | some slot =>
      rw [slotsOk_modifySlot_iff h]
      have hrecord : Consistent (decode s.record).metadata := h.record
      have hmark := consistent_markBootSuccessful_iff hrecord slot
      constructor
      · rintro hok hread slot' ⟨⟩
        exact hmark.mp (hok hread)
      · intro hok hread
        exact hmark.mpr (hok hread slot rfl)

def resetState (data : SlotData) : BootState where
  info := resetSlotInfo
  record := encode resetSlotInfo data

theorem slotsOk_resetState (data : SlotData) : SlotsOk (resetState data) :=
  ⟨by simp [verifySlot, resetState, encode], consistent_reset, consistent_reset⟩

/-- From the reset state the slots stay consistent along a run just when no step marks an
unbootable slot successful. -/
theorem slotsOk_run_iff (current : Option (Fin 2)) (data : SlotData) (inputs : List (HalOp × Access)) :
    Throughout (step current) SlotsOk (resetState data) inputs ↔
      EachStep (step current) (MarksBootable current) (resetState data) inputs :=
  @throughout_iff_eachStep _ _ (step current) SlotsOk _ inputs (MarksBootable current) (fun _ => True)
    (fun _ input _ hs => slotsOk_step_iff current hs input) (fun _ _ => trivial) (slotsOk_resetState data)

def blankData : SlotData := ⟨[], fun _ => ⟨0, 0, 0, 0⟩, fun _ => [], 0, 0, []⟩

def workingAccess : Access := ⟨true, true, true, blankData, blankData⟩

attribute [local instance] neZero_two

def markedUnbootable : BootState :=
  [(HalOp.setSlotAsUnbootable 0, workingAccess), (.markBootSuccessful, workingAccess)].foldl
    (step (some 0)) (resetState blankData)

theorem markedUnbootable_not_ok : ¬ Throughout (step (some 0)) SlotsOk (resetState blankData)
        [(HalOp.setSlotAsUnbootable 0, workingAccess), (.markBootSuccessful, workingAccess)] ∧
      (markedUnbootable.record.metadata 0).bootable = 0 ∧
      (markedUnbootable.record.metadata 0).bootSuccessful = 1 := by
  refine ⟨?_, by decide, by decide⟩
  rintro ⟨-, -, hok⟩
  have hzero := hok.record.unbootable 0 (by decide)
  have hbyte : (1 : Byte) = 0 := congrArg Metadata.bootSuccessful hzero
  exact absurd hbyte (by decide)

end ExynosHal.Boot.SlotInvariant
