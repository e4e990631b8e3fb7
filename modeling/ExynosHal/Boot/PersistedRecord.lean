import ExynosHal.Boot.SlotInvariant

/-! # The persisted record

The record is held by the partition, by the loader and by `lib_exbc`. Every operation
but `GetActiveBootSlot` reads it again; what a failed save leaves in the library is
seen by that one, and what a save writes is built on the stack.
-/

namespace ExynosHal.Boot.PersistedRecord
open BootControl SlotInvariant Library.Run
open Function (update_of_ne update_self)

structure HalState where
  exbc : SlotInfo
  initialized : Bool
  loader : SlotData
  record : SlotData

/-- The access of one operation, with what a failed read leaves in the loader. -/
structure LoaderAccess extends Access where
  readBuffer : SlotData

inductive Answer where
  | bool (b : Bool)
  | mergeStatus (status : U32)
  | slot (slot : U32)
  deriving DecidableEq

namespace HalState

def readSlotData (s : HalState) (io : LoaderAccess) : Bool × HalState :=
  if io.readOk then (true, { s with loader := s.record }) else (false, { s with loader := io.readBuffer })

def writeSlotData (s : HalState) (ok : Bool) : Bool × HalState :=
  if ok then (true, { s with record := s.loader }) else (false, s)

def downloadingData (s : HalState) : HalState := { s with exbc := decode s.loader }

/-- The local `data` is not cleared before `Encode`. -/
def uploadingData (s : HalState) (stack : SlotData) : HalState := { s with loader := encode s.exbc stack }

def loadSlot (s : HalState) (io : LoaderAccess) : Bool × HalState :=
  match s.readSlotData io with
  | (false, s) => (false, s)
  | (true, s) =>
    if verifySlot s.loader then (true, s.downloadingData)
    else (uploadingData { s with exbc := resetSlotInfo } io.resetStack).writeSlotData io.resetWriteOk

def saveSlot (s : HalState) (io : LoaderAccess) : Bool × HalState := (s.uploadingData io.stack).writeSlotData io.writeOk

def init (s : HalState) (io : LoaderAccess) : Bool × HalState :=
  if s.initialized then (true, s)
  else
    match s.loadSlot io with
    | (false, s) => (false, s)
    | (true, s) => (true, { s with initialized := true })

def modify (s : HalState) (io : LoaderAccess) (f : SlotInfo → SlotInfo) : Bool × HalState :=
  match s.loadSlot io with
  | (false, s) => (false, s)
  | (true, s) => saveSlot { s with exbc := f s.exbc } io

def query {α : Type} (s : HalState) (io : LoaderAccess) (failed : α) (f : SlotInfo → α) : α × HalState :=
  match s.loadSlot io with
  | (false, s) => (failed, s)
  | (true, s) => (f s.exbc, s)

def ofSlot (s : HalState) (slot : U32) (f : Fin 2 → Bool × HalState) : Bool × HalState :=
  match validSlot slot with
  | none => (false, s)
  | some slot => f slot

def markBootSuccessful (s : HalState) (io : LoaderAccess) (slot : U32) : Bool × HalState :=
  s.ofSlot slot fun slot => s.modify io fun si => si.markBootSuccessful slot

def setActiveBootSlot (current : Option (Fin 2)) (s : HalState) (io : LoaderAccess) (slot : U32) :
    Bool × HalState :=
  s.ofSlot slot fun slot => s.modify io fun si => si.setActiveBootSlot current slot

def setSlotAsUnbootable (s : HalState) (io : LoaderAccess) (slot : U32) : Bool × HalState :=
  s.ofSlot slot fun slot => s.modify io fun si => si.setSlotAsUnbootable slot

def isSlotBootable (s : HalState) (io : LoaderAccess) (slot : U32) : Bool × HalState :=
  s.ofSlot slot fun slot => s.query io false fun si => (si.metadata slot).bootable ≠ 0

def isSlotMarkedSuccessful (s : HalState) (io : LoaderAccess) (slot : U32) : Bool × HalState :=
  s.ofSlot slot fun slot => s.query io false fun si => (si.metadata slot).bootSuccessful ≠ 0

def setSnapshotMergeStatus (s : HalState) (io : LoaderAccess) (status : U32) : Bool × HalState :=
  s.modify io fun si => si.setSnapshotMergeStatus status

def mergeStatusUnknown : U32 := 1

def getSnapshotMergeStatus (s : HalState) (io : LoaderAccess) : U32 × HalState :=
  s.query io mergeStatusUnknown fun si => si.mergeStatus

end HalState

/-- The loop of `GetActiveBootSlot`; nothing is read before it. -/
def getActiveBootSlot (si : SlotInfo) : U32 :=
  match (List.finRange 2).find? fun slot => (si.metadata slot).isActive ≠ 0 with
  | some slot => BitVec.ofNat 32 slot.val
  | none => 0

inductive Operation where
  | init
  | markBootSuccessful (slot : U32)
  | setActiveBootSlot (slot : U32)
  | setSlotAsUnbootable (slot : U32)
  | isSlotBootable (slot : U32)
  | isSlotMarkedSuccessful (slot : U32)
  | setSnapshotMergeStatus (status : U32)
  | getSnapshotMergeStatus
  | getActiveBootSlot

def answered {α : Type} (answer : α → Answer) (r : α × HalState) : Answer × HalState := (answer r.1, r.2)

def perform (current : Option (Fin 2)) (s : HalState) : Operation × LoaderAccess → Answer × HalState
  | (.init, io) => answered .bool (s.init io)
  | (.markBootSuccessful slot, io) => answered .bool (s.markBootSuccessful io slot)
  | (.setActiveBootSlot slot, io) => answered .bool (s.setActiveBootSlot current io slot)
  | (.setSlotAsUnbootable slot, io) => answered .bool (s.setSlotAsUnbootable io slot)
  | (.isSlotBootable slot, io) => answered .bool (s.isSlotBootable io slot)
  | (.isSlotMarkedSuccessful slot, io) => answered .bool (s.isSlotMarkedSuccessful io slot)
  | (.setSnapshotMergeStatus status, io) => answered .bool (s.setSnapshotMergeStatus io status)
  | (.getSnapshotMergeStatus, io) => answered .mergeStatus (s.getSnapshotMergeStatus io)
  | (.getActiveBootSlot, _) => (.slot (getActiveBootSlot s.exbc), s)

def step (current : Option (Fin 2)) (s : HalState) (input : Operation × LoaderAccess) : HalState :=
  (perform current s input).2

def answers (current : Option (Fin 2)) : HalState → List (Operation × LoaderAccess) → List Answer
  | _, [] => []
  | s, input :: later => (perform current s input).1 :: answers current (step current s input) later

inductive Field where
  | magic
  | bootable (slot : Fin 2)
  | isActive (slot : Fin 2)
  | bootSuccessful (slot : Fin 2)
  | triesRemaining (slot : Fin 2)
  | metadataReserved (slot : Fin 2)
  | mergeStatus
  | otaFlag
  | reserved

def bytesOf (data : SlotData) : Field → List Byte
  | .magic => data.magic
  | .bootable slot => [(data.metadata slot).bootable]
  | .isActive slot => [(data.metadata slot).isActive]
  | .bootSuccessful slot => [(data.metadata slot).bootSuccessful]
  | .triesRemaining slot => [(data.metadata slot).triesRemaining]
  | .metadataReserved slot => data.metadataReserved slot
  | .mergeStatus => [data.mergeStatus]
  | .otaFlag => [data.otaFlag]
  | .reserved => data.reserved

def Operation.About : Operation → Field → Prop
  | .markBootSuccessful slot, .bootSuccessful i => slot.toNat = i.val
  | .setActiveBootSlot slot, .bootable i => slot.toNat = i.val
  | .setActiveBootSlot _, .isActive _ => True
  | .setActiveBootSlot slot, .bootSuccessful i => slot.toNat = i.val
  | .setActiveBootSlot slot, .triesRemaining i => slot.toNat = i.val
  | .setActiveBootSlot _, .otaFlag => True
  | .setSlotAsUnbootable slot, .bootable i => slot.toNat = i.val
  | .setSlotAsUnbootable _, .isActive _ => True
  | .setSlotAsUnbootable slot, .bootSuccessful i => slot.toNat = i.val
  | .setSlotAsUnbootable slot, .triesRemaining i => slot.toNat = i.val
  | .setSnapshotMergeStatus _, .mergeStatus => True
  | _, _ => False

/-- What a failed step leaves, and what a successful one may change. -/
structure Reported (current : Option (Fin 2)) (s : HalState) (input : Operation × LoaderAccess) : Prop where
  failed : (perform current s input).1 = .bool false → (step current s input).record = s.record ∧
    ∀ later, answers current (step current s input) later = answers current s later
  done : (perform current s input).1 = .bool true → ∀ field, ¬input.1.About field →
    bytesOf (step current s input).record field = bytesOf s.record field

/-- `GetActiveBootSlot` answers from the record. -/
structure FromRecord (s : HalState) : Prop where
  valid : verifySlot s.record
  active : getActiveBootSlot s.exbc = getActiveBootSlot (decode s.record)

variable {s : HalState}

section
variable (h : verifySlot s.record)
include h

theorem loadSlot_valid (io : LoaderAccess) : s.loadSlot io =
      if io.readOk then (true, { s with loader := s.record, exbc := decode s.record })
      else (false, { s with loader := io.readBuffer }) := by
  rw [HalState.loadSlot, HalState.readSlotData]
  cases io.readOk with
  | false => rfl
  | true =>
    simp [h, HalState.downloadingData]

theorem init_valid (io : LoaderAccess) : s.init io = if s.initialized then (true, s)
      else if io.readOk then
        (true, { s with loader := s.record, exbc := decode s.record, initialized := true })
      else (false, { s with loader := io.readBuffer }) := by
  rw [HalState.init, loadSlot_valid h]
  cases io.readOk <;> rfl

theorem query_valid {α : Type} (io : LoaderAccess) (failed : α) (f : SlotInfo → α) : s.query io failed f =
      if io.readOk then (f (decode s.record), { s with loader := s.record, exbc := decode s.record })
      else (failed, { s with loader := io.readBuffer }) := by
  rw [HalState.query, loadSlot_valid h]
  cases io.readOk <;> rfl

theorem modify_valid (io : LoaderAccess) (f : SlotInfo → SlotInfo) : s.modify io f = if io.readOk then
        (io.writeOk, { s with
            exbc := f (decode s.record)
            loader := encode (f (decode s.record)) io.stack
            record := if io.writeOk then encode (f (decode s.record)) io.stack else s.record })
      else (false, { s with loader := io.readBuffer }) := by
  rw [HalState.modify, loadSlot_valid h]
  cases io.readOk with
  | false => rfl
  | true =>
    dsimp only [HalState.saveSlot, HalState.uploadingData, HalState.writeSlotData]
    cases io.writeOk <;> rfl

end

variable (si : SlotInfo)

theorem verifySlot_encode (data : SlotData) : verifySlot (encode si data) := by
  simp [verifySlot, encode]

theorem getActiveBootSlot_congr {si si' : SlotInfo} (h : si.metadata = si'.metadata) :
    getActiveBootSlot si = getActiveBootSlot si' := by
  rw [getActiveBootSlot, getActiveBootSlot, h]

structure Alike (s t : HalState) : Prop where
  valid : verifySlot s.record
  record : s.record = t.record
  initialized : s.initialized = t.initialized
  active : getActiveBootSlot s.exbc = getActiveBootSlot t.exbc

section
variable {s t : HalState} (h : Alike s t) (io : LoaderAccess)
include h

theorem Alike.valid_right : verifySlot t.record := h.record ▸ h.valid

theorem Alike.init : (s.init io).1 = (t.init io).1 ∧ Alike (s.init io).2 (t.init io).2 := by
  rw [init_valid h.valid, init_valid h.valid_right, ← h.initialized, ← h.record]
  split_ifs
  · exact ⟨rfl, h⟩
  · exact ⟨rfl, h.valid, rfl, rfl, rfl⟩
  · exact ⟨rfl, h.valid, rfl, rfl, h.active⟩

theorem Alike.query {α : Type} (failed : α) (f : SlotInfo → α) :
    (s.query io failed f).1 = (t.query io failed f).1 ∧ Alike (s.query io failed f).2 (t.query io failed f).2 := by
  rw [query_valid h.valid, query_valid h.valid_right, ← h.record]
  split_ifs
  · exact ⟨rfl, h.valid, rfl, h.initialized, rfl⟩
  · exact ⟨rfl, h.valid, rfl, h.initialized, h.active⟩

theorem Alike.modify (f : SlotInfo → SlotInfo) :
    (s.modify io f).1 = (t.modify io f).1 ∧ Alike (s.modify io f).2 (t.modify io f).2 := by
  rw [modify_valid h.valid, modify_valid h.valid_right, ← h.record]
  split_ifs
  · exact ⟨rfl, verifySlot_encode _ _, rfl, h.initialized, rfl⟩
  · exact ⟨rfl, h.valid, rfl, h.initialized, rfl⟩
  · exact ⟨rfl, h.valid, rfl, h.initialized, h.active⟩

theorem Alike.ofSlot {f g : Fin 2 → Bool × HalState} (hfg : ∀ slot, (f slot).1 = (g slot).1 ∧
    Alike (f slot).2 (g slot).2) (slot : U32) :
    (s.ofSlot slot f).1 = (t.ofSlot slot g).1 ∧ Alike (s.ofSlot slot f).2 (t.ofSlot slot g).2 := by
  rw [HalState.ofSlot, HalState.ofSlot]
  cases validSlot slot with
  | none => exact ⟨rfl, h⟩
  | some slot => exact hfg slot

theorem Alike.perform (current : Option (Fin 2)) (input : Operation × LoaderAccess) :
    (perform current s input).1 = (perform current t input).1 ∧ Alike (step current s input)
      (step current t input) := by
  have lift : ∀ {α : Type} (answer : α → Answer) {r r' : α × HalState}, r.1 = r'.1 ∧ Alike r.2 r'.2 →
      (answered answer r).1 = (answered answer r').1 ∧ Alike (answered answer r).2 (answered answer r').2 := by
    rintro α answer r r' ⟨hanswer, hstate⟩
    exact ⟨congrArg answer hanswer, hstate⟩
  obtain ⟨op, io⟩ := input
  cases op with
  | init => exact lift .bool (h.init io)
  | markBootSuccessful slot => exact lift .bool (h.ofSlot (fun _ => h.modify io _) slot)
  | setActiveBootSlot slot => exact lift .bool (h.ofSlot (fun _ => h.modify io _) slot)
  | setSlotAsUnbootable slot => exact lift .bool (h.ofSlot (fun _ => h.modify io _) slot)
  | isSlotBootable slot => exact lift .bool (h.ofSlot (fun _ => h.query io _ _) slot)
  | isSlotMarkedSuccessful slot => exact lift .bool (h.ofSlot (fun _ => h.query io _ _) slot)
  | setSnapshotMergeStatus status => exact lift .bool (h.modify io _)
  | getSnapshotMergeStatus => exact lift .mergeStatus (h.query io _ _)
  | getActiveBootSlot => exact ⟨congrArg Answer.slot h.active, h⟩

end

theorem Alike.answers {s t : HalState} (h : Alike s t) (current : Option (Fin 2))
    (later : List (Operation × LoaderAccess)) : answers current s later = answers current t later := by
  induction later generalizing s t with
  | nil => rfl
  | cons input later ih =>
    obtain ⟨hanswer, hnext⟩ := h.perform current input
    exact congrArg₂ List.cons hanswer (ih hnext)

/-- The bytes that `Encode` does not set. -/
def Field.Unset : Field → Prop
  | .metadataReserved _ => True
  | .reserved => True
  | _ => False

def SameUnset (data data' : SlotData) : Prop := ∀ field : Field, field.Unset → bytesOf data field = bytesOf data' field

theorem bytesOf_encode_unset (stack : SlotData) {field : Field} (h : field.Unset) :
    bytesOf (encode si stack) field = bytesOf stack field := by
  cases field with
  | metadataReserved slot => rfl
  | reserved => rfl
  | _ => exact h.elim

structure Kept (current : Option (Fin 2)) (About : Field → Prop) (s : HalState) (r : Bool × HalState) : Prop where
  failed : r.1 = false → r.2.record = s.record ∧ ∀ later, answers current r.2 later = answers current s later
  done : r.1 → ∀ field, ¬About field → bytesOf r.2.record field = bytesOf s.record field
  fromRecord : FromRecord r.2

/-- A change of the library that changes only the fields it is about. -/
structure Change (About : Field → Prop) (f : SlotInfo → SlotInfo) (data : SlotData) : Prop where
  unset : ∀ field : Field, field.Unset → ¬About field
  other : ∀ stack field, ¬Field.Unset field → ¬About field →
    bytesOf (encode (f (decode data)) stack) field = bytesOf data field

section
variable {current : Option (Fin 2)} {About : Field → Prop} {s : HalState} (h : FromRecord s) (io : LoaderAccess)
include h

theorem kept_of_alike {r : Bool × HalState} (hr : Alike s r.2) : Kept current About s r := by
  refine ⟨fun _ => ⟨hr.record.symm, fun later => (hr.answers current later).symm⟩, ?_, ?_⟩
  · intro _ field _
    rw [hr.record]
  · refine ⟨hr.valid_right, ?_⟩
    rw [← hr.active, ← hr.record, h.active]

theorem alike_query {α : Type} (failed : α) (f : SlotInfo → α) : Alike s (s.query io failed f).2 := by
  rw [query_valid h.valid]
  split_ifs
  · exact ⟨h.valid, rfl, rfl, h.active⟩
  · exact ⟨h.valid, rfl, rfl, rfl⟩

theorem kept_init : Kept current About s (s.init io) := by
  rw [init_valid h.valid]
  split_ifs with hinit hread
  · exact kept_of_alike h ⟨h.valid, rfl, rfl, rfl⟩
  · exact ⟨fun hfailed => Bool.noConfusion hfailed, fun _ _ _ => rfl, h.valid, rfl⟩
  · exact kept_of_alike h ⟨h.valid, rfl, rfl, rfl⟩

theorem kept_modify_iff {f : SlotInfo → SlotInfo} (hf : Change About f s.record) :
    Kept current About s (s.modify io f) ↔ (io.readOk → (io.writeOk → SameUnset io.stack s.record) ∧
        (io.writeOk = false → getActiveBootSlot (f (decode s.record)) = getActiveBootSlot (decode s.record))) := by
  rw [modify_valid h.valid]
  cases io.readOk with
  | false => exact iff_of_true (kept_of_alike h ⟨h.valid, rfl, rfl, rfl⟩) fun hread => absurd hread (by decide)
  | true =>
    rw [if_pos rfl]
    cases io.writeOk with
    | false =>
      constructor
      · intro hkept _
        exact ⟨fun hwrite => absurd hwrite (by decide), fun _ => hkept.fromRecord.active⟩
      · intro hact
        exact kept_of_alike h ⟨h.valid, rfl, rfl, h.active.trans ((hact rfl).2 rfl).symm⟩
    | true =>
      constructor
      · intro hkept _
        refine ⟨fun _ field hunset => ?_, fun hwrite => absurd hwrite (by decide)⟩
        have hsame := hkept.done rfl field (hf.unset field hunset)
        rwa [if_pos rfl, bytesOf_encode_unset _ _ hunset] at hsame
      · intro hsame
        refine ⟨fun hfailed => Bool.noConfusion hfailed, fun _ field habout => ?_, verifySlot_encode _ _, rfl⟩
        rw [if_pos rfl]
        rcases Classical.em field.Unset with hunset | hset
        · rw [bytesOf_encode_unset _ _ hunset]
          exact (hsame rfl).1 rfl field hunset
        · exact hf.other io.stack field hset habout

end

theorem getActiveBootSlot_eq : getActiveBootSlot si =
      if (si.metadata 0).isActive ≠ 0 then 0 else if (si.metadata 1).isActive ≠ 0 then 1 else 0 := by
  have hslots : List.finRange 2 = [0, 1] := by decide
  rw [getActiveBootSlot, hslots]
  split_ifs with hzero hone
  · rw [List.find?_cons_of_pos (by rwa [decide_eq_true_iff])]
    rfl
  · rw [List.find?_cons_of_neg (by rwa [decide_eq_true_iff]), List.find?_cons_of_pos (by rwa [decide_eq_true_iff])]
    rfl
  · rw [List.find?_cons_of_neg (by rwa [decide_eq_true_iff]), List.find?_cons_of_neg (by rwa [decide_eq_true_iff]),
      List.find?_nil]

theorem getActiveBootSlot_setActiveBootSlot (current : Option (Fin 2)) (si : SlotInfo) (slot : Fin 2) :
    getActiveBootSlot (si.setActiveBootSlot current slot) = BitVec.ofNat 32 slot.val := by
  rw [getActiveBootSlot_eq]
  match slot with
  | 0 => simp [SlotInfo.setActiveBootSlot, SlotInfo.setMetadata]
  | 1 => simp [SlotInfo.setActiveBootSlot, SlotInfo.setMetadata]

theorem getActiveBootSlot_setSlotAsUnbootable (slot : Fin 2) : getActiveBootSlot (si.setSlotAsUnbootable slot) =
      if slot = 0 ∧ ((si.metadata 1).bootable ≠ 0 ∨ (si.metadata 1).isActive ≠ 0) then 1 else 0 := by
  rw [getActiveBootSlot_eq]
  match slot with
  | 0 => simp [SlotInfo.setSlotAsUnbootable, SlotInfo.setMetadata]; split_ifs <;> simp_all
  | 1 => simp [SlotInfo.setSlotAsUnbootable, SlotInfo.setMetadata]; split_ifs <;> simp_all

variable {slot : U32}

theorem toNat_of_validSlot {i : Fin 2} (h : validSlot slot = some i) : slot.toNat = i.val := by
  rw [validSlot] at h
  split_ifs at h with hlt
  cases h
  rfl

theorem about_unset {op : Operation} {field : Field} (h : field.Unset) : ¬op.About field := by
  cases field with
  | metadataReserved slot => cases op <;> exact not_false
  | reserved => cases op <;> exact not_false
  | _ => exact h.elim

theorem magic_eq {data : SlotData} (h : verifySlot data) : data.magic = slotInfoMagic := by
  rwa [verifySlot, decide_eq_true_iff] at h

theorem setWidth_signExtend (b : Byte) : (b.signExtend 32).setWidth 8 = b := by
  apply BitVec.eq_of_getLsbD_eq
  intro i hi
  rw [BitVec.getLsbD_setWidth, BitVec.getLsbD_signExtend]
  simp only [hi, decide_true, Bool.true_and, if_true, show i < 32 by omega]

theorem setSlotAsUnbootable_other (i : Fin 2) :
    ∃ active, (si.setSlotAsUnbootable i).metadata (1 - i) = { si.metadata (1 - i) with isActive := active } ∧
      (si.setSlotAsUnbootable i).mergeStatus = si.mergeStatus ∧ (si.setSlotAsUnbootable i).otaFlag = si.otaFlag := by
  have hne := sub_slot_ne i
  simp only [SlotInfo.setSlotAsUnbootable, SlotInfo.setMetadata, update_of_ne hne]
  split_ifs
  · exact ⟨1, update_self _ _ _, rfl, rfl⟩
  · exact ⟨(si.metadata (1 - i)).isActive, update_of_ne hne _ _, rfl, rfl⟩

theorem getActiveBootSlot_markBootSuccessful (i : Fin 2) :
    getActiveBootSlot (si.markBootSuccessful i) = getActiveBootSlot si := by
  have hact : ∀ j, ((si.markBootSuccessful i).metadata j).isActive = (si.metadata j).isActive := by
    intro j
    rcases eq_or_ne j i with rfl | hne
    · simp only [SlotInfo.markBootSuccessful, SlotInfo.setMetadata, update_self]
    · simp only [SlotInfo.markBootSuccessful, SlotInfo.setMetadata, update_of_ne hne]
  rw [getActiveBootSlot_eq, getActiveBootSlot_eq, hact, hact]

theorem eq_other {i j : Fin 2} (hslot : slot.toNat = i.val) (hj : ¬slot.toNat = j.val) : j = 1 - i := by
  refine (eq_or_eq_sub i j).resolve_left ?_
  rintro rfl
  exact hj hslot

section
variable {data : SlotData} (h : verifySlot data)
include h

theorem change_setSnapshotMergeStatus (status : U32) :
    Change (Operation.setSnapshotMergeStatus status).About (fun si => si.setSnapshotMergeStatus status) data := by
  refine ⟨fun _ => about_unset, ?_⟩
  intro stack field hset habout
  cases field with
  | magic => exact (magic_eq h).symm
  | metadataReserved _ => exact absurd trivial hset
  | reserved => exact absurd trivial hset
  | mergeStatus => exact absurd trivial habout
  | _ => rfl

variable {slot : U32} {i : Fin 2} (hslot : slot.toNat = i.val)
include hslot

theorem change_markBootSuccessful :
    Change (Operation.markBootSuccessful slot).About (fun si => si.markBootSuccessful i) data := by
  refine ⟨fun _ => about_unset, ?_⟩
  intro stack field hset habout
  cases field with
  | magic => exact (magic_eq h).symm
  | metadataReserved _ => exact absurd trivial hset
  | reserved => exact absurd trivial hset
  | mergeStatus => exact congrArg (fun b => [b]) (setWidth_signExtend _)
  | otaFlag => rfl
  | bootSuccessful j =>
    have hne : j ≠ i := fun hj => habout (hj ▸ hslot)
    simp only [bytesOf, encode, SlotInfo.markBootSuccessful, SlotInfo.setMetadata, decode, update_of_ne hne]
  | bootable j | isActive j | triesRemaining j =>
    rcases eq_or_ne j i with rfl | hne
    · simp only [bytesOf, encode, SlotInfo.markBootSuccessful, SlotInfo.setMetadata, decode, update_self]
    · simp only [bytesOf, encode, SlotInfo.markBootSuccessful, SlotInfo.setMetadata, decode, update_of_ne hne]

theorem change_setActiveBootSlot (current : Option (Fin 2)) :
    Change (Operation.setActiveBootSlot slot).About (fun si => si.setActiveBootSlot current i) data := by
  refine ⟨fun _ => about_unset, ?_⟩
  intro stack field hset habout
  cases field with
  | magic => exact (magic_eq h).symm
  | metadataReserved _ => exact absurd trivial hset
  | reserved => exact absurd trivial hset
  | mergeStatus => exact congrArg (fun b => [b]) (setWidth_signExtend _)
  | otaFlag => exact absurd trivial habout
  | isActive _ => exact absurd trivial habout
  | bootable j | bootSuccessful j | triesRemaining j =>
    rw [eq_other hslot habout]
    simp only [bytesOf, encode, SlotInfo.setActiveBootSlot, SlotInfo.setMetadata, decode, update_self,
      update_of_ne (sub_slot_ne i)]

theorem change_setSlotAsUnbootable :
    Change (Operation.setSlotAsUnbootable slot).About (fun si => si.setSlotAsUnbootable i) data := by
  refine ⟨fun _ => about_unset, ?_⟩
  obtain ⟨active, hother, hmerge, hota⟩ := setSlotAsUnbootable_other (decode data) i
  intro stack field hset habout
  cases field with
  | magic => exact (magic_eq h).symm
  | metadataReserved _ => exact absurd trivial hset
  | reserved => exact absurd trivial hset
  | mergeStatus =>
    simp only [bytesOf, encode, hmerge]
    exact congrArg (fun b => [b]) (setWidth_signExtend _)
  | otaFlag => exact congrArg (fun b => [b]) hota
  | isActive _ => exact absurd trivial habout
  | bootable j | bootSuccessful j | triesRemaining j =>
    rw [eq_other hslot habout]
    simp only [bytesOf, encode, hother]
    rfl

end

def Operation.Saves : Operation → Prop
  | .markBootSuccessful slot => slot.toNat < 2
  | .setActiveBootSlot slot => slot.toNat < 2
  | .setSlotAsUnbootable slot => slot.toNat < 2
  | .setSnapshotMergeStatus _ => True
  | _ => False

def KeepsActive : Operation → SlotData → Prop
  | .setActiveBootSlot slot, data => getActiveBootSlot (decode data) = slot
  | .setSlotAsUnbootable slot, data => getActiveBootSlot (decode data) =
      if slot = 0 ∧ ((data.metadata (Fin.last 1)).bootable ≠ 0 ∨ (data.metadata (Fin.last 1)).isActive ≠ 0) then 1 else
        0
  | _, _ => True

/-- A save that works finds the reserved bytes of the record on the stack, and one that does not would
leave the active slot. -/
def Persists (s : HalState) (input : Operation × LoaderAccess) : Prop := input.1.Saves → input.2.readOk →
    (input.2.writeOk → SameUnset input.2.stack s.record) ∧
      (input.2.writeOk = false → KeepsActive input.1 s.record)

section
variable {current : Option (Fin 2)} {s : HalState} (h : FromRecord s) (io : LoaderAccess)

theorem kept_iff_of_bool {op : Operation} {r : Bool × HalState} (hr : perform current s (op, io) = answered .bool r) :
    FromRecord (step current s (op, io)) ∧ Reported current s (op, io) ↔ Kept current op.About s r := by
  have hanswer : ∀ b, (perform current s (op, io)).1 = .bool b ↔ r.1 = b := by
    intro b
    rw [hr]
    exact Answer.bool.injEq _ _ ▸ Iff.rfl
  have hstep : step current s (op, io) = r.2 := congrArg Prod.snd hr
  constructor
  · rintro ⟨hrecord, hfailed, hdone⟩
    rw [hstep] at hrecord hfailed hdone
    exact ⟨fun hb => hfailed ((hanswer false).mpr hb), fun hb => hdone ((hanswer true).mpr hb), hrecord⟩
  · rintro ⟨hfailed, hdone, hrecord⟩
    refine ⟨hstep ▸ hrecord, ?_, ?_⟩
    · intro hb
      rw [hstep]
      exact hfailed ((hanswer false).mp hb)
    · intro hb
      rw [hstep]
      exact hdone ((hanswer true).mp hb)

include h

theorem kept_ofSlot_iff {About : Field → Prop} {f : Fin 2 → Bool × HalState} {C : Prop}
    (hf : ∀ i : Fin 2, slot.toNat = i.val → (Kept current About s (f i) ↔ C)) :
    Kept current About s (s.ofSlot slot f) ↔ (slot.toNat < 2 → C) := by
  rw [HalState.ofSlot]
  cases hvalid : validSlot slot with
  | none =>
    have hge : ¬slot.toNat < 2 := by
      intro hlt
      rw [validSlot, dif_pos hlt] at hvalid
      cases hvalid
    exact iff_of_true (kept_of_alike h ⟨h.valid, rfl, rfl, rfl⟩) fun hlt => absurd hlt hge
  | some i =>
    have hi := toNat_of_validSlot hvalid
    rw [hf i hi]
    exact ⟨fun hC _ => hC, fun hC => hC (hi ▸ i.isLt)⟩

theorem kept_query_ofSlot (About : Field → Prop) (slot : U32) (f : Fin 2 → SlotInfo → Bool) :
    Kept current About s (s.ofSlot slot fun slot => s.query io false (f slot)) :=
  (kept_ofSlot_iff h fun _ _ => iff_of_true (kept_of_alike h (alike_query h io _ _)) trivial).mpr fun _ => trivial

theorem step_iff (input : Operation × LoaderAccess) :
    FromRecord (step current s input) ∧ Reported current s input ↔ Persists s input := by
  obtain ⟨op, io⟩ := input
  cases op with
  | init =>
    rw [kept_iff_of_bool io rfl]
    exact iff_of_true (kept_init h io) fun hsaves => hsaves.elim
  | markBootSuccessful slot =>
    rw [kept_iff_of_bool io rfl]
    refine kept_ofSlot_iff h fun i hi => (kept_modify_iff h io (change_markBootSuccessful h.valid hi)).trans ?_
    refine imp_congr_right fun _ => and_congr_right fun _ => imp_congr_right fun _ => iff_of_true ?_ trivial
    exact getActiveBootSlot_markBootSuccessful _ i
  | setActiveBootSlot slot =>
    rw [kept_iff_of_bool io rfl]
    refine kept_ofSlot_iff h fun i hi => (kept_modify_iff h io (change_setActiveBootSlot h.valid hi current)).trans ?_
    refine imp_congr_right fun _ => and_congr_right fun _ => imp_congr_right fun _ => ?_
    have hslot : BitVec.ofNat 32 i.val = slot := by rw [← hi, BitVec.ofNat_toNat, BitVec.setWidth_eq]
    rw [getActiveBootSlot_setActiveBootSlot, hslot]
    exact eq_comm
  | setSlotAsUnbootable slot =>
    rw [kept_iff_of_bool io rfl]
    refine kept_ofSlot_iff h fun i hi => (kept_modify_iff h io (change_setSlotAsUnbootable h.valid hi)).trans ?_
    refine imp_congr_right fun _ => and_congr_right fun _ => imp_congr_right fun _ => ?_
    have hzero : slot = 0 ↔ i = 0 := by
      rw [← BitVec.toNat_inj, hi, Fin.ext_iff]
      rfl
    rw [getActiveBootSlot_setSlotAsUnbootable, KeepsActive]
    simp only [hzero]
    exact eq_comm
  | isSlotBootable slot =>
    rw [kept_iff_of_bool io rfl]
    exact iff_of_true (kept_query_ofSlot h io _ slot _) fun hsaves => hsaves.elim
  | isSlotMarkedSuccessful slot =>
    rw [kept_iff_of_bool io rfl]
    exact iff_of_true (kept_query_ofSlot h io _ slot _) fun hsaves => hsaves.elim
  | setSnapshotMergeStatus status =>
    rw [kept_iff_of_bool io rfl]
    refine (kept_modify_iff h io (change_setSnapshotMergeStatus h.valid status)).trans ?_
    constructor
    · intro hsame _ hread
      exact ⟨(hsame hread).1, fun _ => trivial⟩
    · intro hsame hread
      exact ⟨(hsame trivial hread).1, fun _ => getActiveBootSlot_congr rfl⟩
  | getSnapshotMergeStatus =>
    have hrecord : FromRecord (s.getSnapshotMergeStatus io).2 :=
      (@kept_of_alike current (fun _ => False) s h (true, (s.getSnapshotMergeStatus io).2)
        (alike_query h io _ _)).fromRecord
    refine iff_of_true ⟨hrecord, ?_, ?_⟩ fun hsaves => hsaves.elim
    · intro hb
      cases hb
    · intro hb
      cases hb
  | getActiveBootSlot =>
    refine iff_of_true ⟨h, ?_, ?_⟩ fun hsaves => hsaves.elim
    · intro hb
      cases hb
    · intro hb
      cases hb

end

/-- Along a run from a valid record, failed operations leave the record and all later answers, successful
ones only change the fields they are about, and the active slot is the record's, exactly if this slot is
the record's at the start and every step persists. -/
theorem persisted_run_iff (current : Option (Fin 2)) {s : HalState} (hvalid : verifySlot s.record)
    (inputs : List (Operation × LoaderAccess)) :
    Throughout (step current) FromRecord s inputs ∧ EachStep (step current) (Reported current) s inputs ↔
      getActiveBootSlot s.exbc = getActiveBootSlot (decode s.record) ∧ EachStep (step current) Persists s inputs := by
  have hstep : ∀ s input, FromRecord s →
      (FromRecord (step current s input) ∧ Reported current s input ↔ Persists s input) :=
    fun _ input hs => step_iff hs input
  constructor
  · rintro ⟨hthroughout, heach⟩
    have hstart := hthroughout.start
    exact ⟨hstart.active, (throughout_and_eachStep_iff hstep hstart).mp ⟨hthroughout, heach⟩⟩
  · rintro ⟨hact, heach⟩
    exact (throughout_and_eachStep_iff hstep ⟨hvalid, hact⟩).mpr heach

def storedData : SlotData := { encode resetSlotInfo blankData with reserved := List.replicate 10 5 }

def storedHal : HalState := ⟨resetSlotInfo, true, storedData, storedData⟩

def storedAccess (writeOk : Bool) (stack : SlotData) : LoaderAccess := ⟨⟨true, true, writeOk, stack, stack⟩, stack⟩

theorem setActive_persisted :
    Throughout (step (some 0)) FromRecord storedHal [(.setActiveBootSlot 1, storedAccess true storedData)] ∧
      EachStep (step (some 0)) (Reported (some 0)) storedHal [(.setActiveBootSlot 1, storedAccess true storedData)] :=
  (persisted_run_iff (some 0) (by decide) [(.setActiveBootSlot 1, storedAccess true storedData)]).mpr
    ⟨by decide, ⟨fun _ _ => ⟨fun _ _ _ => rfl, nofun⟩, trivial⟩⟩

theorem failedSave_answered : verifySlot storedHal.record ∧
      answers (some 0) storedHal [(.setActiveBootSlot 1, storedAccess false storedData), (.getActiveBootSlot,
        storedAccess true storedData)] = [.bool false, .slot 1] ∧
      (perform (some 0) storedHal (.markBootSuccessful 0, storedAccess true blankData)).1 = .bool true ∧
      ¬Throughout (step (some 0)) FromRecord storedHal [(.setActiveBootSlot 1, storedAccess false storedData)] ∧
      ¬Reported (some 0) storedHal (.setActiveBootSlot 1, storedAccess false storedData) ∧
      ¬Reported (some 0) storedHal (.markBootSuccessful 0, storedAccess true blankData) := by
  refine ⟨by decide, by decide, by decide, ?_, ?_, ?_⟩
  · intro hthroughout
    have hact := hthroughout.2.active
    exact absurd hact (by decide)
  · intro hrep
    have hlater := (hrep.failed (by decide)).2 [(.getActiveBootSlot, storedAccess true storedData)]
    exact absurd hlater (by decide)
  · intro hrep
    have hreserved := hrep.done (by decide) .reserved not_false
    exact absurd hreserved (by decide)

end ExynosHal.Boot.PersistedRecord
