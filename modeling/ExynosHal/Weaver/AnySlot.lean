import ExynosHal.Weaver.Bookkeeping

/-! # Weaver calls with any slot

The slot of a call has 32 bits, its number in the message has 8, and the throttle list has 16 entries.
-/

namespace ExynosHal.Weaver.AnySlot
open Library.BitString Hwctl Device
open BitVec (ofNat toNat_setWidth)
open Bookkeeping (toNat_size freshState sampleKey replyTo)

/-- The device, and the memory behind its list by the index that reaches it. -/
structure Memory where
  device : WeaverState
  behind : Nat → Byte

def Memory.entry (m : Memory) (slotId : U32) : Byte :=
  if h : slotId.toNat < 16 then m.device.list.get ⟨slotId.toNat, h⟩ else m.behind slotId.toNat

def Memory.setEntry (m : Memory) (slotId : U32) (entry : Byte) : Memory :=
  if h : slotId.toNat < 16 then
    { m with device := { m.device with list := m.device.list.set slotId.toNat entry h } }
  else { m with behind := Function.update m.behind slotId.toNat entry }

structure Effects where
  sent : List Message
  indexed : List U32
  copied : Nat

def isSlotIdThrottle (m : Memory) (slotId : U32) : Bool := m.entry slotId ≠ 0

def sspReadTransact (slotId : U32) (invocation : Invocation) (m : Memory) : Bool × List U32 × Memory :=
  let m := if isSlotIdThrottle m slotId then m else { m with device := m.device.enable }
  if invocation.success then (true, [slotId], m)
  else if isSlotIdThrottle m slotId then (false, [slotId, slotId], m)
  else (false, [slotId, slotId], { m with device := m.device.disable })

def readEnd (slotId : U32) (msg : Message) (m : Memory) : ReadResponse × Nat × Memory :=
  if msg.readStatus = weaverReadThrottle then
    let m := m.setEntry slotId 1
    (⟨msg.readStatus, msg.throttle, []⟩, 0, { m with device := saveThList m.device })
  else
    let value := if msg.readStatus = weaverReadOk then msg.value.take msg.valueSize.toNat else []
    let copied := if msg.readStatus = weaverReadOk then msg.valueSize.toNat else 0
    let m := m.setEntry slotId 0
    (⟨msg.readStatus, 0, value⟩, copied, { m with device := saveThList m.device.disable })

def readRequest (slotId : U32) (key : List Byte) : Message := { Message.zero with
    commandId := cmdWeaverRead
    slotId := slotId.setWidth 8
    key := key
    keySize := ofNat 8 key.length }

def read (slotId : U32) (key : List Byte) (invocation : Invocation) (m : Memory) :
    Option ReadResponse × Effects × Memory :=
  match isKeyVaild key.length with
  | .error _ => (none, ⟨[], [], 0⟩, m)
  | .ok _ =>
    match validateIpcReqMessage (readRequest slotId key) with
    | .error _ =>
      let (response, copied, m) := readEnd slotId (readRequest slotId key) m
      (some response, ⟨[], [slotId], copied⟩, m)
    | .ok _ =>
      let (_, indexed, m) := sspReadTransact slotId invocation m
      let (response, copied, m) := readEnd slotId invocation.message m
      (some response, ⟨[readRequest slotId key], indexed ++ [slotId], copied⟩, m)

def writeRequest (slotId : U32) (key value : List Byte) : Message := { Message.zero with
    commandId := cmdWeaverWrite
    slotId := slotId.setWidth 8
    key := key
    keySize := ofNat 8 key.length
    value := value
    valueSize := ofNat 8 value.length }

def write (slotId : U32) (key value : List Byte) (invocation : Invocation) (m : Memory) :
    Byte × Effects × Memory :=
  match (do
      isKeyVaild key.length; isValueVaild value.length; validateIpcReqMessage (writeRequest slotId key value)) with
  | .error _ => (weaverStatusFailed, ⟨[], [], 0⟩, m)
  | .ok _ =>
    let effects : Effects := ⟨[writeRequest slotId key value], [], 0⟩
    let (success, device) := sspTransact invocation m.device
    let m := { m with device := device }
    if success then
      match checkReply invocation.message with
      | .error _ => (weaverStatusFailed, effects, m)
      | .ok _ => (invocation.message.status, { effects with indexed := [slotId] }, m.setEntry slotId 0)
    else (weaverStatusFailed, effects, m)

variable (slotId : Fin 16)

def KeyVaild (key : List Byte) : Prop := minKeySize ≤ key.length ∧ key.length ≤ maxKeySize

def ValueVaild (value : List Byte) : Prop := minValueSize ≤ value.length ∧ value.length ≤ maxValueSize

def narrowed (slotId : U32) : Nat := slotId.toNat % 256

theorem expect_inside (low high n : Nat) (e : WeaverError) :
    expect e (low ≤ n && n ≤ high) = .ok () ∧ (low ≤ n ∧ n ≤ high) ∨
      expect e (low ≤ n && n ≤ high) = .error e ∧ ¬(low ≤ n ∧ n ≤ high) := by
  have hiff : (low ≤ n && n ≤ high) ↔ low ≤ n ∧ n ≤ high := by
    rw [Bool.and_eq_true, decide_eq_true_iff, decide_eq_true_iff]
  rw [expect]
  split_ifs with h
  · exact .inl ⟨rfl, hiff.mp h⟩
  · exact .inr ⟨rfl, fun hinside => h (hiff.mpr hinside)⟩

theorem isKeyVaild_eq (key : List Byte) :
    isKeyVaild key.length = .ok () ∧ KeyVaild key ∨ isKeyVaild key.length = .error .invaildKeySize ∧ ¬KeyVaild key :=
  expect_inside minKeySize maxKeySize key.length .invaildKeySize

theorem isValueVaild_eq (value : List Byte) : isValueVaild value.length = .ok () ∧ ValueVaild value ∨
      isValueVaild value.length = .error .invaildValueSize ∧ ¬ValueVaild value :=
  expect_inside minValueSize maxValueSize value.length .invaildValueSize

variable {key : List Byte}

theorem validate_readRequest (slotId : U32) (hkey : KeyVaild key) : validateIpcReqMessage (readRequest slotId key) =
      if narrowed slotId ≤ maxSlotSize then .ok () else .error .invalidArgument := by
  have hslot : (readRequest slotId key).slotId.toNat = narrowed slotId := toNat_setWidth 8 slotId
  have hsize : (readRequest slotId key).keySize.toNat = key.length := toNat_size hkey.2
  split_ifs with h
  · exact Bookkeeping.validate_read rfl (by rwa [hslot]) (by rwa [hsize])
  · rw [validateIpcReqMessage, hslot]
    simp only [h, decide_false]
    rfl

variable {value : List Byte}

theorem validate_writeRequest (slotId : U32) (hkey : KeyVaild key) (hval : ValueVaild value) :
    validateIpcReqMessage (writeRequest slotId key value) =
      if narrowed slotId < maxSlotSize then .ok () else .error .invalidArgument := by
  have hslot : (writeRequest slotId key value).slotId.toNat = narrowed slotId := toNat_setWidth 8 slotId
  have hsize : (writeRequest slotId key value).keySize.toNat = key.length := toNat_size hkey.2
  have hvalSize : (writeRequest slotId key value).valueSize.toNat = value.length := toNat_size hval.2
  split_ifs with h
  · exact Bookkeeping.validate_write rfl (by rwa [hslot]) (by rwa [hsize]) (by rwa [hvalSize])
  · rw [validateIpcReqMessage, hslot]
    simp only [h, decide_false]
    rfl

theorem readEnd_answer (slotId : U32) (msg : Message) (m : Memory) : (readEnd slotId msg m).1.status = msg.readStatus ∧
      (readEnd slotId msg m).1.value =
        (if msg.readStatus = weaverReadOk then msg.value.take msg.valueSize.toNat else []) ∧
      (readEnd slotId msg m).2.1 = if msg.readStatus = weaverReadOk then msg.valueSize.toNat else 0 := by
  rw [readEnd]
  split_ifs with hthrottle hok hok
  · rw [hthrottle] at hok
    exact absurd hok (by decide)
  · exact ⟨rfl, rfl, rfl⟩
  · exact ⟨rfl, rfl, rfl⟩
  · exact ⟨rfl, rfl, rfl⟩

/-- The message that a read ends with: the request if it is rejected here, the buffer otherwise. -/
def finalMessage (slotId : U32) (key : List Byte) (invocation : Invocation) : Message :=
  if narrowed slotId ≤ maxSlotSize then invocation.message else readRequest slotId key

theorem read_invaild (h : ¬KeyVaild key) (slotId : U32) (invocation : Invocation) (m : Memory) :
    read slotId key invocation m = (none, ⟨[], [], 0⟩, m) := by
  rcases isKeyVaild_eq key with ⟨-, hkey⟩ | ⟨hsize, -⟩
  · exact absurd hkey h
  · rw [read, hsize]

theorem read_vaild (h : KeyVaild key) (slotId : U32) (invocation : Invocation) (m : Memory) : ∃ indexed before,
      (∀ i ∈ indexed, i = slotId) ∧ slotId ∈ indexed ∧
        let ended := readEnd slotId (finalMessage slotId key invocation) before
        read slotId key invocation m = (some ended.1,
            ⟨if narrowed slotId ≤ maxSlotSize then [readRequest slotId key] else [], indexed, ended.2.1⟩,
            ended.2.2) := by
  rcases isKeyVaild_eq key with ⟨hsize, -⟩ | ⟨-, hkey⟩
  · rw [read, hsize]
    dsimp only
    rw [validate_readRequest slotId h, finalMessage]
    split_ifs with hslot
    · refine ⟨(sspReadTransact slotId invocation m).2.1 ++ [slotId], (sspReadTransact slotId invocation m).2.2, ?_, ?_,
        rfl⟩
      · have hindexed : ∀ i ∈ (sspReadTransact slotId invocation m).2.1, i = slotId := by
          simp only [sspReadTransact]
          split_ifs <;> simp
        exact List.forall_mem_append.mpr ⟨hindexed, List.forall_mem_singleton.mpr rfl⟩
      · exact List.mem_append_right _ List.mem_cons_self
    · exact ⟨[slotId], m, List.forall_mem_singleton.mpr rfl, List.mem_cons_self, rfl⟩
  · exact absurd h hkey

structure Replied (effects : Effects) (invocation : Invocation) : Prop where
  sent : effects.sent ≠ []
  success : invocation.success
  errcode : invocation.message.weaverErrcode = 0
  status : invocation.message.readStatus = weaverReadOk
  size : minValueSize ≤ invocation.message.valueSize.toNat ∧ invocation.message.valueSize.toNat ≤ maxValueSize

/-- A value is reported only if it was answered, and then this value. -/
structure Truthful (r : Option ReadResponse × Effects × Memory) (invocation : Invocation) : Prop where
  ok : ∀ response, r.1 = some response → response.status = weaverReadOk →
    Replied r.2.1 invocation ∧ response.value = invocation.message.value.take invocation.message.valueSize.toNat
  other : ¬Replied r.2.1 invocation → (∀ response, r.1 = some response → response.status ≠ weaverReadOk ∧
    response.value = []) ∧ r.2.1.copied = 0

/-- A read of a valid key is truthful exactly if the request passes the check and the buffer, where it
says that the read is good, has a good answer. -/
theorem read_truthful_iff (slotId : U32) (key : List Byte) (invocation : Invocation) (m : Memory)
    (hkey : KeyVaild key) : Truthful (read slotId key invocation m) invocation ↔
      narrowed slotId ≤ maxSlotSize ∧ (invocation.message.readStatus = weaverReadOk →
        invocation.success ∧ invocation.message.weaverErrcode = 0 ∧
          minValueSize ≤ invocation.message.valueSize.toNat ∧ invocation.message.valueSize.toNat ≤ maxValueSize) := by
  obtain ⟨indexed, before, -, -, hread⟩ := read_vaild hkey slotId invocation m
  obtain ⟨hstat, hval, hcopied⟩ := readEnd_answer slotId (finalMessage slotId key invocation) before
  rw [hread]
  rw [finalMessage] at hstat hval hcopied
  constructor
  · intro htruthful
    have hslot : narrowed slotId ≤ maxSlotSize := by
      by_contra hrejected
      rw [if_neg hrejected] at hstat
      obtain ⟨hreplied, -⟩ := htruthful.ok _ rfl (by rw [finalMessage, if_neg hrejected, hstat]; rfl)
      exact hreplied.sent (if_neg hrejected)
    refine ⟨hslot, fun hok => ?_⟩
    rw [if_pos hslot] at hstat
    obtain ⟨hreplied, -⟩ := htruthful.ok _ rfl (by rw [finalMessage, if_pos hslot, hstat, hok])
    exact ⟨hreplied.success, hreplied.errcode, hreplied.size⟩
  · rintro ⟨hslot, hgood⟩
    rw [if_pos hslot] at hstat hval hcopied
    rw [finalMessage, if_pos hslot, if_pos hslot]
    have hreplied : invocation.message.readStatus = weaverReadOk →
        Replied ⟨[readRequest slotId key], indexed, (readEnd slotId invocation.message before).2.1⟩ invocation := by
      intro hok
      obtain ⟨hsuccess, herrcode, hsize⟩ := hgood hok
      exact ⟨List.cons_ne_nil _ _, hsuccess, herrcode, hok, hsize⟩
    constructor
    · rintro _ ⟨⟩ hok
      rw [hstat] at hok
      rw [if_pos hok] at hval
      exact ⟨hreplied hok, hval⟩
    · intro hnot
      have hne : invocation.message.readStatus ≠ weaverReadOk := fun hok => hnot (hreplied hok)
      rw [if_neg hne] at hval hcopied
      refine ⟨?_, hcopied⟩
      rintro _ ⟨⟩
      exact ⟨by rwa [hstat], hval⟩

/-- What is sent and indexed is the slot that was asked for; a call without such a slot fails. -/
structure Addressed (slotId : U32) (failed : Prop) (effects : Effects) (m m' : Memory) : Prop where
  sent : ∀ msg ∈ effects.sent, slotId.toNat < maxSlotSize ∧ msg.slotId.toNat = slotId.toNat
  indexed : ∀ i ∈ effects.indexed, i.toNat < maxSlotSize
  copied : effects.copied ≤ maxValueSize
  outside : maxSlotSize ≤ slotId.toNat →
    failed ∧ m'.device.list = m.device.list ∧ m'.device.refcount = m.device.refcount

def ReadFailed (response : Option ReadResponse) : Prop := ∀ r, response = some r → r.status ≠ weaverReadOk

def weaverStatusOk : Byte := 0#8

theorem narrowed_eq {slotId : U32} (h : slotId.toNat < maxSlotSize) : narrowed slotId = slotId.toNat :=
  Nat.mod_eq_of_lt (h.trans (by decide))

theorem narrowed_le {slotId : U32} (h : slotId.toNat < maxSlotSize) : narrowed slotId ≤ maxSlotSize := by
  rw [narrowed_eq h]
  exact h.le

theorem read_addressed_iff (slotId : U32) (key : List Byte) (invocation : Invocation) (m : Memory) :
    let r := read slotId key invocation m
    Addressed slotId (ReadFailed r.1) r.2.1 m r.2.2 ↔ (KeyVaild key → slotId.toNat < maxSlotSize ∧
        (invocation.message.readStatus = weaverReadOk → invocation.message.valueSize.toNat ≤ maxValueSize)) := by
  rcases isKeyVaild_eq key with ⟨-, hkey⟩ | ⟨-, hkey⟩
  · obtain ⟨indexed, before, hindexed, hmem, hread⟩ := read_vaild hkey slotId invocation m
    obtain ⟨-, -, hcopied⟩ := readEnd_answer slotId (finalMessage slotId key invocation) before
    dsimp only
    rw [hread]
    constructor
    · intro h _
      have hslot := h.indexed slotId hmem
      refine ⟨hslot, fun hok => ?_⟩
      have hle := h.copied
      rw [hcopied, finalMessage, if_pos (narrowed_le hslot), if_pos hok] at hle
      exact hle
    · intro h
      obtain ⟨hslot, hsize⟩ := h hkey
      rw [finalMessage, if_pos (narrowed_le hslot)] at hcopied ⊢
      rw [if_pos (narrowed_le hslot)]
      refine ⟨?_, ?_, ?_, fun hout => absurd hslot (Nat.not_lt.mpr hout)⟩
      · exact List.forall_mem_singleton.mpr ⟨hslot, (toNat_setWidth 8 slotId).trans (narrowed_eq hslot)⟩
      · intro i hi
        rwa [hindexed i hi]
      · dsimp only
        rw [hcopied]
        split_ifs with hok
        · exact hsize hok
        · exact Nat.zero_le _
  · dsimp only
    rw [read_invaild hkey]
    refine iff_of_true ⟨?_, ?_, Nat.zero_le _, ?_⟩ fun h => absurd h hkey
    · exact List.forall_mem_nil _
    · exact List.forall_mem_nil _
    · intro _
      refine ⟨?_, rfl, rfl⟩
      rintro r ⟨⟩

theorem write_invaild (h : ¬(KeyVaild key ∧ ValueVaild value)) (slotId : U32)
    (invocation : Invocation) (m : Memory) :
    write slotId key value invocation m = (weaverStatusFailed, ⟨[], [], 0⟩, m) := by
  rcases isKeyVaild_eq key with ⟨hkeySize, hkey⟩ | ⟨hkeySize, -⟩
  · rcases isValueVaild_eq value with ⟨-, hval⟩ | ⟨hvalSize, -⟩
    · exact absurd ⟨hkey, hval⟩ h
    · rw [write, hkeySize, hvalSize]
      rfl
  · rw [write, hkeySize]
    rfl

theorem write_vaild (hkey : KeyVaild key) (hval : ValueVaild value) (slotId : U32)
    (invocation : Invocation) (m : Memory) :
    (¬narrowed slotId < maxSlotSize ∧ write slotId key value invocation m = (weaverStatusFailed, ⟨[], [], 0⟩, m)) ∨
      narrowed slotId < maxSlotSize ∧ (write slotId key value invocation m).2.1.sent = [writeRequest slotId key value] ∧
        (∀ i ∈ (write slotId key value invocation m).2.1.indexed, i = slotId) ∧
        (write slotId key value invocation m).2.1.copied = 0 := by
  rcases isKeyVaild_eq key with ⟨hkeySize, -⟩ | ⟨-, hno⟩
  · rcases isValueVaild_eq value with ⟨hvalSize, -⟩ | ⟨-, hno⟩
    · rw [write, hkeySize, hvalSize, validate_writeRequest slotId hkey hval]
      split_ifs with hslot
      · refine .inr ⟨hslot, ?_⟩
        dsimp only [bind, Except.bind, sspTransact]
        cases invocation.success with
        | false => exact ⟨rfl, List.forall_mem_nil _, rfl⟩
        | true =>
          cases checkReply invocation.message with
          | error e => exact ⟨rfl, List.forall_mem_nil _, rfl⟩
          | ok _ => exact ⟨rfl, List.forall_mem_singleton.mpr rfl, rfl⟩
      · exact .inl ⟨hslot, rfl⟩
    · exact absurd hval hno
  · exact absurd hkey hno

theorem write_addressed_iff (slotId : U32) (key value : List Byte) (invocation : Invocation) (m : Memory) :
    let r := write slotId key value invocation m
    Addressed slotId (r.1 ≠ weaverStatusOk) r.2.1 m r.2.2 ↔
      (KeyVaild key → ValueVaild value → slotId.toNat < maxSlotSize ∨ maxSlotSize ≤ narrowed slotId) := by
  have hfailed : weaverStatusFailed ≠ weaverStatusOk := by decide
  have hrejected : ∀ failed : Prop, failed → Addressed slotId failed ⟨[], [], 0⟩ m m := by
    intro failed h
    exact ⟨List.forall_mem_nil _, List.forall_mem_nil _, Nat.zero_le _, fun _ => ⟨h, rfl, rfl⟩⟩
  dsimp only
  rcases Classical.em (KeyVaild key ∧ ValueVaild value) with ⟨hkey, hval⟩ | hinvaild
  · rcases write_vaild hkey hval slotId invocation m with ⟨hslot, hwrite⟩ | ⟨hslot, hsent, hindexed, hcopied⟩
    · rw [hwrite]
      exact iff_of_true (hrejected _ hfailed) fun _ _ => .inr (Nat.not_lt.mp hslot)
    · constructor
      · intro h _ _
        have hmsg := h.sent (writeRequest slotId key value)
        rw [hsent] at hmsg
        exact .inl (hmsg List.mem_cons_self).1
      · intro h
        rcases h hkey hval with hlt | hge
        · refine ⟨?_, ?_, ?_, fun hout => absurd hlt (Nat.not_lt.mpr hout)⟩
          · rw [hsent]
            exact List.forall_mem_singleton.mpr ⟨hlt, (toNat_setWidth 8 slotId).trans (narrowed_eq hlt)⟩
          · intro i hi
            rwa [hindexed i hi]
          · rw [hcopied]
            exact Nat.zero_le _
        · exact absurd hslot (Nat.not_lt.mpr hge)
  · rw [write_invaild hinvaild]
    exact iff_of_true (hrejected _ hfailed) fun hkey hval => absurd ⟨hkey, hval⟩ hinvaild

/-- Slots are addressed exactly by a read of a slot below 16 whose answer has at most 32 bytes, and by
a write of a slot below 16 or of one whose low byte is not below 16 either. -/
theorem addressed_iff (slotId : U32) (key value : List Byte) (invocation : Invocation) (m : Memory) :
    let r := read slotId key invocation m
    let w := write slotId key value invocation m
    (Addressed slotId (ReadFailed r.1) r.2.1 m r.2.2 ↔ (KeyVaild key → slotId.toNat < maxSlotSize ∧
        (invocation.message.readStatus = weaverReadOk → invocation.message.valueSize.toNat ≤ maxValueSize))) ∧
    (Addressed slotId (w.1 ≠ weaverStatusOk) w.2.1 m w.2.2 ↔
      (KeyVaild key → ValueVaild value → slotId.toNat < maxSlotSize ∨ maxSlotSize ≤ narrowed slotId)) :=
  ⟨read_addressed_iff slotId key invocation m, write_addressed_iff slotId key value invocation m⟩

def freshMemory : Memory := ⟨freshState, fun _ => 0⟩

/-- Slot 256 is sent as slot 0, and the list is indexed with 256. -/
theorem slot256_sent :
    let r := read 256#32 sampleKey (replyTo cmdWeaverRead weaverReadThrottle) freshMemory
    let w := write 256#32 sampleKey sampleKey
      (replyTo cmdWeaverWrite weaverReadOk) freshMemory
    (r.2.1.sent.map (fun msg => msg.slotId) = [0#8] ∧ 256#32 ∈ r.2.1.indexed ∧
      ¬Addressed 256#32 (ReadFailed r.1) r.2.1 freshMemory r.2.2) ∧
    w.2.1.sent.map (fun msg => msg.slotId) = [0#8] ∧
      ¬Addressed 256#32 (w.1 ≠ weaverStatusOk) w.2.1 freshMemory w.2.2 := by
  refine ⟨⟨by decide, by decide, ?_⟩, by decide, ?_⟩
  · intro h
    have hindexed := h.indexed 256#32 (by decide)
    exact absurd hindexed (by decide)
  · intro h
    have hsent := h.sent (writeRequest 256#32 sampleKey sampleKey) (by decide)
    exact absurd hsent.1 (by decide)

/-- A read of slot 17 is not sent, and reports success. -/
theorem slot17_success :
    (read 17#32 sampleKey ⟨false, Message.zero⟩ freshMemory).1 = some ⟨weaverReadOk, 0, []⟩ ∧
      ¬Truthful (read 17#32 sampleKey ⟨false, Message.zero⟩ freshMemory) ⟨false, Message.zero⟩ := by
  have hresponse : (read 17#32 sampleKey ⟨false, Message.zero⟩ freshMemory).1 =
      some ⟨weaverReadOk, 0, []⟩ := by decide
  refine ⟨hresponse, ?_⟩
  intro htruthful
  obtain ⟨hreplied, -⟩ := htruthful.ok _ hresponse rfl
  exact absurd hreplied.success (by decide)

def valueReply : Invocation := ⟨true, { Message.zero with
    commandId := cmdWeaverRead
    value := List.replicate 32 7#8
    valueSize := 16#8 }⟩

theorem slot0_truthful : Truthful (read 0#32 sampleKey valueReply freshMemory) valueReply :=
  (read_truthful_iff 0#32 sampleKey valueReply freshMemory ⟨by decide, by decide⟩).mpr
    ⟨by decide, fun _ => ⟨rfl, rfl, by decide, by decide⟩⟩

end ExynosHal.Weaver.AnySlot
