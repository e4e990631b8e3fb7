import ExynosHal.Library.Run
import ExynosHal.Library.Tally
import ExynosHal.Weaver.Device

/-! # Power count and throttle list of the weaver

The count should be the number of slots with throttle, and the file the list.
-/

namespace ExynosHal.Weaver.Bookkeeping
open Library Library.BitString Library.Run Hwctl Device
open BitVec (ofNat)

def throttled (list : ThrottleList) : Nat := list.countP fun entry => entry ≠ 0

structure Balanced (s : WeaverState) : Prop where
  power : s.refcount = throttled s.list
  saved : s.file = some s.list.toList

theorem throttled_set (list : ThrottleList) (slotId : Fin 16) (entry : Byte) :
    throttled (list.set slotId.val entry slotId.isLt) + (if list.get slotId ≠ 0 then 1 else 0) =
      throttled list + if entry ≠ 0 then 1 else 0 := by
  have hset := Tally.countP_set_add (fun entry : Byte => decide (entry ≠ 0)) list slotId entry
  simpa only [throttled, decide_eq_true_eq] using hset

variable (s : WeaverState)

theorem throttled_on (slotId : Fin 16) :
    throttled (slotThrottleOn s slotId).list + (if isSlotIdThrottle s slotId then 1 else 0) = throttled s.list + 1 := by
  have hset := throttled_set s.list slotId 1
  rw [if_pos (by decide : (1 : Byte) ≠ 0)] at hset
  simpa only [isSlotIdThrottle, slotThrottleOn, decide_eq_true_eq] using hset

theorem throttled_off (slotId : Fin 16) :
    throttled (slotThrottleOff s slotId).list + (if isSlotIdThrottle s slotId then 1 else 0) = throttled s.list := by
  have hset := throttled_set s.list slotId 0
  rw [if_neg (not_not.mpr rfl), Nat.add_zero] at hset
  simpa only [isSlotIdThrottle, slotThrottleOff, decide_eq_true_eq] using hset

theorem balanced_saveThList_iff : Balanced (saveThList s) ↔ s.refcount = throttled s.list :=
  ⟨fun h => h.power, fun h => ⟨h, rfl⟩⟩

theorem throttleCheck_saveThList : throttleCheck (saveThList s) = (throttled s.list, saveThList s) := by
  have hlen : s.list.toList.length = 16 := Vector.length_toList
  have hcopy : (Vector.ofFn fun i : Fin 16 => s.list.toList.getD i (s.list.get i)) = s.list := by
    ext i hi
    rw [Vector.getElem_ofFn, List.getD_eq_getElem _ _ (by rw [hlen]; exact hi), Vector.getElem_toList]
  rw [throttleCheck, saveThList]
  dsimp only
  rw [hlen, if_pos (by decide), hcopy]
  rfl

theorem iterate_enable (count : Nat) (s : WeaverState) :
    WeaverState.enable^[count] s = { s with refcount := s.refcount + count } := by
  induction count generalizing s with
  | zero => simp
  | succ count ih =>
    rw [Function.iterate_succ_apply, ih, WeaverState.enable, sspHwctlEnable]
    simp only [WeaverState.mk.injEq, true_and, and_true]
    omega

theorem enable_disable (h : 0 ≤ s.refcount) : s.enable.disable = s := by
  rw [WeaverState.enable, WeaverState.disable, disable_enable h]

theorem balanced_weaverInitIpc {invocation : Invocation} {s s' : WeaverState} (hrefs : s.refcount = 0)
    (h : weaverInitIpc invocation s = (.ok (), s')) : Balanced s' := by
  have hzero : (throttleCheck s).2.refcount = 0 := hrefs
  rw [weaverInitIpc] at h
  generalize (throttleCheck s).2 = t at h hzero
  dsimp only at h
  split at h
  · cases h
  · rw [sspTransact, enable_disable t (by rw [hzero])] at h
    split at h
    · cases h
    · rename_i u htransact
      obtain ⟨-, rfl⟩ := Prod.mk.inj htransact
      split at h
      · cases h
      · rw [throttleCheck_saveThList] at h
        dsimp only at h
        rw [iterate_enable] at h
        cases h
        refine ⟨?_, rfl⟩
        change t.refcount + _ = _
        rw [hzero, zero_add]
        rfl

def Harmless (s : WeaverState) : Call → Prop
  | .getConfig _ => True
  | .read slotId _ invocation =>
    invocation.success ∨ isSlotIdThrottle s slotId ∨ s.refcount = 0 ∧ invocation.message.readStatus ≠ weaverReadThrottle
  | .write slotId _ _ invocation =>
    ¬(invocation.success ∧ checkReply invocation.message = .ok () ∧ isSlotIdThrottle s slotId)

def ValidCall : Call → Prop
  | .getConfig _ => True
  | .read _ key _ => minKeySize ≤ key.length ∧ key.length ≤ maxKeySize
  | .write _ key value _ =>
    (minKeySize ≤ key.length ∧ key.length ≤ maxKeySize) ∧ minValueSize ≤ value.length ∧ value.length ≤ maxValueSize

theorem Balanced.nonneg {s : WeaverState} (h : Balanced s) : 0 ≤ s.refcount := by
  rw [h.power]
  exact Int.natCast_nonneg _

variable (invocation : Invocation)

theorem getConfig_state (s : WeaverState) (h : 0 ≤ s.refcount) : (getConfig invocation s).2 = s := by
  rw [getConfig]
  split_ifs
  · rw [sspTransact, enable_disable s h]
    cases invocation.success <;> cases checkReply invocation.message <;> rfl
  · rfl

def readRefcount (s : WeaverState) (slotId : Fin 16) (invocation : Invocation) : Int :=
  if isSlotIdThrottle s slotId = false ∧ invocation.success then s.refcount + 1 else s.refcount

variable (slotId : Fin 16)

theorem sspReadTransact_state (s : WeaverState) (h : 0 ≤ s.refcount) :
    (sspReadTransact slotId invocation s).2 = { s with refcount := readRefcount s slotId invocation } := by
  rw [sspReadTransact, readRefcount]
  cases hthrottle : isSlotIdThrottle s slotId with
  | true =>
    rw [if_pos rfl, hthrottle]
    cases invocation.success <;> rfl
  | false =>
    have henabled : isSlotIdThrottle s.enable slotId = false := hthrottle
    change (if invocation.success then (true, s.enable)
      else if isSlotIdThrottle s.enable slotId then (false, s.enable) else (false, s.enable.disable)).2 = _
    rw [henabled, enable_disable s h]
    cases invocation.success <;> rfl

theorem expect_ok {error : WeaverError} {condition : Bool} (h : condition) : expect error condition = .ok () :=
  if_pos h

theorem validate_read {msg : Message} (hid : msg.commandId = cmdWeaverRead) (hslot : msg.slotId.toNat ≤ maxSlotSize)
    (hkey : minKeySize ≤ msg.keySize.toNat ∧ msg.keySize.toNat ≤ maxKeySize) :
    validateIpcReqMessage msg = .ok () := by
  rw [validateIpcReqMessage, hid, if_neg (by decide), if_neg (by decide), if_pos rfl, expect_ok (decide_eq_true hslot),
    expect_ok (by simpa [and_comm] using hkey)]
  rfl

theorem validate_write {msg : Message} (hid : msg.commandId = cmdWeaverWrite) (hslot : msg.slotId.toNat < maxSlotSize)
    (hkey : minKeySize ≤ msg.keySize.toNat ∧ msg.keySize.toNat ≤ maxKeySize)
    (hval : minValueSize ≤ msg.valueSize.toNat ∧ msg.valueSize.toNat ≤ maxValueSize) :
    validateIpcReqMessage msg = .ok () := by
  rw [validateIpcReqMessage, hid, if_neg (by decide), if_neg (by decide), if_neg (by decide), if_pos rfl,
    expect_ok (decide_eq_true hslot), expect_ok (by simpa [and_comm] using hkey),
    expect_ok (by simpa [and_comm] using hval)]
  rfl

theorem toNat_size {size : Nat} (h : size ≤ 32) : (ofNat 8 size).toNat = size :=
  Nat.mod_eq_of_lt (lt_of_le_of_lt h (by decide))

theorem read_state {key : List Byte} (s : WeaverState) (hkey : minKeySize ≤ key.length ∧ key.length ≤ maxKeySize) :
    (Device.read slotId key invocation s).2 =
      (readEnd slotId invocation.message (sspReadTransact slotId invocation s).2).2 := by
  have hslotId := slotId.isLt
  have hvaild : isKeyVaild key.length = .ok () := expect_ok (by simpa using hkey)
  have hreq : validateIpcReqMessage (readRequest slotId key) = .ok () := by
    refine validate_read rfl ?_ ?_
    · change (ofNat 8 slotId.val).toNat ≤ _
      rw [toNat_size (by omega)]
      exact Nat.le_of_lt hslotId
    · change _ ≤ (ofNat 8 key.length).toNat ∧ (ofNat 8 key.length).toNat ≤ _
      rwa [toNat_size hkey.2]
  rw [Device.read, hvaild]
  dsimp only
  rw [hreq]

variable {key value : List Byte}

theorem write_state (s : WeaverState)
    (h : 0 ≤ s.refcount) (hkey : minKeySize ≤ key.length ∧ key.length ≤ maxKeySize)
    (hval : minValueSize ≤ value.length ∧ value.length ≤ maxValueSize) :
    (write slotId key value invocation s).2 =
      if invocation.success ∧ checkReply invocation.message = .ok () then slotThrottleOff s slotId else s := by
  have hslotId := slotId.isLt
  have hkeyVaild : isKeyVaild key.length = .ok () := expect_ok (by simpa using hkey)
  have hvalVaild : isValueVaild value.length = .ok () := expect_ok (by simpa using hval)
  have hreq : validateIpcReqMessage (writeRequest slotId key value) = .ok () := by
    refine validate_write rfl ?_ ?_ ?_
    · change (ofNat 8 slotId.val).toNat < _
      rwa [toNat_size (by omega)]
    · change _ ≤ (ofNat 8 key.length).toNat ∧ (ofNat 8 key.length).toNat ≤ _
      rwa [toNat_size hkey.2]
    · change _ ≤ (ofNat 8 value.length).toNat ∧ (ofNat 8 value.length).toNat ≤ _
      rwa [toNat_size hval.2]
  rw [write, hkeyVaild, hvalVaild, hreq, sspTransact, enable_disable s h]
  dsimp only [bind, Except.bind]
  cases invocation.success with
  | false => rfl
  | true => rcases checkReply invocation.message with e | _ <;> simp

theorem readEnd_state (msg : Message) (s : WeaverState) : (readEnd slotId msg s).2 =
      saveThList (if msg.readStatus = weaverReadThrottle then slotThrottleOn s slotId
        else (slotThrottleOff s slotId).disable) := by
  rw [readEnd]
  split_ifs <;> rfl

theorem balanced_readEnd_iff (msg : Message) (s : WeaverState) (refcount : Int) :
    Balanced (readEnd slotId msg { s with refcount := refcount }).2 ↔
      if msg.readStatus = weaverReadThrottle then refcount = throttled (slotThrottleOn s slotId).list
      else sspHwctlDisable refcount = throttled (slotThrottleOff s slotId).list := by
  rw [readEnd_state, balanced_saveThList_iff]
  split_ifs <;> rfl

theorem balanced_read_iff (key : List Byte) (invocation : Invocation) {s : WeaverState} (h : Balanced s) :
    Balanced (readEnd slotId invocation.message (sspReadTransact slotId invocation s).2).2 ↔
      Harmless s (.read slotId key invocation) := by
  have hpower := h.power
  have hon := throttled_on s slotId
  have hoff := throttled_off s slotId
  rw [sspReadTransact_state invocation slotId s h.nonneg, balanced_readEnd_iff, Harmless]
  cases hthrottle : isSlotIdThrottle s slotId with
  | true =>
    rw [hthrottle, if_pos rfl] at hon hoff
    have hrefs : readRefcount s slotId invocation = s.refcount := by
      rw [readRefcount, hthrottle]
      exact if_neg fun h => Bool.noConfusion h.1
    rw [hrefs]
    refine iff_of_true ?_ (.inr (.inl rfl))
    split_ifs
    · omega
    · rw [disable_of_pos (by omega)]
      omega
  | false =>
    rw [hthrottle, if_neg (by decide)] at hon hoff
    cases hsuccess : invocation.success with
    | true =>
      have hrefs : readRefcount s slotId invocation = s.refcount + 1 := by
        rw [readRefcount, hthrottle, hsuccess]
        exact if_pos ⟨rfl, rfl⟩
      rw [hrefs]
      refine iff_of_true ?_ (.inl rfl)
      split_ifs
      · omega
      · rw [disable_of_pos (by omega)]
        omega
    | false =>
      have hrefs : readRefcount s slotId invocation = s.refcount := by
        rw [readRefcount, hsuccess]
        exact if_neg fun h => Bool.noConfusion h.2
      rw [hrefs]
      split_ifs with hstat
      · refine iff_of_false (by omega) ?_
        rintro (hfalse | hfalse | ⟨-, hne⟩)
        · cases hfalse
        · cases hfalse
        · exact hne hstat
      · constructor
        · intro hdisable
          refine .inr (.inr ⟨?_, hstat⟩)
          -- above zero the count has gone down once more than it went up
          by_contra hne
          have hpos : 0 < s.refcount := lt_of_le_of_ne h.nonneg (Ne.symm hne)
          rw [disable_of_pos hpos] at hdisable
          omega
        · rintro (hfalse | hfalse | ⟨hzero, -⟩)
          · cases hfalse
          · cases hfalse
          · rw [hzero, disable_zero]
            omega

theorem balanced_write_iff {s : WeaverState}
    (h : Balanced s) (hkey : minKeySize ≤ key.length ∧ key.length ≤ maxKeySize)
    (hval : minValueSize ≤ value.length ∧ value.length ≤ maxValueSize) :
    Balanced (write slotId key value invocation s).2 ↔ Harmless s (.write slotId key value invocation) := by
  have hpower := h.power
  have hoff := throttled_off s slotId
  rw [write_state invocation slotId s h.nonneg hkey hval, Harmless]
  split_ifs with hacc
  · constructor
    · rintro ⟨hbalanced, -⟩ ⟨-, -, hthrottle⟩
      rw [hthrottle, if_pos rfl] at hoff
      change s.refcount = _ at hbalanced
      omega
    · intro hharmless
      have hthrottle : s.list.get slotId = 0 := by
        by_contra hne
        exact hharmless ⟨hacc.1, hacc.2, decide_eq_true hne⟩
      have hsame : slotThrottleOff s slotId = s := by
        have hset : s.list.set slotId.val 0 slotId.isLt = s.list := by
          rw [← hthrottle]
          exact Vector.set_getElem_self slotId.isLt
        rw [slotThrottleOff, hset]
      rwa [hsame]
  · exact iff_of_true h fun hharmful => hacc ⟨hharmful.1, hharmful.2.1⟩

theorem balanced_step_iff (call : Call) (hvalid : ValidCall call) (h : Balanced s) :
    Balanced (step s call) ↔ Harmless s call := by
  cases call with
  | getConfig invocation =>
    refine iff_of_true ?_ trivial
    rw [step, getConfig_state invocation s h.nonneg]
    exact h
  | read slotId key invocation =>
    rw [step, read_state invocation slotId s hvalid]
    exact balanced_read_iff slotId key invocation h
  | write slotId key value invocation =>
    rw [step]
    exact balanced_write_iff invocation slotId h hvalid.1 hvalid.2

/-- From a successful start on, count and file match the list in every state just when every call
is harmless in the state it is made in. -/
theorem balanced_run_iff (invocation : Invocation) (s s' : WeaverState) (calls : List Call)
    (hrefs : s.refcount = 0) (hinit : weaverInitIpc invocation s = (.ok (), s'))
    (hvalid : ∀ call ∈ calls, ValidCall call) :
    Throughout step Balanced s' calls ↔ EachStep step Harmless s' calls :=
  throughout_iff_eachStep balanced_step_iff hvalid (balanced_weaverInitIpc hrefs hinit)

def freshState : WeaverState := ⟨Vector.replicate 16 0, 0, none, true⟩

def replyTo (commandId : U32) (readStatus : Byte) : Invocation :=
  ⟨true, { Message.zero with commandId := commandId, readStatus := readStatus }⟩

def sampleKey : List Byte := List.replicate 16 0

attribute [local instance] neZero_sixteen

def throttlingRead : Call := .read 0 sampleKey (replyTo cmdWeaverRead weaverReadThrottle)

def acceptedWrite : Call := .write 0 sampleKey sampleKey (replyTo cmdWeaverWrite weaverReadOk)

theorem balanced_run_throttlingRead :
    Throughout step Balanced (weaverInitIpc (replyTo cmdWeaverInitIpc 0) freshState).2 [throttlingRead] := by
  refine (balanced_run_iff (replyTo cmdWeaverInitIpc 0) freshState _ [throttlingRead] rfl ?_ ?_).mpr ?_
  · exact Prod.ext (by decide) rfl
  · exact List.forall_mem_singleton.mpr ⟨by decide, by decide⟩
  · exact ⟨.inl rfl, trivial⟩

/-- A throttled slot is rewritten: the list is empty, the hardware stays on, and the file still has the slot. -/
theorem acceptedWrite_unbalanced : (weaverInitIpc (replyTo cmdWeaverInitIpc 0) freshState).1 = .ok () ∧
      (∀ call ∈ [throttlingRead, acceptedWrite], ValidCall call) ∧
      ¬Throughout step Balanced (weaverInitIpc (replyTo cmdWeaverInitIpc 0) freshState).2
        [throttlingRead, acceptedWrite] := by
  refine ⟨by decide, ?_, ?_⟩
  · refine List.forall_mem_cons.mpr ⟨⟨by decide, by decide⟩, List.forall_mem_singleton.mpr ?_⟩
    exact ⟨⟨by decide, by decide⟩, by decide, by decide⟩
  · rintro ⟨-, -, hpower, -⟩
    revert hpower
    decide

end ExynosHal.Weaver.Bookkeeping
