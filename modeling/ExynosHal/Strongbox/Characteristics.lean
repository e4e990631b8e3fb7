import ExynosHal.Strongbox.Serialization

/-! # Characteristics of a key

`ssp_serializer_deserialize_characteristics` with the parameter sets that it leaves in memory: an array that
may be null, and a count. Reading an element that is not there is undefined.
-/

namespace ExynosHal.Strongbox.Characteristics
open Library.BitString Library.LittleEndian Params Serialization

/-- A `keymaster_key_param_t`; without a value the union is still zero. -/
structure Slot where
  tag : Tag
  value : Option (Value (keymasterTagGetType tag))

def Slot.zero : Slot := ⟨0, none⟩

def Slot.ofParam (param : KeyParam) : Slot := ⟨param.tag, some param.value⟩

/-- `params` is `none` for a null pointer. -/
structure ParamSet where
  params : Option (List Slot)
  length : Nat

def ParamSet.zero : ParamSet := ⟨none, 0⟩

structure KeyCharacteristics where
  hwEnforced : ParamSet
  swEnforced : ParamSet

def KeyCharacteristics.zero : KeyCharacteristics := ⟨.zero, .zero⟩

def readSlots : Nat → List Byte → List Slot × Except KmError (List Byte)
  | 0, blob => ([], .ok blob)
  | count + 1, blob =>
    match readU32 blob with
    | .error e => (List.replicate (count + 1) .zero, .error e)
    | .ok (tag, blob) =>
      match readValue (keymasterTagGetType tag) blob with
      | .error e => (⟨tag, none⟩ :: List.replicate count .zero, .error e)
      | .ok (value, blob) =>
        let (slots, result) := readSlots count blob
        (⟨tag, some value⟩ :: slots, result)

def sspSerializerDeserializeParamSet (set : ParamSet) (blob : List Byte) : ParamSet × Except KmError (List Byte) :=
  match readU32 blob with
  | .error e => (set, .error e)
  | .ok (val, blob) =>
    let set := { set with length := val.toNat }
    if val.toNat > keyparamsCountMax then (set, .error .unknownError)
    else if val.toNat = 0 then ({ set with params := none }, .ok blob)
    else
      let (slots, result) := readSlots val.toNat blob
      ({ set with params := some slots }, result)

/-- `blob.data`, where the tag says that there is one. -/
def Slot.data (slot : Slot) : Option (List Byte) :=
  match keymasterTagGetType slot.tag, slot.value with
  | some .bignum, some data => some data
  | some .bytes, some data => some data
  | _, _ => none

def keymasterFreeParamValues : Option (List Slot) → Nat → Option (List (List Byte))
  | _, 0 => some []
  | some (slot :: slots), count + 1 => do
    let freed ← keymasterFreeParamValues (some slots) count
    return slot.data.toList ++ freed
  | some [], _ + 1 => none
  | none, _ + 1 => none

def keymasterFreeParamSet (set : ParamSet) : Option (List (List Byte) × ParamSet) := do
  let freed ← keymasterFreeParamValues set.params set.length
  return (freed, .zero)

def keymasterFreeCharacteristics (c : KeyCharacteristics) : Option (List (List Byte) × KeyCharacteristics) := do
  let (freedHw, hwEnforced) ← keymasterFreeParamSet c.hwEnforced
  let (freedSw, swEnforced) ← keymasterFreeParamSet c.swEnforced
  return (freedHw ++ freedSw, ⟨hwEnforced, swEnforced⟩)

def deserializeBody (blob : List Byte) : KeyCharacteristics × Except KmError Unit :=
  match sspSerializerDeserializeParamSet .zero blob with
  | (hwEnforced, .error e) => (⟨hwEnforced, .zero⟩, .error e)
  | (hwEnforced, .ok blob) =>
    match sspSerializerDeserializeParamSet .zero blob with
    | (swEnforced, .error e) => (⟨hwEnforced, swEnforced⟩, .error e)
    | (swEnforced, .ok _) => (⟨hwEnforced, swEnforced⟩, .ok ())

def sspSerializerDeserializeCharacteristics (blob : List Byte) : Option (KeyCharacteristics × Except KmError Unit) :=
  match deserializeBody blob with
  | (c, .ok _) => some (c, .ok ())
  | (c, .error e) => (keymasterFreeCharacteristics c).map fun (_, c) => (c, .error e)

theorem readSlots_eq (count : Nat) (blob : List Byte) :
    (readSlots count blob).2 = (readParams count blob).map Prod.snd ∧
      ∀ params rest, readParams count blob = .ok (params, rest) →
        (readSlots count blob).1 = params.map Slot.ofParam := by
  induction count generalizing blob with
  | zero => exact ⟨rfl, fun params rest h => by cases h; rfl⟩
  | succ count ih =>
    rw [readSlots, readParams, readParam]
    rcases readU32 blob with e | ⟨tag, blob⟩
    · exact ⟨rfl, nofun⟩
    rcases hval : readValue (keymasterTagGetType tag) blob with e | ⟨value, blob⟩
    · simp only [bind, Except.bind, hval]
      exact ⟨rfl, nofun⟩
    simp only [bind, Except.bind, hval, pure, Except.pure]
    obtain ⟨hres, hslots⟩ := ih blob
    rcases hrest : readParams count blob with e | ⟨params, rest⟩
    · rw [hrest] at hres
      exact ⟨hres, nofun⟩
    · rw [hrest] at hres
      refine ⟨hres, ?_⟩
      rintro _ _ ⟨⟩
      rw [hslots params rest hrest]
      rfl

theorem deserializeParamSet_snd (set : ParamSet) (blob : List Byte) :
    (sspSerializerDeserializeParamSet set blob).2 = (sspSerializerDeserializeParams blob).map Prod.snd := by
  rw [sspSerializerDeserializeParamSet, sspSerializerDeserializeParams]
  rcases readU32 blob with e | ⟨val, blob⟩
  · rfl
  simp only [bind, Except.bind]
  split_ifs with hmany hzero
  · rfl
  · rw [hzero]
    rfl
  · exact (readSlots_eq val.toNat blob).1

def TooMany (blob : List Byte) : Prop := 4 ≤ blob.length ∧ keyparamsCountMax < ofLittleEndian (blob.take 4) % 2 ^ 32

def ParamSet.Sound (set : ParamSet) : Prop :=
  match set.params with
  | none => set.length = 0
  | some slots => slots.length = set.length

theorem length_readSlots (count : Nat) (blob : List Byte) : (readSlots count blob).1.length = count := by
  induction count generalizing blob with
  | zero => rfl
  | succ count ih =>
    rw [readSlots]
    rcases readU32 blob with e | ⟨tag, blob⟩
    · exact List.length_replicate
    simp only
    rcases readValue (keymasterTagGetType tag) blob with e | ⟨value, blob⟩
    · exact congrArg (· + 1) List.length_replicate
    · exact congrArg (· + 1) (ih blob)

variable {blob : List Byte}

theorem sound_of_not_tooMany (h : ¬ TooMany blob) : (sspSerializerDeserializeParamSet .zero blob).1.Sound := by
  rw [sspSerializerDeserializeParamSet, readU32]
  split_ifs with hfour
  · have hcnt : ¬ (BitVec.ofNat 32 (ofLittleEndian (blob.take 4))).toNat > keyparamsCountMax := by
      rw [BitVec.toNat_ofNat]
      exact fun hmany => h ⟨hfour, hmany⟩
    simp only [if_neg hcnt]
    split_ifs with hzero
    · exact hzero
    · exact length_readSlots _ _
  · rfl

theorem deserializeParamSet_of_tooMany (h : TooMany blob) : sspSerializerDeserializeParamSet .zero blob =
      (⟨none, ofLittleEndian (blob.take 4) % 2 ^ 32⟩, .error .unknownError) := by
  obtain ⟨hfour, hmany⟩ := h
  have hcnt : (BitVec.ofNat 32 (ofLittleEndian (blob.take 4))).toNat = ofLittleEndian (blob.take 4) % 2 ^ 32 :=
    BitVec.toNat_ofNat _ _
  rw [sspSerializerDeserializeParamSet, readU32, if_pos hfour]
  simp only [hcnt, if_pos hmany]
  rfl

theorem freeParamValues_of_length {slots : List Slot} :
    keymasterFreeParamValues (some slots) slots.length = some (slots.flatMap fun slot => slot.data.toList) := by
  induction slots with
  | nil => rfl
  | cons slot slots ih =>
    rw [List.length_cons, keymasterFreeParamValues, ih, List.flatMap_cons]
    rfl

variable {set : ParamSet}

theorem freeParamSet_of_sound (h : set.Sound) : ∃ freed, keymasterFreeParamSet set = some (freed, .zero) := by
  obtain ⟨params, length⟩ := set
  cases params with
  | none =>
    cases h
    exact ⟨[], rfl⟩
  | some slots =>
    cases h
    refine ⟨slots.flatMap fun slot => slot.data.toList, ?_⟩
    rw [keymasterFreeParamSet, freeParamValues_of_length]
    rfl

def ParamSet.NullSafe (set : ParamSet) : Prop := 0 < set.length → set.params ≠ none

/-- The call succeeds, or it fails with both sets reset and its clean-up looked at no element of a null array. -/
def FailsCleanly (blob : List Byte) : Prop := (∃ c, sspSerializerDeserializeCharacteristics blob = some (c, .ok ())) ∨
    (∃ e, sspSerializerDeserializeCharacteristics blob = some (.zero, .error e)) ∧
      (deserializeBody blob).1.hwEnforced.NullSafe ∧ (deserializeBody blob).1.swEnforced.NullSafe

theorem ParamSet.Sound.nullSafe (h : set.Sound) : set.NullSafe := by
  intro hpos hnull
  rw [ParamSet.Sound, hnull] at h
  exact absurd h hpos.ne'

theorem failsCleanly_of_ok (h : (deserializeBody blob).2 = .ok ()) : FailsCleanly blob := by
  refine .inl ⟨(deserializeBody blob).1, ?_⟩
  rw [sspSerializerDeserializeCharacteristics, ← Prod.eta (deserializeBody blob), h]

theorem failsCleanly_of_sound {e : KmError} (h : (deserializeBody blob).2 = .error e)
    (hhw : (deserializeBody blob).1.hwEnforced.Sound) (hsw : (deserializeBody blob).1.swEnforced.Sound) :
    FailsCleanly blob := by
  obtain ⟨freedHw, hfreeHw⟩ := freeParamSet_of_sound hhw
  obtain ⟨freedSw, hfreeSw⟩ := freeParamSet_of_sound hsw
  refine .inr ⟨⟨e, ?_⟩, hhw.nullSafe, hsw.nullSafe⟩
  rw [sspSerializerDeserializeCharacteristics, ← Prod.eta (deserializeBody blob), h]
  simp only [keymasterFreeCharacteristics, hfreeHw, hfreeSw, bind, Option.bind, pure, Option.map]
  rfl

theorem not_failsCleanly {e : KmError} (h : (deserializeBody blob).2 = .error e)
    (hnull : ¬ (deserializeBody blob).1.hwEnforced.NullSafe ∨ ¬ (deserializeBody blob).1.swEnforced.NullSafe) :
    ¬ FailsCleanly blob := by
  rintro (⟨c, hok⟩ | ⟨-, hhw, hsw⟩)
  · rw [sspSerializerDeserializeCharacteristics, ← Prod.eta (deserializeBody blob), h] at hok
    obtain ⟨_, _, hfalse⟩ := Option.map_eq_some_iff.mp hok
    cases hfalse
  · rcases hnull with hnull | hnull
    · exact hnull hhw
    · exact hnull hsw

theorem not_nullSafe_of_tooMany (h : TooMany blob) : ¬ (sspSerializerDeserializeParamSet .zero blob).1.NullSafe := by
  rw [deserializeParamSet_of_tooMany h]
  intro hsafe
  exact hsafe (Nat.zero_lt_of_lt h.2) rfl

theorem deserializeParams_of_first {blob rest : List Byte}
    (h : sspSerializerDeserializeParamSet .zero blob = (set, .ok rest)) :
    ∃ params, sspSerializerDeserializeParams blob = .ok (params, rest) := by
  have hsnd := deserializeParamSet_snd .zero blob
  rw [h] at hsnd
  cases hparams : sspSerializerDeserializeParams blob with
  | error e =>
    rw [hparams] at hsnd
    cases hsnd
  | ok decoded =>
    rw [hparams] at hsnd
    cases hsnd
    exact ⟨decoded.1, rfl⟩

/-- The clean-up is defined exactly if no count that is read is too large. -/
theorem failsCleanly_iff (blob : List Byte) :
    FailsCleanly blob ↔ ¬ TooMany blob ∧ ∀ params rest, sspSerializerDeserializeParams blob = .ok (params, rest) →
    ¬ TooMany rest := by
  rcases hfst : sspSerializerDeserializeParamSet .zero blob with ⟨hw, e | rest⟩
  · -- the first set fails, the second one is still zero
    have hbody : deserializeBody blob = (⟨hw, .zero⟩, .error e) := by
      rw [deserializeBody, hfst]
    have herr : (deserializeBody blob).2 = .error e := congrArg Prod.snd hbody
    have hhw : (deserializeBody blob).1.hwEnforced = (sspSerializerDeserializeParamSet .zero blob).1 := by
      rw [hbody, hfst]
    have hsw : (deserializeBody blob).1.swEnforced = .zero := congrArg (fun result => result.1.swEnforced) hbody
    constructor
    · refine fun h => ⟨fun hmany => ?_, fun params rest hparams => ?_⟩
      · exact not_failsCleanly herr (.inl (hhw ▸ not_nullSafe_of_tooMany hmany)) h
      · have hsnd := deserializeParamSet_snd .zero blob
        rw [hfst, hparams] at hsnd
        cases hsnd
    · rintro ⟨hcnt, -⟩
      exact failsCleanly_of_sound herr (hhw ▸ sound_of_not_tooMany hcnt) (hsw ▸ rfl)
  · -- the first set is decoded, and the second one decides
    obtain ⟨params, hparams⟩ := deserializeParams_of_first hfst
    have hfits : ¬ TooMany blob := by
      intro hmany
      rw [deserializeParamSet_of_tooMany hmany] at hfst
      cases hfst
    have hsound : hw.Sound := by
      have hset := sound_of_not_tooMany hfits
      rwa [hfst] at hset
    have hcond : (¬ TooMany blob ∧ ∀ params' rest', sspSerializerDeserializeParams blob = .ok (params', rest') →
      ¬ TooMany rest') ↔
        ¬ TooMany rest := by
      refine ⟨fun h => h.2 params rest hparams, fun h => ⟨hfits, fun params' rest' hparams' => ?_⟩⟩
      cases hparams.symm.trans hparams'
      exact h
    rw [hcond]
    rcases hsecond : sspSerializerDeserializeParamSet .zero rest with ⟨sw, e | left⟩
    · have hbody : deserializeBody blob = (⟨hw, sw⟩, .error e) := by
        simp only [deserializeBody, hfst, hsecond]
      have herr : (deserializeBody blob).2 = .error e := congrArg Prod.snd hbody
      have hhw : (deserializeBody blob).1.hwEnforced = hw := congrArg (fun result => result.1.hwEnforced) hbody
      have hsw : (deserializeBody blob).1.swEnforced = (sspSerializerDeserializeParamSet .zero rest).1 := by
        rw [hbody, hsecond]
      constructor
      · exact fun h hmany => not_failsCleanly herr (.inr (hsw ▸ not_nullSafe_of_tooMany hmany)) h
      · exact fun hcnt => failsCleanly_of_sound herr (hhw ▸ hsound) (hsw ▸ sound_of_not_tooMany hcnt)
    · have hok : (deserializeBody blob).2 = .ok () := by
        simp only [deserializeBody, hfst, hsecond]
      refine iff_of_true (failsCleanly_of_ok hok) fun hmany => ?_
      rw [deserializeParamSet_of_tooMany hmany] at hsecond
      cases hsecond

theorem not_failsCleanly_1001 : ¬ FailsCleanly [0xE9, 0x03, 0, 0] := by
  have hmany : TooMany [0xE9, 0x03, 0, 0] := ⟨by decide, by decide⟩
  refine @not_failsCleanly _ .unknownError ?_ (.inl ?_)
  · rw [deserializeBody, deserializeParamSet_of_tooMany hmany]
  · rw [deserializeBody, deserializeParamSet_of_tooMany hmany]
    exact fun hsafe => hsafe (Nat.zero_lt_of_lt hmany.2) rfl

end ExynosHal.Strongbox.Characteristics
