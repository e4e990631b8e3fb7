import ExynosHal.Strongbox.Serialization

/-! # The decoder undoes the serializer

`encodeParam` says what one parameter is on the wire.
-/

namespace ExynosHal.Strongbox.SerializationRoundTrip
open Library.BitString Library.LittleEndian Params Serialization
open List (append_assoc flatMap_cons length_append length_cons replicate)
open BitVec (ofNat ofNat_add toNat_ofNat)

def encodeValue : (type : Option TagType) → Value type → List Byte
  | some .enum, (val : U32) => appendU32 val
  | some .enumRep, (val : U32) => appendU32 val
  | some .uint, (val : U32) => appendU32 val
  | some .uintRep, (val : U32) => appendU32 val
  | some .bool, (val : Bool) => appendU32 (if val then 1 else 0)
  | some .ulong, (val : U64) => appendU64 val
  | some .ulongRep, (val : U64) => appendU64 val
  | some .date, (val : U64) => appendU64 val
  | some .bignum, (data : List Byte) => appendBlob data
  | some .bytes, (data : List Byte) => appendBlob data
  | none, _ => []

def encodeParam (param : KeyParam) : List Byte := appendU32 param.tag ++ encodeValue _ param.value

theorem encodeParam_ofType (tag : Tag) (type : TagType) (htype : keymasterTagGetType tag = some type)
    (value : Value (some type)) :
    encodeParam (KeyParam.ofType tag type htype value) = appendU32 tag ++ encodeValue (some type) value :=
  congrArg (appendU32 tag ++ ·) (KeyParam.value_ofType encodeValue tag type htype value)

def encodeParams (params : List KeyParam) : List Byte := params.flatMap encodeParam

def Serializable (param : KeyParam) : Prop := (keymasterTagGetType param.tag).isSome

theorem serializable_ofType (tag : Tag) (type : TagType) (htype : keymasterTagGetType tag = some type)
    (value : Value (some type)) : Serializable (KeyParam.ofType tag type htype value) :=
  Option.isSome_iff_exists.mpr ⟨type, htype⟩

variable (val : U32)

@[simp] theorem length_appendU32 : (appendU32 val).length = 4 := length_toLittleEndian 4 _

@[simp] theorem length_appendU64 (val : U64) : (appendU64 val).length = 8 := length_toLittleEndian 8 _

@[simp] theorem length_appendBlob (data : List Byte) : (appendBlob data).length = 4 + data.length := by
  simp [appendBlob]

theorem blobLen_eq (data : List Byte) : 4#32 + ofNat 32 data.length = ofNat 32 (appendBlob data).length := by
  rw [length_appendBlob, ofNat_add]

variable (type : Option TagType) (value : Value type)

theorem appendValue_eq (h : type.isSome) : appendValue type value = .ok (encodeValue type value) := by
  match type, value, h with
  | some type, value, _ => cases type <;> rfl

theorem calValueLen_eq (h : type.isSome) : calValueLen type value = .ok (ofNat 32 (encodeValue type value).length) := by
  match type, value, h with
  | some type, value, _ =>
    cases type
    case bignum | bytes => exact congrArg Except.ok (blobLen_eq value)
    all_goals rfl

variable (params : List KeyParam)

theorem appendParams_eq (h : ∀ param ∈ params, Serializable param) :
    appendParams params = .ok (encodeParams params) := by
  induction params with
  | nil => rfl
  | cons param params ih =>
    obtain ⟨hparam, hparams⟩ := List.forall_mem_cons.mp h
    rw [appendParams, appendValue_eq _ _ hparam, ih hparams]
    rfl

theorem calLoop_eq (calcSize calcNum : U32) (h : ∀ param ∈ params, Serializable param) :
    calLoop params (calcSize, calcNum) = .ok (calcSize + ofNat 32 (encodeParams params).length,
      calcNum + ofNat 32 params.length) := by
  induction params generalizing calcSize calcNum with
  | nil => simp [calLoop, encodeParams]
  | cons param params ih =>
    obtain ⟨hparam, hparams⟩ := List.forall_mem_cons.mp h
    have hlen : (encodeParams (param :: params)).length =
        4 + (encodeValue _ param.value).length + (encodeParams params).length := by
      simp only [encodeParams, encodeParam, flatMap_cons, length_append, length_appendU32]
    rw [calLoop, calValueLen_eq _ _ hparam]
    change calLoop params (calcSize + 4#32 + ofNat 32 _, calcNum + 1#32) = _
    rw [ih _ _ hparams, hlen, length_cons, Nat.add_comm params.length, ofNat_add, ofNat_add,
      ofNat_add, BitVec.add_assoc, BitVec.add_assoc, BitVec.add_assoc, BitVec.add_assoc]

variable (rest : List Byte)

theorem readU32_appendU32 : readU32 (appendU32 val ++ rest) = .ok (val, rest) := by
  have htake : (appendU32 val ++ rest).take 4 = appendU32 val := List.take_left' (length_appendU32 val)
  have hdrop : (appendU32 val ++ rest).drop 4 = rest := List.drop_left' (length_appendU32 val)
  rw [readU32, if_pos (by simp), htake, hdrop, appendU32,
    ofLittleEndian_toLittleEndian 4 _ (by have := val.isLt; omega), BitVec.ofNat_toNat, BitVec.setWidth_eq]

theorem readU64_appendU64 (val : U64) (rest : List Byte) : readU64 (appendU64 val ++ rest) = .ok (val, rest) := by
  have htake : (appendU64 val ++ rest).take 8 = appendU64 val := List.take_left' (length_appendU64 val)
  have hdrop : (appendU64 val ++ rest).drop 8 = rest := List.drop_left' (length_appendU64 val)
  rw [readU64, if_pos (by simp), htake, hdrop, appendU64,
    ofLittleEndian_toLittleEndian 8 _ (by have := val.isLt; omega), BitVec.ofNat_toNat, BitVec.setWidth_eq]

theorem readBlob_appendBlob (data rest : List Byte) (h : data.length < 2 ^ 32) :
    readBlob (appendBlob data ++ rest) = .ok (data, rest) := by
  have hlen : (ofNat 32 data.length).toNat = data.length := by
    rw [toNat_ofNat, Nat.mod_eq_of_lt h]
  rw [appendBlob, append_assoc, readBlob, readU32_appendU32]
  change (if (ofNat 32 data.length).toNat ≤ (data ++ rest).length then _ else _) = _
  rw [hlen, if_pos (by simp), List.take_left, List.drop_left]

theorem readBool_appendU32 (val : Bool) (rest : List Byte) :
    readBool (appendU32 (if val then 1 else 0) ++ rest) = .ok (val, rest) := by
  rw [readBool, readU32_appendU32]
  cases val <;> rfl

theorem readValue_encodeValue (rest : List Byte) (h : type.isSome)
    (hlen : (encodeValue type value).length < 2 ^ 32) :
    readValue type (encodeValue type value ++ rest) = .ok (value, rest) := by
  match type, value, h with
  | some type, value, _ =>
    cases type
    case enum | enumRep | uint | uintRep => exact readU32_appendU32 value rest
    case ulong | ulongRep | date => exact readU64_appendU64 value rest
    case bool => exact readBool_appendU32 value rest
    case bignum | bytes =>
      exact readBlob_appendBlob value rest (lt_of_le_of_lt (Nat.le_add_left _ 4)
        (lt_of_eq_of_lt (length_appendBlob value).symm hlen))

theorem readParam_encodeParam (param : KeyParam) (rest : List Byte) (h : Serializable param)
    (hlen : (encodeParam param).length < 2 ^ 32) :
    readParam (encodeParam param ++ rest) = .ok (param, rest) := by
  have hval : (encodeValue _ param.value).length < 2 ^ 32 := by
    rw [encodeParam, length_append] at hlen
    omega
  have hread := readValue_encodeValue _ param.value rest h hval
  rw [encodeParam, append_assoc, readParam, readU32_appendU32]
  change (readValue (keymasterTagGetType param.tag) _ >>= _) = _
  rw [hread]
  rfl

theorem readParams_encodeParams
    (h : ∀ param ∈ params, Serializable param) (hlen : (encodeParams params).length < 2 ^ 32) :
    readParams params.length (encodeParams params ++ rest) = .ok (params, rest) := by
  induction params with
  | nil => rfl
  | cons param params ih =>
    obtain ⟨hparam, hparams⟩ := List.forall_mem_cons.mp h
    rw [encodeParams, flatMap_cons, length_append] at hlen
    rw [length_cons, encodeParams, flatMap_cons, append_assoc, readParams,
      readParam_encodeParam param _ hparam (by omega)]
    change (readParams params.length (encodeParams params ++ rest) >>= _) = _
    rw [ih hparams (by rw [encodeParams]; omega)]
    rfl

theorem deserialize_encodeParams (suffix : List Byte)
    (h : ∀ param ∈ params, Serializable param) (hlen : (encodeParams params).length < 2 ^ 32)
    (hcnt : params.length ≤ keyparamsCountMax) :
    sspSerializerDeserializeParams (appendU32 (ofNat 32 params.length) ++ encodeParams params ++ suffix) =
      .ok (params, suffix) := by
  have hval : (ofNat 32 params.length).toNat = params.length := by
    rw [keyparamsCountMax] at hcnt
    rw [toNat_ofNat, Nat.mod_eq_of_lt (by omega)]
  rw [sspSerializerDeserializeParams, append_assoc, readU32_appendU32]
  change (if (ofNat 32 params.length).toNat > keyparamsCountMax then _ else _) = _
  rw [hval, if_neg (by omega)]
  exact readParams_encodeParams params suffix h hlen

theorem deserialize_too_many (h : keyparamsCountMax < val.toNat) :
    sspSerializerDeserializeParams (appendU32 val ++ rest) = .error .unknownError := by
  rw [sspSerializerDeserializeParams, readU32_appendU32]
  exact if_pos h

def extraParams (params : List KeyParam) (extra : ExtraParams) (now : Timeval) : List KeyParam :=
  (if extra.addTime then [creationDatetimeParam now.millis] else []) ++
    (if extra.keysize ≠ 0 ∧ hasTag params tagKeySize = false then [keySizeParam extra.keysize] else []) ++
    (if extra.rsapubexp ≠ 0 ∧ hasTag params tagRsaPublicExponent = false then
      [rsaPublicExponentParam extra.rsapubexp] else [])

theorem extraParams_serializable (extra : ExtraParams) (now : Timeval) :
    ∀ param ∈ extraParams params extra now, Serializable param := by
  intro param hparam
  simp only [extraParams, List.mem_append] at hparam
  rcases hparam with (hparam | hparam) | hparam
  all_goals
    split at hparam
    · rw [List.mem_singleton.mp hparam]
      exact serializable_ofType _ _ _ _
    · exact absurd hparam List.not_mem_nil

theorem encodeParams_append (a b : List KeyParam) : encodeParams (a ++ b) = encodeParams a ++ encodeParams b :=
  List.flatMap_append

theorem serialize_eq (extra : ExtraParams) (now : Timeval) (h : ∀ param ∈ params, Serializable param) :
    sspSerializerSerializeParams params extra now = .ok
      (ofNat 32 (4 + (encodeParams (params ++ extraParams params extra now)).length),
        appendU32 (ofNat 32 (params ++ extraParams params extra now).length) ++
          encodeParams (params ++ extraParams params extra now)) := by
  have hcal := calLoop_eq params 4#32 0#32 h
  rw [BitVec.zero_add] at hcal
  have htime : encodeParam (creationDatetimeParam now.millis) =
      appendU32 tagCreationDatetime ++ appendU64 now.millis := encodeParam_ofType _ .date _ _
  have hkeySize : encodeParam (keySizeParam extra.keysize) =
      appendU32 tagKeySize ++ appendU32 extra.keysize := encodeParam_ofType _ .uint _ _
  have hexpo : encodeParam (rsaPublicExponentParam extra.rsapubexp) =
      appendU32 tagRsaPublicExponent ++ appendU64 extra.rsapubexp := encodeParam_ofType _ .ulong _ _
  have hkeySizeIff : (!hasTag params tagKeySize && decide (extra.keysize ≠ 0)) = true ↔
      extra.keysize ≠ 0 ∧ hasTag params tagKeySize = false := by simp [and_comm]
  have hexpoIff : (!hasTag params tagRsaPublicExponent && decide (extra.rsapubexp ≠ 0)) = true ↔
      extra.rsapubexp ≠ 0 ∧ hasTag params tagRsaPublicExponent = false := by simp [and_comm]
  rw [sspSerializerSerializeParams, serializerCalSerializedLen, hcal, appendParams_eq params h]
  simp only [bind, Except.bind, pure, Except.pure, hkeySizeIff, hexpoIff]
  rw [extraParams, encodeParams_append, length_append, length_append]
  split_ifs
  all_goals
    simp only [List.append_nil, List.nil_append, List.cons_append, encodeParams, flatMap_cons, List.flatMap_nil,
      length_append, length_cons, List.length_nil, htime, hkeySize, hexpo, length_appendU32,
      length_appendU64, BitVec.add_zero, Nat.add_zero, Nat.zero_add, append_assoc, ofNat_add,
      BitVec.add_assoc, BitVec.reduceAdd, Nat.reduceAdd]

/-- Serialized parameters come back in order, followed by the extra ones, as long as the total
count passes the decoder's own limit. -/
theorem deserialize_serialize (params : List KeyParam) (extra : ExtraParams) (now : Timeval) (suffix : List Byte)
    (htags : ∀ param ∈ params, Serializable param)
    (hcnt : (params ++ extraParams params extra now).length ≤ 1000)
    (hsize : 4 + (encodeParams (params ++ extraParams params extra now)).length < 2 ^ 32) :
    ∃ paramsBlobSize paramsBlob, sspSerializerSerializeParams params extra now = .ok (paramsBlobSize, paramsBlob) ∧
      paramsBlob.length = paramsBlobSize.toNat ∧
      sspSerializerDeserializeParams (paramsBlob ++ suffix) = .ok (params ++ extraParams params extra now, suffix) := by
  refine ⟨_, _, serialize_eq params extra now htags, ?_, ?_⟩
  · rw [length_append, length_appendU32, toNat_ofNat, Nat.mod_eq_of_lt hsize]
  · refine deserialize_encodeParams _ suffix ?_ (by omega) hcnt
    intro param hparam
    rcases List.mem_append.mp hparam with hparam | hparam
    · exact htags param hparam
    · exact extraParams_serializable params extra now param hparam

def noAuthRequired : KeyParam := KeyParam.ofType (TagType.bool.code ||| 503#32) .bool (by decide) true

theorem deserialize_serialize_thousand : (∀ param ∈ replicate 1000 noAuthRequired, Serializable param) ∧
      (encodeParams (replicate 1000 noAuthRequired)).length = 8000 ∧
      ∃ paramsBlobSize paramsBlob,
        sspSerializerSerializeParams (replicate 1000 noAuthRequired) ⟨false, 256, 0⟩ ⟨0, 0⟩ =
            .ok (paramsBlobSize, paramsBlob) ∧
          sspSerializerDeserializeParams paramsBlob = .error .unknownError := by
  have htags : ∀ param ∈ replicate 1000 noAuthRequired, Serializable param := by
    intro param hparam
    rw [List.eq_of_mem_replicate hparam]
    exact serializable_ofType _ _ _ _
  have hnone : hasTag (replicate 1000 noAuthRequired) tagKeySize = false := by
    rw [hasTag, List.any_eq_false]
    intro param hparam
    rw [List.eq_of_mem_replicate hparam]
    decide
  have hextra : (extraParams (replicate 1000 noAuthRequired) ⟨false, 256, 0⟩ ⟨0, 0⟩).length = 1 := by
    rw [extraParams, hnone]
    rfl
  have hlen : (encodeParams (replicate 1000 noAuthRequired)).length = 8000 := by
    rw [encodeParams, List.length_flatMap, List.map_replicate, List.sum_replicate]
    rfl
  refine ⟨htags, hlen, _, _, serialize_eq _ _ _ htags, ?_⟩
  refine deserialize_too_many _ _ ?_
  rw [length_append, hextra, List.length_replicate]
  decide

theorem deserialize_serialize_noAuthRequired : ∃ paramsBlobSize paramsBlob,
      sspSerializerSerializeParams [noAuthRequired] ⟨false, 256, 0⟩ ⟨0, 0⟩ = .ok (paramsBlobSize, paramsBlob) ∧
      paramsBlob.length = paramsBlobSize.toNat ∧
      sspSerializerDeserializeParams (paramsBlob ++ [0xFF]) =
        .ok ([noAuthRequired] ++ extraParams [noAuthRequired] ⟨false, 256, 0⟩ ⟨0, 0⟩, [0xFF]) := by
  refine deserialize_serialize [noAuthRequired] ⟨false, 256, 0⟩ ⟨0, 0⟩ [0xFF] ?_ ?_ ?_
  · intro param hparam
    rw [List.mem_singleton.mp hparam]
    exact serializable_ofType _ _ _ _
  · decide
  · decide

end ExynosHal.Strongbox.SerializationRoundTrip
