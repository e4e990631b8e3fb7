import ExynosHal.Strongbox.DeserializeParams

/-! # The grammar of serialized parameters

A count and that many parameters, each a tag and the value its type asks for.
-/

namespace ExynosHal.Strongbox.ParamsGrammar
open Library.BitString Library.LittleEndian Params Serialization SerializationRoundTrip DeserializeParams
open List (append_assoc flatten_cons forall_mem_cons length_append)
open BitVec (ofNat ofNat_toNat setWidth_eq toNat_ofNat)

def CompleteValue : TagType → List Byte → Prop
  | .enum, value => value.length = 4
  | .enumRep, value => value.length = 4
  | .uint, value => value.length = 4
  | .uintRep, value => value.length = 4
  | .bool, value => value.length = 4
  | .ulong, value => value.length = 8
  | .ulongRep, value => value.length = 8
  | .date, value => value.length = 8
  | .bignum, value => ∃ data : List Byte, data.length < 2 ^ 32 ∧ value = appendBlob data
  | .bytes, value => ∃ data : List Byte, data.length < 2 ^ 32 ∧ value = appendBlob data

def CompleteParam (bytes : List Byte) : Prop :=
  ∃ tag type value, keymasterTagGetType tag = some type ∧ CompleteValue type value ∧ bytes = appendU32 tag ++ value

structure Grammar (bytes : List Byte) (parts : List (List Byte)) : Prop where
  count : parts.length ≤ keyparamsCountMax
  complete : ∀ part ∈ parts, CompleteParam part
  eq : bytes = appendU32 (ofNat 32 parts.length) ++ parts.flatten

def normalizeValue (type : TagType) (value : List Byte) : List Byte :=
  if type = .bool ∧ ofLittleEndian value ≠ 0 then appendU32 1 else value

def normalize (param : List Byte) : List Byte :=
  match keymasterTagGetType (ofNat 32 (ofLittleEndian (param.take 4))) with
  | some type => param.take 4 ++ normalizeValue type (param.drop 4)
  | none => param

theorem ofLittleEndian_appendU32 (val : U32) : ofLittleEndian (appendU32 val) = val.toNat :=
  ofLittleEndian_toLittleEndian 4 _ val.isLt

variable {type : TagType}

theorem normalize_appendU32 {tag : Tag} (htype : keymasterTagGetType tag = some type) (value : List Byte) :
    normalize (appendU32 tag ++ value) = appendU32 tag ++ normalizeValue type value := by
  have htake : (appendU32 tag ++ value).take 4 = appendU32 tag := List.take_left' (length_appendU32 tag)
  have hdrop : (appendU32 tag ++ value).drop 4 = value := List.drop_left' (length_appendU32 tag)
  rw [normalize, htake, hdrop, ofLittleEndian_appendU32, ofNat_toNat, setWidth_eq, htype]

theorem normalizeValue_of_ne (htype : type ≠ .bool) (value : List Byte) : normalizeValue type value = value :=
  if_neg fun h => htype h.1

theorem normalizeValue_bool (val : U32) :
    normalizeValue .bool (appendU32 val) = appendU32 (if decide (val ≠ 0) then 1 else 0) := by
  rw [normalizeValue, ofLittleEndian_appendU32]
  rcases eq_or_ne val 0 with rfl | hne
  · rfl
  · have hnat : val.toNat ≠ 0 := fun h => hne (BitVec.eq_of_toNat_eq h)
    rw [if_pos ⟨rfl, hnat⟩, if_pos (decide_eq_true hne)]

section
variable {bytes rest : List Byte}

theorem appendU32_of_length (h : bytes.length = 4) : bytes = appendU32 (ofNat 32 (ofLittleEndian bytes)) := by
  have hlt := ofLittleEndian_lt bytes
  have hback := toLittleEndian_ofLittleEndian bytes
  rw [h] at hlt hback
  rw [appendU32, toNat_ofNat, Nat.mod_eq_of_lt (by omega), hback]

theorem appendU64_of_length (h : bytes.length = 8) : bytes = appendU64 (ofNat 64 (ofLittleEndian bytes)) := by
  have hlt := ofLittleEndian_lt bytes
  have hback := toLittleEndian_ofLittleEndian bytes
  rw [h] at hlt hback
  rw [appendU64, toNat_ofNat, Nat.mod_eq_of_lt (by omega), hback]

theorem readU32_sound {val : U32} (h : readU32 bytes = .ok (val, rest)) : bytes = appendU32 val ++ rest := by
  rw [readU32] at h
  split_ifs at h with hlen
  cases h
  rw [← appendU32_of_length (List.length_take_of_le hlen), List.take_append_drop]

theorem readU64_sound {val : U64} (h : readU64 bytes = .ok (val, rest)) : bytes = appendU64 val ++ rest := by
  rw [readU64] at h
  split_ifs at h with hlen
  cases h
  rw [← appendU64_of_length (List.length_take_of_le hlen), List.take_append_drop]

theorem bind_ok {ε α β : Type} {x : Except ε α} {f : α → Except ε β} {b : β} (h : x >>= f = .ok b) :
    ∃ a, x = .ok a ∧ f a = .ok b := by
  cases x with
  | error e => cases h
  | ok a => exact ⟨a, rfl, h⟩

theorem readBlob_sound {data : List Byte} (h : readBlob bytes = .ok (data, rest)) :
    data.length < 2 ^ 32 ∧ bytes = appendBlob data ++ rest := by
  obtain ⟨⟨dataLength, blob⟩, hlen, h⟩ := bind_ok h
  dsimp only at h
  split_ifs at h with hroom
  cases h
  have htake : (blob.take dataLength.toNat).length = dataLength.toNat := List.length_take_of_le hroom
  refine ⟨htake.trans_lt dataLength.isLt, ?_⟩
  rw [appendBlob, htake, ofNat_toNat, setWidth_eq, append_assoc, List.take_append_drop]
  exact readU32_sound hlen

end

variable {bytes rest : List Byte}

theorem readValue_sound {type : Option TagType} {value : Value type} (h : readValue type bytes = .ok (value, rest)) :
    ∃ known front, type = some known ∧ CompleteValue known front ∧ bytes = front ++ rest := by
  match type with
  | none => cases h
  | some type =>
    cases type
    case enum | enumRep | uint | uintRep => exact ⟨_, _, rfl, length_appendU32 _, readU32_sound h⟩
    case ulong | ulongRep | date => exact ⟨_, _, rfl, length_appendU64 _, readU64_sound h⟩
    case bool =>
      obtain ⟨⟨val, blob⟩, hval, h⟩ := bind_ok h
      cases h
      exact ⟨_, _, rfl, length_appendU32 val, readU32_sound hval⟩
    case bignum | bytes =>
      obtain ⟨hlen, hbytes⟩ := readBlob_sound h
      exact ⟨_, _, rfl, ⟨_, hlen, rfl⟩, hbytes⟩

theorem readParam_sound {param : KeyParam} (h : readParam bytes = .ok (param, rest)) :
    ∃ part, CompleteParam part ∧ bytes = part ++ rest := by
  obtain ⟨⟨tag, blob⟩, htag, h⟩ := bind_ok h
  obtain ⟨⟨value, blob'⟩, hval, h⟩ := bind_ok h
  cases h
  obtain ⟨type, front, htype, hfront, hblob⟩ := readValue_sound hval
  refine ⟨appendU32 tag ++ front, ⟨tag, type, front, htype, hfront, rfl⟩, ?_⟩
  rw [append_assoc, ← hblob]
  exact readU32_sound htag

variable {params : List KeyParam}

theorem readParams_sound {count : Nat} (h : readParams count bytes = .ok (params, rest)) :
    ∃ parts : List (List Byte), parts.length = count ∧ (∀ part ∈ parts, CompleteParam part) ∧
    bytes = parts.flatten ++ rest := by
  induction count generalizing bytes params with
  | zero =>
    cases h
    exact ⟨[], rfl, List.forall_mem_nil _, rfl⟩
  | succ count ih =>
    obtain ⟨⟨param, blob⟩, hparam, h⟩ := bind_ok h
    obtain ⟨⟨params, blob'⟩, hparams, h⟩ := bind_ok h
    cases h
    obtain ⟨part, hpart, hbytes⟩ := readParam_sound hparam
    obtain ⟨parts, hcnt, hparts, hblob⟩ := ih hparams
    refine ⟨part :: parts, congrArg Nat.succ hcnt, forall_mem_cons.mpr ⟨hpart, hparts⟩, ?_⟩
    rw [hbytes, hblob, flatten_cons, append_assoc]

theorem deserialize_sound (h : Serialization.sspSerializerDeserializeParams bytes = .ok (params, rest)) :
    ∃ front parts, Grammar front parts ∧ bytes = front ++ rest := by
  obtain ⟨⟨val, blob⟩, hval, h⟩ := bind_ok h
  dsimp only at h
  split_ifs at h with hmany
  obtain ⟨parts, hcnt, hparts, hblob⟩ := readParams_sound h
  refine ⟨appendU32 (ofNat 32 parts.length) ++ parts.flatten, parts, ⟨by omega, hparts, rfl⟩, ?_⟩
  rw [hcnt, ofNat_toNat, setWidth_eq, append_assoc, ← hblob]
  exact readU32_sound hval

theorem readValue_complete {value : List Byte} (h : CompleteValue type value) :
    ∃ read : Value (some type), (∀ rest, readValue (some type) (value ++ rest) = .ok (read, rest)) ∧
      encodeValue (some type) read = normalizeValue type value := by
  cases type
  case enum | enumRep | uint | uintRep =>
    rw [appendU32_of_length h, normalizeValue_of_ne (by decide)]
    exact ⟨_, readU32_appendU32 _, rfl⟩
  case ulong | ulongRep | date =>
    rw [appendU64_of_length h, normalizeValue_of_ne (by decide)]
    exact ⟨_, readU64_appendU64 _, rfl⟩
  case bool =>
    rw [appendU32_of_length h, normalizeValue_bool]
    refine ⟨decide (ofNat 32 (ofLittleEndian value) ≠ 0), fun rest => ?_, rfl⟩
    exact (congrArg (· >>= fun r : U32 × List Byte => pure (decide (r.1 ≠ 0), r.2)) (readU32_appendU32 _ rest)).trans
      rfl
  case bignum | bytes =>
    obtain ⟨data, hlen, rfl⟩ := h
    rw [normalizeValue_of_ne (by decide)]
    exact ⟨data, fun rest => readBlob_appendBlob data rest hlen, rfl⟩

theorem readParam_complete {part : List Byte} (h : CompleteParam part) :
    ∃ param, Serializable param ∧ encodeParam param = normalize part ∧ ∀ rest, readParam (part ++ rest) =
      .ok (param, rest) := by
  obtain ⟨tag, type, value, htype, hval, rfl⟩ := h
  obtain ⟨read, hread, hencode⟩ := readValue_complete hval
  refine ⟨KeyParam.ofType tag type htype read, serializable_ofType tag type htype read, ?_, fun rest => ?_⟩
  · rw [encodeParam_ofType, hencode, normalize_appendU32 htype]
  · have hval : readValue (keymasterTagGetType tag) (value ++ rest) = .ok ((KeyParam.ofType tag type htype read).value,
        rest) := by
      have hcast (other : Option TagType) (hother : other = some type) :
          readValue other (value ++ rest) = .ok ((hother ▸ read : Value other), rest) := by
        subst hother
        exact hread rest
      exact hcast _ htype
    rw [append_assoc, readParam, readU32_appendU32]
    exact (congrArg (· >>= fun r => pure ((⟨tag, r.1⟩ : KeyParam), r.2)) hval).trans rfl

variable {parts : List (List Byte)}

theorem readParams_complete (h : ∀ part ∈ parts, CompleteParam part) :
    ∃ params, (∀ param ∈ params, Serializable param) ∧ params.length = parts.length ∧
      encodeParams params = (parts.map normalize).flatten ∧ ∀ rest, readParams parts.length (parts.flatten ++ rest) =
        .ok (params, rest) := by
  induction parts with
  | nil => exact ⟨[], List.forall_mem_nil _, rfl, rfl, fun _ => rfl⟩
  | cons part parts ih =>
    obtain ⟨hpart, hparts⟩ := forall_mem_cons.mp h
    obtain ⟨param, hser, hencode, hread⟩ := readParam_complete hpart
    obtain ⟨params, hserializables, hcnt, hencodes, hreads⟩ := ih hparts
    refine ⟨param :: params, forall_mem_cons.mpr ⟨hser, hserializables⟩, congrArg Nat.succ hcnt, ?_, fun rest => ?_⟩
    · rw [encodeParams, List.flatMap_cons, hencode, List.map_cons, flatten_cons, ← hencodes, encodeParams]
    · rw [List.length_cons, flatten_cons, append_assoc, readParams, hread]
      exact (congrArg (· >>= fun r => pure (param :: r.1, r.2)) (hreads rest)).trans rfl

theorem normalize_length {part : List Byte} (h : CompleteParam part) : (normalize part).length = part.length := by
  obtain ⟨tag, type, value, htype, hval, rfl⟩ := h
  rw [normalize_appendU32 htype, length_append, length_append, normalizeValue]
  split_ifs with hbool
  · obtain ⟨rfl, -⟩ := hbool
    exact congrArg _ ((length_appendU32 1).trans (Eq.symm hval))
  · rfl

theorem length_normalize_flatten (h : ∀ part ∈ parts, CompleteParam part) :
    ((parts.map normalize).flatten).length = parts.flatten.length := by
  induction parts with
  | nil => rfl
  | cons part parts ih =>
    obtain ⟨hpart, hparts⟩ := forall_mem_cons.mp h
    rw [List.map_cons, flatten_cons, flatten_cons, length_append, length_append, normalize_length hpart, ih hparts]

theorem Grammar.deserialize (h : Grammar bytes parts) (now : Timeval) :
    ∃ params, (∀ rest, Serialization.sspSerializerDeserializeParams (bytes ++ rest) = .ok (params, rest)) ∧
      sspSerializerSerializeParams params ⟨false, 0, 0⟩ now =
        .ok (ofNat 32 bytes.length, appendU32 (ofNat 32 parts.length) ++ (parts.map normalize).flatten) := by
  obtain ⟨params, hserializable, hcnt, hencode, hread⟩ := readParams_complete h.complete
  have hlimit := h.count
  refine ⟨params, fun rest => ?_, ?_⟩
  · have hval : (ofNat 32 parts.length).toNat = parts.length := by
      rw [keyparamsCountMax] at hlimit
      rw [toNat_ofNat, Nat.mod_eq_of_lt (by omega)]
    rw [h.eq, append_assoc, Serialization.sspSerializerDeserializeParams, readU32_appendU32]
    refine Eq.trans (if_neg ?_) ?_
    · rw [hval]
      omega
    · rw [hval]
      exact hread rest
  · have hextra : extraParams params ⟨false, 0, 0⟩ now = [] := rfl
    have hser := serialize_eq params ⟨false, 0, 0⟩ now hserializable
    rw [hextra, List.append_nil, hencode, hcnt, length_normalize_flatten h.complete] at hser
    rw [hser, h.eq, length_append, length_appendU32]

section
variable {mem : Nat → Byte} {calloc : Nat → Bool} {blobLen : U32}

section
variable (hcalloc : ∀ count, calloc count)
include hcalloc

theorem grammar_of_accepted {c : Cursor}
    (h : sspSerializerDeserializeParams mem calloc blobLen = .ok (params, c)) :
    ∃ bytes parts, Grammar bytes parts ∧ bytes <+: bytesFrom mem blobLen.toNat 0 := by
  have hrefines := @deserialize_refines mem calloc hcalloc blobLen
  cases hlist : Serialization.sspSerializerDeserializeParams (bytesFrom mem blobLen.toNat 0) with
  | error e =>
    rw [hlist, Refines] at hrefines
    exact absurd (h.symm.trans hrefines) (by rintro ⟨⟩)
  | ok r =>
    obtain ⟨bytes, parts, hgrammar, hbytes⟩ := deserialize_sound hlist
    exact ⟨bytes, parts, hgrammar, r.2, hbytes.symm⟩

theorem Grammar.accepted (now : Timeval) {bytes : List Byte} {parts : List (List Byte)}
    (h : Grammar bytes parts) (hbegins : bytes <+: bytesFrom mem blobLen.toNat 0) :
    ∃ params c, sspSerializerDeserializeParams mem calloc blobLen = .ok (params, c) ∧
      c.blob = bytes.length ∧ c.blobLen.toNat + bytes.length = blobLen.toNat ∧
      sspSerializerSerializeParams params ⟨false, 0, 0⟩ now =
        .ok (ofNat 32 bytes.length, appendU32 (ofNat 32 parts.length) ++ (parts.map normalize).flatten) := by
  obtain ⟨rest, hrest⟩ := hbegins
  obtain ⟨params, hread, hser⟩ := h.deserialize now
  have hrefines := @deserialize_refines mem calloc hcalloc blobLen
  rw [← hrest, hread] at hrefines
  obtain ⟨c, hacc, hagrees, hbytes⟩ := hrefines
  have hwhole := congrArg List.length hrest
  have hleft := congrArg List.length hbytes
  rw [length_append, length_bytesFrom] at hwhole
  rw [length_bytesFrom] at hleft
  rw [Agrees] at hagrees
  exact ⟨params, c, hacc, by omega, by omega, hser⟩

theorem not_readPastEnd :
    sspSerializerDeserializeParams mem calloc blobLen ≠ .error .readPastEnd := by
  have hrefines := @deserialize_refines mem calloc hcalloc blobLen
  cases hlist : Serialization.sspSerializerDeserializeParams (bytesFrom mem blobLen.toNat 0) with
  | error e =>
    rw [hlist, Refines] at hrefines
    rw [hrefines]
    rintro ⟨⟩
  | ok r =>
    rw [hlist] at hrefines
    obtain ⟨c, hacc, -⟩ := hrefines
    rw [hacc]
    rintro ⟨⟩

end

/-- Nothing is read behind the string. It is accepted exactly when it begins with a sentence of the grammar, which the
cursor then has left behind it and which serializes back, every boolean that is not zero as one. -/
theorem accepts_iff_grammar (hcalloc : ∀ count, calloc count) (now : Timeval) :
    sspSerializerDeserializeParams mem calloc blobLen ≠ .error .readPastEnd ∧
    ((∃ params c, sspSerializerDeserializeParams mem calloc blobLen = .ok (params, c)) ↔
      ∃ bytes parts, Grammar bytes parts ∧ bytes <+: bytesFrom mem blobLen.toNat 0) ∧
    ∀ bytes parts, Grammar bytes parts → bytes <+: bytesFrom mem blobLen.toNat 0 →
      ∃ params c, sspSerializerDeserializeParams mem calloc blobLen = .ok (params, c) ∧
        c.blob = bytes.length ∧ c.blobLen.toNat + bytes.length = blobLen.toNat ∧
        sspSerializerSerializeParams params ⟨false, 0, 0⟩ now =
          .ok (ofNat 32 bytes.length, appendU32 (ofNat 32 parts.length) ++ (parts.map normalize).flatten) := by
  refine ⟨not_readPastEnd hcalloc, ⟨?_, ?_⟩, fun bytes parts h hbegins => h.accepted hcalloc now hbegins⟩
  · rintro ⟨params, c, hacc⟩
    exact grammar_of_accepted hcalloc hacc
  · rintro ⟨bytes, parts, hgrammar, hbegins⟩
    obtain ⟨params, c, hacc, -⟩ := hgrammar.accepted hcalloc now hbegins
    exact ⟨params, c, hacc⟩

end

def oneBoolean : List Byte := appendU32 1 ++ (appendU32 noAuthRequired.tag ++ appendU32 5) ++ [0xFF]

theorem oneBoolean_grammar : Grammar (oneBoolean.take 12) [appendU32 noAuthRequired.tag ++ appendU32 5] where
  count := by decide
  complete := fun _ h => List.mem_singleton.mp h ▸ ⟨noAuthRequired.tag, .bool, appendU32 5, by decide, rfl, rfl⟩
  eq := rfl

theorem oneBoolean_accepted : ∃ params c,
    sspSerializerDeserializeParams (fun i => oneBoolean.getD i 0) (fun _ => true) 13 = .ok (params, c) ∧
      c.blob = 12 ∧ c.blobLen.toNat + 12 = 13 ∧
      sspSerializerSerializeParams params ⟨false, 0, 0⟩ ⟨0, 0⟩ =
        .ok (12, appendU32 1 ++ (appendU32 noAuthRequired.tag ++ appendU32 1)) := by
  obtain ⟨-, -, hacc⟩ := @accepts_iff_grammar (fun i => oneBoolean.getD i 0) (fun _ => true) 13 (fun _ => rfl) ⟨0, 0⟩
  exact hacc _ _ oneBoolean_grammar (by decide)

end ExynosHal.Strongbox.ParamsGrammar
