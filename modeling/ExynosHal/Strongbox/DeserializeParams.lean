import ExynosHal.Strongbox.SerializationRoundTrip

/-! # `ssp_serializer_deserialize_params` in memory

Memory does not end with the string: a read behind its last byte is a failure of its own. `*blob_len` is a
`uint32_t` that wraps.
-/

namespace ExynosHal.Strongbox.DeserializeParams
open Library.BitString Library.LittleEndian Params Serialization
open List (length_map length_range' range')

inductive Failure where
  | km (e : KmError)
  | memoryAllocationFailed
  | readPastEnd
  deriving DecidableEq

/-- `*blob`, as an offset, and `*blob_len`. -/
structure Cursor where
  blob : Nat
  blobLen : U32
  deriving DecidableEq

section
variable (mem : Nat → Byte) (len : Nat) (calloc : Nat → Bool)

def load (pos : Nat) : Except Failure Byte := if pos < len then .ok (mem pos) else .error .readPastEnd

def btohLoop (width pos : Nat) : Nat → Nat → BitVec width → Except Failure (BitVec width)
  | 0, _, val => .ok val
  | count + 1, i, val => do
    let byte ← load mem len (pos + i)
    btohLoop width pos count (i + 1) (val ||| byte.setWidth width <<< (8 * i))

def btohU32 (pos : Nat) : Except Failure U32 := btohLoop mem len 32 pos 4 0 0

def btohU64 (pos : Nat) : Except Failure U64 := btohLoop mem len 64 pos 8 0 0

def memcpy : Nat → Nat → Except Failure (List Byte)
  | _, 0 => .ok []
  | pos, count + 1 => do
    let byte ← load mem len pos
    let bytes ← memcpy (pos + 1) count
    return byte :: bytes

def expectRemain (count : Nat) (c : Cursor) : Except Failure Unit :=
  if count ≤ c.blobLen.toNat then .ok () else .error (.km .insufficientBufferSpace)

def posInc (val : U32) (c : Cursor) : Cursor := ⟨c.blob + val.toNat, c.blobLen - val⟩

def takeU32 (c : Cursor) : Except Failure (U32 × Cursor) := do
  expectRemain 4 c
  let val ← btohU32 mem len c.blob
  return (val, posInc 4 c)

def takeU64 (c : Cursor) : Except Failure (U64 × Cursor) := do
  expectRemain 8 c
  let val ← btohU64 mem len c.blob
  return (val, posInc 8 c)

def takeBool (c : Cursor) : Except Failure (Bool × Cursor) := do
  let (val, c) ← takeU32 mem len c
  return (decide (val ≠ 0), c)

def takeBlob (c : Cursor) : Except Failure (List Byte × Cursor) := do
  let (dataLength, c) ← takeU32 mem len c
  expectRemain dataLength.toNat c
  if calloc dataLength.toNat then
    let data ← memcpy mem len c.blob dataLength.toNat
    return (data, posInc dataLength c)
  else .error .memoryAllocationFailed

def takeValue : (type : Option TagType) → Cursor → Except Failure (Value type × Cursor)
  | some .enum, c => takeU32 mem len c
  | some .enumRep, c => takeU32 mem len c
  | some .uint, c => takeU32 mem len c
  | some .uintRep, c => takeU32 mem len c
  | some .bool, c => takeBool mem len c
  | some .ulong, c => takeU64 mem len c
  | some .ulongRep, c => takeU64 mem len c
  | some .date, c => takeU64 mem len c
  | some .bignum, c => takeBlob mem len calloc c
  | some .bytes, c => takeBlob mem len calloc c
  | none, _ => .error (.km .invalidTag)

def takeParam (c : Cursor) : Except Failure (KeyParam × Cursor) := do
  let (tag, c) ← takeU32 mem len c
  let (value, c) ← takeValue mem len calloc (keymasterTagGetType tag) c
  return (⟨tag, value⟩, c)

def takeParams : Nat → Cursor → Except Failure (List KeyParam × Cursor)
  | 0, c => .ok ([], c)
  | count + 1, c => do
    let (param, c) ← takeParam mem len calloc c
    let (params, c) ← takeParams count c
    return (param :: params, c)

end

/-- `calloc` says whether so many elements are allocated. -/
def sspSerializerDeserializeParams (mem : Nat → Byte) (calloc : Nat → Bool) (blobLen : U32) :
    Except Failure (List KeyParam × Cursor) := do
  let (val, c) ← takeU32 mem blobLen.toNat ⟨0, blobLen⟩
  if val.toNat > keyparamsCountMax then .error (.km .unknownError)
  else if val.toNat = 0 then .ok ([], c)
  else if calloc val.toNat then takeParams mem blobLen.toNat calloc val.toNat c
  else .error .memoryAllocationFailed

def bytesFrom (mem : Nat → Byte) (len pos : Nat) : List Byte := (range' pos (len - pos)).map mem

section
variable {mem : Nat → Byte} {len pos count : Nat}

theorem length_bytesFrom (mem : Nat → Byte) (len pos : Nat) : (bytesFrom mem len pos).length = len - pos := by
  rw [bytesFrom, length_map, length_range']

theorem bytesFrom_split (hend : pos + count ≤ len) :
    bytesFrom mem len pos = (range' pos count).map mem ++ bytesFrom mem len (pos + count) := by
  have hsum : len - pos = count + (len - (pos + count)) := by omega
  rw [bytesFrom, bytesFrom, hsum, ← List.map_append, List.range'_append_1]

theorem take_bytesFrom (hend : pos + count ≤ len) :
    (bytesFrom mem len pos).take count = (range' pos count).map mem := by
  rw [bytesFrom_split hend, List.take_left' (by rw [length_map, length_range'])]

theorem drop_bytesFrom (hend : pos + count ≤ len) :
    (bytesFrom mem len pos).drop count = bytesFrom mem len (pos + count) := by
  rw [bytesFrom_split hend, List.drop_left' (by rw [length_map, length_range'])]

theorem load_eq (h : pos < len) : load mem len pos = .ok (mem pos) := if_pos h

theorem memcpy_eq (hend : pos + count ≤ len) : memcpy mem len pos count = .ok ((range' pos count).map mem) := by
  induction count generalizing pos with
  | zero => rfl
  | succ count ih =>
    rw [memcpy, load_eq (by omega), ih (by omega : pos + 1 + count ≤ len)]
    rfl

theorem btohLoop_eq {width i : Nat} {val : BitVec width} (hend : pos + i + count ≤ len) (hval : val.toNat < 2 ^ (8 * i))
    (hwidth : 8 * (i + count) ≤ width) : btohLoop mem len width pos count i val =
      .ok (BitVec.ofNat width (val.toNat + 2 ^ (8 * i) * ofLittleEndian ((range' (pos + i) count).map mem))) := by
  induction count generalizing i val with
  | zero =>
    rw [btohLoop, List.range'_zero, List.map_nil, ofLittleEndian, Nat.mul_zero, Nat.add_zero, BitVec.ofNat_toNat,
      BitVec.setWidth_eq]
  | succ count ih =>
    have hbyte := (mem (pos + i)).isLt
    have hpow : 2 ^ (8 * (i + 1)) = 2 ^ (8 * i) * 256 := by rw [Nat.mul_succ, Nat.pow_add]
    have hroom : 2 ^ (8 * (i + 1)) ≤ 2 ^ width := Nat.pow_le_pow_right (by decide) (by omega)
    have hpart : (mem (pos + i)).toNat * 2 ^ (8 * i) < 2 ^ (8 * (i + 1)) := by
      rw [hpow, Nat.mul_comm]
      exact Nat.mul_lt_mul_of_pos_left hbyte (Nat.two_pow_pos _)
    have hnext : (val ||| (mem (pos + i)).setWidth width <<< (8 * i)).toNat = val.toNat + 2 ^ (8 * i) *
        (mem (pos + i)).toNat := by
      rw [BitVec.toNat_or, BitVec.toNat_shiftLeft, BitVec.toNat_setWidth,
        Nat.mod_eq_of_lt (by omega : (mem (pos + i)).toNat < 2 ^ width),
        Nat.shiftLeft_eq, Nat.mod_eq_of_lt (by omega), Nat.or_comm, ← Nat.shiftLeft_eq,
          ← Nat.shiftLeft_add_eq_or_of_lt hval,
        Nat.shiftLeft_eq, Nat.add_comm, Nat.mul_comm]
    have hlt : val.toNat + 2 ^ (8 * i) * (mem (pos + i)).toNat < 2 ^ (8 * (i + 1)) := by
      have hstep : 2 ^ (8 * i) * ((mem (pos + i)).toNat + 1) ≤ 2 ^ (8 * i) * 256 := Nat.mul_le_mul_left _ hbyte
      rw [Nat.mul_succ] at hstep
      omega
    rw [btohLoop, load_eq (by omega)]
    have hrest := @ih (i + 1) (val ||| (mem (pos + i)).setWidth width <<< (8 * i)) (by omega) (by omega) (by omega)
    refine hrest.trans ?_
    rw [hnext, List.range'_succ, List.map_cons, ofLittleEndian, hpow, Nat.mul_add, Nat.mul_assoc, Nat.add_assoc,
      Nat.add_assoc]

theorem btoh_eq {width : Nat} (hend : pos + count ≤ len) (hwidth : 8 * count ≤ width) :
    btohLoop mem len width pos count 0 0 = .ok (BitVec.ofNat width (ofLittleEndian ((range' pos count).map mem))) := by
  have hzero : (0 : BitVec width).toNat = 0 := BitVec.toNat_zero
  have hloop := @btohLoop_eq mem len pos count width 0 0 hend (by rw [hzero]; decide) (by omega)
  rw [hzero, Nat.mul_zero, Nat.pow_zero, Nat.one_mul, Nat.zero_add] at hloop
  exact hloop

end

section
variable {mem : Nat → Byte} {len : Nat} {calloc : Nat → Bool}

def Agrees (len : Nat) (c : Cursor) : Prop := c.blob + c.blobLen.toNat = len

/-- In memory the same is read, or the same error found, and the cursor is where the rest of the list begins. -/
def Refines {α : Type} (mem : Nat → Byte) (len : Nat) (x : Except Failure (α × Cursor)) :
    Except KmError (α × List Byte) → Prop
  | .error e => x = .error (.km e)
  | .ok (a, bytes) => ∃ c, x = .ok (a, c) ∧ Agrees len c ∧ bytes = bytesFrom mem len c.blob

theorem Refines.bind {α β : Type} {x : Except Failure (α × Cursor)} {y : Except KmError (α × List Byte)}
    {f : α × Cursor → Except Failure (β × Cursor)} {g : α × List Byte → Except KmError (β × List Byte)}
      (h : Refines mem len x y)
    (hf : ∀ a c, Agrees len c → Refines mem len (f (a, c)) (g (a, bytesFrom mem len c.blob))) :
    Refines mem len (x >>= f) (y >>= g) := by
  cases y with
  | error e =>
    rw [Refines] at h
    rw [h]
    rfl
  | ok r =>
    obtain ⟨c, rfl, hc, hbytes⟩ := h
    have hr : r = (r.1, bytesFrom mem len c.blob) := Prod.ext rfl hbytes
    rw [hr]
    exact hf r.1 c hc

variable {c : Cursor}

theorem agrees_posInc {val : U32} (hc : Agrees len c) (hval : val.toNat ≤ c.blobLen.toNat) :
    Agrees len (posInc val c) := by
  have hsub : (c.blobLen - val).toNat = c.blobLen.toNat - val.toNat := BitVec.toNat_sub_of_le (BitVec.le_def.mpr hval)
  rw [Agrees] at hc
  simp only [Agrees, posInc, hsub]
  omega

theorem takeU32_refines (hc : Agrees len c) :
    Refines mem len (takeU32 mem len c) (readU32 (bytesFrom mem len c.blob)) := by
  have hroom : c.blob + c.blobLen.toNat = len := hc
  rw [takeU32, readU32, expectRemain, length_bytesFrom]
  rcases Nat.lt_or_ge c.blobLen.toNat 4 with hshort | hlong
  · rw [if_neg (by omega), if_neg (by omega)]
    rfl
  · rw [if_pos hlong, if_pos (by omega), take_bytesFrom (by omega), drop_bytesFrom (by omega), btohU32,
      btoh_eq (by omega) (by decide)]
    exact ⟨posInc 4 c, rfl, agrees_posInc hc hlong, rfl⟩

theorem takeU64_refines (hc : Agrees len c) :
    Refines mem len (takeU64 mem len c) (readU64 (bytesFrom mem len c.blob)) := by
  have hroom : c.blob + c.blobLen.toNat = len := hc
  rw [takeU64, readU64, expectRemain, length_bytesFrom]
  rcases Nat.lt_or_ge c.blobLen.toNat 8 with hshort | hlong
  · rw [if_neg (by omega), if_neg (by omega)]
    rfl
  · rw [if_pos hlong, if_pos (by omega), take_bytesFrom (by omega), drop_bytesFrom (by omega), btohU64,
      btoh_eq (by omega) (by decide)]
    exact ⟨posInc 8 c, rfl, agrees_posInc hc hlong, rfl⟩

theorem takeBool_refines (hc : Agrees len c) :
    Refines mem len (takeBool mem len c) (readBool (bytesFrom mem len c.blob)) :=
  (takeU32_refines hc).bind fun _ c hc => ⟨c, rfl, hc, rfl⟩

variable (hcalloc : ∀ count, calloc count)
include hcalloc

theorem takeBlob_refines (hc : Agrees len c) :
    Refines mem len (takeBlob mem len calloc c) (readBlob (bytesFrom mem len c.blob)) := by
  refine (takeU32_refines hc).bind fun dataLength c hc => ?_
  have hroom : c.blob + c.blobLen.toNat = len := hc
  dsimp only
  rw [expectRemain, length_bytesFrom, if_pos (hcalloc dataLength.toNat)]
  rcases Nat.lt_or_ge c.blobLen.toNat dataLength.toNat with hshort | hlong
  · rw [if_neg (by omega), if_neg (by omega)]
    rfl
  · rw [if_pos hlong, if_pos (by omega), take_bytesFrom (by omega), drop_bytesFrom (by omega), memcpy_eq (by omega)]
    exact ⟨posInc dataLength c, rfl, agrees_posInc hc hlong, rfl⟩

theorem takeValue_refines (type : Option TagType) (hc : Agrees len c) :
    Refines mem len (takeValue mem len calloc type c) (readValue type (bytesFrom mem len c.blob)) := by
  match type with
  | none => rfl
  | some type =>
    cases type
    case enum | enumRep | uint | uintRep => exact takeU32_refines hc
    case ulong | ulongRep | date => exact takeU64_refines hc
    case bool => exact takeBool_refines hc
    case bignum | bytes => exact takeBlob_refines hcalloc hc

theorem takeParam_refines (hc : Agrees len c) :
    Refines mem len (takeParam mem len calloc c) (readParam (bytesFrom mem len c.blob)) :=
  (takeU32_refines hc).bind fun tag _ hc => (takeValue_refines hcalloc (keymasterTagGetType tag) hc).bind fun _ c hc =>
    ⟨c, rfl, hc, rfl⟩

theorem takeParams_refines (count : Nat) (hc : Agrees len c) :
    Refines mem len (takeParams mem len calloc count c) (readParams count (bytesFrom mem len c.blob)) := by
  induction count generalizing c with
  | zero => exact ⟨c, rfl, hc, rfl⟩
  | succ count ih =>
    exact (takeParam_refines hcalloc hc).bind fun _ _ hc => (ih hc).bind fun _ c hc => ⟨c, rfl, hc, rfl⟩

theorem deserialize_refines (blobLen : U32) :
    Refines mem blobLen.toNat (sspSerializerDeserializeParams mem calloc blobLen)
      (Serialization.sspSerializerDeserializeParams (bytesFrom mem blobLen.toNat 0)) := by
  have hstart : Agrees blobLen.toNat ⟨0, blobLen⟩ := Nat.zero_add _
  refine (takeU32_refines hstart).bind fun val c hc => ?_
  dsimp only
  split_ifs with hmany hnone
  · rfl
  · rw [hnone]
    exact ⟨c, rfl, hc, rfl⟩
  · exact takeParams_refines hcalloc val.toNat hc
  · exact absurd (hcalloc val.toNat) ‹_›

end

end ExynosHal.Strongbox.DeserializeParams
