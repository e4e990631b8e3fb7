import ExynosHal.Gralloc.BufferAllocation
import ExynosHal.Library.LittleEndian

/-! # The codec of buffer descriptors

`createDescriptor` encodes a request into a vector of bytes, and the allocator, in another process, decodes
it.
-/

namespace ExynosHal.Gralloc
open Library.BitString Library.LittleEndian
open List (append_nil cons_append length_drop mem_cons_self mem_range nil_append range range')
open BitVec (ofNat)

structure DescriptorInfo where
  name : List Byte
  width : U32
  height : U32
  layerCount : U32
  format : U32
  usage : U64
  reservedSize : U64
  deriving DecidableEq

/-- `buffer_descriptor_t` with the fields that only the codec writes. -/
structure GrallocDescriptor extends BufferDescriptor where
  signature : U32
  name : List Byte
  reservedSize : U64
  deriving DecidableEq

def descriptor32BitFields : Nat := 5
def descriptor64BitFields : Nat := 2

def staticSize : Nat := descriptor32BitFields * 4 + descriptor64BitFields * 8

def hidlMapperVersionScaled : Nat := 400

def descriptorVersion : U32 := ofNat 32 (hidlMapperVersionScaled / 10)

def cString (str : List Byte) : List Byte := str.takeWhile (· != 0#8)

def memcpyAt (vec : List Byte) (pos : Nat) (bytes : List Byte) : List Byte :=
  vec.take pos ++ bytes ++ vec.drop (pos + bytes.length)

/-- A vector and the position in it that is written next. -/
abbrev Pushed := List Byte × Nat

def pushDescriptorUint32 (w : Pushed) (val : U32) : Pushed :=
  (memcpyAt w.1 w.2 (toLittleEndian 4 val.toNat), w.2 + 4)

def pushDescriptorUint64 (w : Pushed) (val : U64) : Pushed :=
  (memcpyAt w.1 w.2 (toLittleEndian 8 val.toNat), w.2 + 8)

def pushDescriptorString (w : Pushed) (str : List Byte) : Pushed :=
  (memcpyAt w.1 w.2 (cString str ++ [0#8]), w.2 + ((cString str).length + 1))

/-- A resized vector holds any bytes, here `fresh`. -/
def grallocEncodeBufferDescriptor (fresh : Nat → Byte) (info : DescriptorInfo) : List Byte :=
  let dynamicSize := (cString info.name).length + 1
  let w := ((range (dynamicSize + staticSize)).map fresh, 0)
  let w := pushDescriptorUint32 w descriptorVersion
  let w := pushDescriptorUint32 w info.width
  let w := pushDescriptorUint32 w info.height
  let w := pushDescriptorUint32 w info.layerCount
  let w := pushDescriptorUint32 w info.format
  let w := pushDescriptorUint64 w info.usage
  let w := pushDescriptorUint64 w info.reservedSize
  (pushDescriptorString w info.name).1

structure Mapped where
  vec : List Byte
  behind : List Byte

/-- The indices that a computation reads; it has no result if one of them is not mapped. -/
structure Run (α : Type) where
  reads : List Nat
  result : Option α

instance : Monad Run where
  pure a := ⟨[], some a⟩
  bind r f :=
    match r.result with
    | none => ⟨r.reads, none⟩
    | some a => ⟨r.reads ++ (f a).reads, (f a).result⟩

def readAt (m : Mapped) (pos n : Nat) : Run (List Byte) :=
  let bytes := ((m.vec ++ m.behind).drop pos).take n
  ⟨range' pos n, if bytes.length = n then some bytes else none⟩

def popDescriptorUint32 (m : Mapped) (pos : Nat) : Run (U32 × Nat) := do
  let bytes ← readAt m pos 4
  return (ofNat 32 (ofLittleEndian bytes), pos + 4)

def popDescriptorUint64 (m : Mapped) (pos : Nat) : Run (U64 × Nat) := do
  let bytes ← readAt m pos 8
  return (ofNat 64 (ofLittleEndian bytes), pos + 8)

def stringFrom : List Byte → Nat → Run (List Byte)
  | [], pos => ⟨[pos], none⟩
  | byte :: bytes, pos =>
    if byte = 0#8 then ⟨[pos], some []⟩
    else
      let rest := stringFrom bytes (pos + 1)
      ⟨pos :: rest.reads, rest.result.map (byte :: ·)⟩

def popDescriptorString (m : Mapped) (pos : Nat) : Run (List Byte × Nat) := do
  let str ← stringFrom ((m.vec ++ m.behind).drop pos) pos
  return (str, pos + (str.length + 1))

/-- `sizeofDescriptor` is `sizeof(buffer_descriptor_t)`. -/
def grallocDecodeBufferDescriptor (sizeofDescriptor : U32) (m : Mapped)
    (grallocDescriptor : GrallocDescriptor) : Run (Bool × GrallocDescriptor) :=
  if staticSize > m.vec.length then return (false, grallocDescriptor)
  else do
    let (version, pos) ← popDescriptorUint32 m 0
    if version ≠ descriptorVersion then return (false, grallocDescriptor)
    else do
      let (width, pos) ← popDescriptorUint32 m pos
      let (height, pos) ← popDescriptorUint32 m pos
      let (layerCount, pos) ← popDescriptorUint32 m pos
      let (halFormat, pos) ← popDescriptorUint32 m pos
      let (producerUsage, pos) ← popDescriptorUint64 m pos
      let (reservedSize, pos) ← popDescriptorUint64 m pos
      let (name, _) ← popDescriptorString m pos
      return (true, { grallocDescriptor with
        width := width
        height := height
        layerCount := layerCount
        halFormat := halFormat.setWidth 64
        producerUsage := producerUsage
        consumerUsage := producerUsage
        formatType := .usage
        signature := sizeofDescriptor
        reservedSize := reservedSize
        name := name })

def Filled (w : Pushed) (written : List Byte) (left : Nat) : Prop :=
  ∃ rest, w.1 = written ++ rest ∧ w.2 = written.length ∧ rest.length = left

variable {w : Pushed} {written : List Byte} {left : Nat}

theorem Filled.memcpy (h : Filled w written left) {bytes : List Byte} {size : Nat} (hsize : bytes.length = size) :
    Filled (memcpyAt w.1 w.2 bytes, w.2 + size) (written ++ bytes) (left - size) := by
  obtain ⟨rest, hvec, hpos, hleft⟩ := h
  refine ⟨rest.drop size, ?_, ?_, ?_⟩
  · rw [memcpyAt, hvec, hpos, hsize, List.take_left, List.drop_append, List.drop_eq_nil_of_le (by omega),
      nil_append, Nat.add_sub_cancel_left]
  · rw [hpos, List.length_append, hsize]
  · rw [length_drop, hleft]

theorem Filled.uint32 (h : Filled w written left) (val : U32) :
    Filled (pushDescriptorUint32 w val) (written ++ toLittleEndian 4 val.toNat) (left - 4) :=
  h.memcpy (length_toLittleEndian 4 _)

theorem Filled.uint64 (h : Filled w written left) (val : U64) :
    Filled (pushDescriptorUint64 w val) (written ++ toLittleEndian 8 val.toNat) (left - 8) :=
  h.memcpy (length_toLittleEndian 8 _)

theorem Filled.full (h : Filled w written 0) : w.1 = written := by
  obtain ⟨rest, hvec, -, hleft⟩ := h
  rw [hvec, List.length_eq_zero_iff.mp hleft, append_nil]

variable (fresh : Nat → Byte) (info : DescriptorInfo)

theorem grallocEncodeBufferDescriptor_eq : grallocEncodeBufferDescriptor fresh info =
      toLittleEndian 4 descriptorVersion.toNat ++ (toLittleEndian 4 info.width.toNat ++
        (toLittleEndian 4 info.height.toNat ++ (toLittleEndian 4 info.layerCount.toNat ++
          (toLittleEndian 4 info.format.toNat ++ (toLittleEndian 8 info.usage.toNat ++
            (toLittleEndian 8 info.reservedSize.toNat ++ (cString info.name ++ [0#8]))))))) := by
  have hstatic : staticSize = 36 := rfl
  have hstart : Filled ((range ((cString info.name).length + 1 + staticSize)).map fresh, 0) []
      ((cString info.name).length + 1 + staticSize) :=
    ⟨_, rfl, rfl, by rw [List.length_map, List.length_range]⟩
  have hfields := ((((((hstart.uint32 descriptorVersion).uint32 info.width).uint32
    info.height).uint32 info.layerCount).uint32 info.format).uint64 info.usage).uint64
    info.reservedSize
  have hname : (cString info.name ++ [0#8]).length = (cString info.name).length + 1 := List.length_append
  have hall := hfields.memcpy hname
  have hleft : (cString info.name).length + 1 + staticSize - 4 - 4 - 4 - 4 - 4 - 8 - 8 -
      ((cString info.name).length + 1) = 0 := by omega
  rw [hleft] at hall
  refine hall.full.trans ?_
  simp only [nil_append, List.append_assoc]

theorem Run.bind_some {α β : Type} (reads : List Nat) (a : α) (f : α → Run β) :
    (⟨reads, some a⟩ : Run α) >>= f = ⟨reads ++ (f a).reads, (f a).result⟩ := rfl

def uint32At (vec : List Byte) (pos : Nat) : U32 := ofNat 32 (ofLittleEndian ((vec.drop pos).take 4))

def uint64At (vec : List Byte) (pos : Nat) : U64 := ofNat 64 (ofLittleEndian ((vec.drop pos).take 8))

variable {m : Mapped}

theorem readAt_inside {pos n : Nat} (h : pos + n ≤ m.vec.length) :
    readAt m pos n = ⟨range' pos n, some ((m.vec.drop pos).take n)⟩ := by
  have hbytes : ((m.vec ++ m.behind).drop pos).take n = (m.vec.drop pos).take n := by
    rw [List.drop_append_of_le_length (by omega), List.take_append_of_le_length]
    rw [length_drop]
    omega
  have hlen : ((m.vec.drop pos).take n).length = n := by
    rw [List.length_take, length_drop]
    omega
  rw [readAt, hbytes]
  simp only [hlen, if_true]

variable {pos : Nat}

theorem popDescriptorUint32_inside (h : pos + 4 ≤ m.vec.length) :
    popDescriptorUint32 m pos = ⟨range' pos 4, some (uint32At m.vec pos, pos + 4)⟩ := by
  rw [popDescriptorUint32, readAt_inside h]
  rfl

theorem popDescriptorUint64_inside (h : pos + 8 ≤ m.vec.length) :
    popDescriptorUint64 m pos = ⟨range' pos 8, some (uint64At m.vec pos, pos + 8)⟩ := by
  rw [popDescriptorUint64, readAt_inside h]
  rfl

def GrallocDescriptor.filled (d : GrallocDescriptor) (sizeofDescriptor : U32)
    (vec name : List Byte) : GrallocDescriptor :=
  { d with
    width := uint32At vec 4
    height := uint32At vec 8
    layerCount := uint32At vec 12
    halFormat := (uint32At vec 16).setWidth 64
    producerUsage := uint64At vec 20
    consumerUsage := uint64At vec 20
    formatType := .usage
    signature := sizeofDescriptor
    reservedSize := uint64At vec 28
    name := name }

section
variable {sizeofDescriptor : U32} {m : Mapped} {d : GrallocDescriptor}

theorem decode_small (h : m.vec.length < staticSize) :
    grallocDecodeBufferDescriptor sizeofDescriptor m d = ⟨[], some (false, d)⟩ := by
  rw [grallocDecodeBufferDescriptor, if_pos h]
  rfl

theorem decode_corrupted (h : staticSize ≤ m.vec.length) (hver : uint32At m.vec 0 ≠ descriptorVersion) :
    grallocDecodeBufferDescriptor sizeofDescriptor m d = ⟨range 4, some (false, d)⟩ := by
  have hstatic : staticSize = 36 := rfl
  rw [grallocDecodeBufferDescriptor, if_neg (by omega), popDescriptorUint32_inside (by omega),
    Run.bind_some]
  dsimp only
  rw [if_pos hver]
  rfl

theorem decode_fixed (h : staticSize ≤ m.vec.length) (hver : uint32At m.vec 0 = descriptorVersion) :
    grallocDecodeBufferDescriptor sizeofDescriptor m d =
      ⟨range staticSize ++ (stringFrom (m.vec.drop staticSize ++ m.behind) staticSize).reads,
        (stringFrom (m.vec.drop staticSize ++ m.behind) staticSize).result.map fun name =>
          (true, d.filled sizeofDescriptor m.vec name)⟩ := by
  have hdrop : (m.vec ++ m.behind).drop staticSize = m.vec.drop staticSize ++ m.behind :=
    List.drop_append_of_le_length h
  have hstatic : staticSize = 36 := rfl
  rw [grallocDecodeBufferDescriptor, if_neg (by omega), popDescriptorUint32_inside (by omega),
    Run.bind_some]
  dsimp only
  rw [if_neg (not_not.mpr hver), popDescriptorUint32_inside (by omega), Run.bind_some]
  dsimp only
  iterate 3
    rw [popDescriptorUint32_inside (by omega), Run.bind_some]
    dsimp only
  iterate 2
    rw [popDescriptorUint64_inside (by omega), Run.bind_some]
    dsimp only
  rw [hstatic] at hdrop ⊢
  cases hstring : stringFrom (m.vec.drop 36 ++ m.behind) 36 with
  | mk reads result =>
    cases result with
    | none =>
      have hname : popDescriptorString m 36 = ⟨reads, none⟩ := by
        rw [popDescriptorString, hdrop, hstring]
        rfl
      rw [hname]
      rfl
    | some name =>
      have hname : popDescriptorString m 36 = ⟨reads, some (name, 36 + (name.length + 1))⟩ := by
        rw [popDescriptorString, hdrop, hstring, Run.bind_some]
        exact congrArg₂ Run.mk (append_nil reads) rfl
      rw [hname, Run.bind_some]
      refine congrArg₂ Run.mk ?_ rfl
      exact congrArg (range 36 ++ ·) (append_nil reads)

theorem cString_cons {byte : Byte} (bytes : List Byte) (h : byte ≠ 0#8) :
    cString (byte :: bytes) = byte :: cString bytes := by
  simp [cString, h]

variable {bytes : List Byte}

theorem stringFrom_terminated (h : 0#8 ∈ bytes) (behind : List Byte) (pos : Nat) : stringFrom (bytes ++ behind) pos =
      ⟨range' pos ((cString bytes).length + 1), some (cString bytes)⟩ := by
  induction bytes generalizing pos with
  | nil => cases h
  | cons byte bytes ih =>
    rw [cons_append, stringFrom]
    split_ifs with hzero
    · subst hzero
      rfl
    · have hrest : 0#8 ∈ bytes := by
        rcases List.mem_cons.mp h with heq | hmem
        · exact absurd heq.symm hzero
        · exact hmem
      rw [ih hrest, cString_cons bytes hzero]
      rfl

theorem length_cString_lt (h : 0#8 ∈ bytes) : (cString bytes).length < bytes.length := by
  induction bytes with
  | nil => cases h
  | cons byte bytes ih =>
    rcases eq_or_ne byte 0#8 with hzero | hne
    · subst hzero
      exact Nat.succ_pos _
    · have hrest := ih ((List.mem_cons.mp h).resolve_left hne.symm)
      rw [cString_cons bytes hne]
      exact Nat.succ_lt_succ hrest

theorem stringFrom_unterminated (h : 0#8 ∉ bytes) (behind : List Byte) (pos : Nat) :
    pos + bytes.length ∈ (stringFrom (bytes ++ behind) pos).reads := by
  induction bytes generalizing pos with
  | nil =>
    cases behind with
    | nil => exact mem_cons_self
    | cons byte behind =>
      rw [nil_append, stringFrom]
      split_ifs <;> exact mem_cons_self
  | cons byte bytes ih =>
    obtain ⟨hhead, hrest⟩ := List.ne_and_not_mem_of_not_mem_cons h
    rw [cons_append, stringFrom, if_neg hhead.symm]
    apply List.mem_cons_of_mem
    have hmem := ih hrest (pos + 1)
    rwa [Nat.add_assoc, Nat.add_comm 1] at hmem

def Complete (vec : List Byte) : Prop := staticSize ≤ vec.length ∧ 0#8 ∈ vec.drop staticSize

/-- No index is read but those of the vector, and it is rejected if it is not complete. -/
structure Guarded (sizeofDescriptor : U32) (m : Mapped) (d : GrallocDescriptor) : Prop where
  inside : ∀ i ∈ (grallocDecodeBufferDescriptor sizeofDescriptor m d).reads, i < m.vec.length
  rejects : ¬Complete m.vec → ∃ d', (grallocDecodeBufferDescriptor sizeofDescriptor m d).result = some (false, d')

theorem guarded_of_complete (h : Complete m.vec) : Guarded sizeofDescriptor m d := by
  obtain ⟨hfixed, hterminated⟩ := id h
  refine ⟨?_, fun hincomplete => absurd h hincomplete⟩
  have hstatic : staticSize = 36 := rfl
  have hname := length_cString_lt hterminated
  rw [length_drop] at hname
  rcases eq_or_ne (uint32At m.vec 0) descriptorVersion with hver | hver
  · rw [decode_fixed hfixed hver, stringFrom_terminated hterminated]
    intro i hi
    rcases List.mem_append.mp hi with hi | hi
    · exact (mem_range.mp hi).trans_le hfixed
    · have hbounds := List.mem_range'_1.mp hi
      omega
  · rw [decode_corrupted hfixed hver]
    intro i hi
    exact (mem_range.mp hi).trans_le (le_trans (by decide) hfixed)

theorem guarded_of_rejected {reads : List Nat}
    (h : grallocDecodeBufferDescriptor sizeofDescriptor m d = ⟨reads, some (false, d)⟩)
    (hinside : ∀ i ∈ reads, i < m.vec.length) : Guarded sizeofDescriptor m d := by
  refine ⟨?_, fun _ => ⟨d, ?_⟩⟩
  · rwa [h]
  · rw [h]

theorem guarded_of_small (h : m.vec.length < staticSize) : Guarded sizeofDescriptor m d :=
  guarded_of_rejected (decode_small h) (List.forall_mem_nil _)

theorem guarded_iff : Guarded sizeofDescriptor m d ↔
      (m.vec.length < staticSize ∨ uint32At m.vec 0 ≠ descriptorVersion ∨ Complete m.vec) := by
  constructor
  · intro hguarded
    rcases Nat.lt_or_ge m.vec.length staticSize with hsmall | hfixed
    · exact .inl hsmall
    rcases eq_or_ne (uint32At m.vec 0) descriptorVersion with hver | hver
    · by_contra hnot
      have hunterminated : 0#8 ∉ m.vec.drop staticSize :=
        fun hmem => hnot (.inr (.inr ⟨hfixed, hmem⟩))
      have hread := stringFrom_unterminated hunterminated m.behind staticSize
      rw [length_drop, Nat.add_sub_cancel' hfixed] at hread
      have hinside := hguarded.inside m.vec.length
      rw [decode_fixed hfixed hver] at hinside
      exact Nat.lt_irrefl _ (hinside (List.mem_append_right _ hread))
    · exact .inr (.inl hver)
  · rintro (hsmall | hver | hcompl)
    · exact guarded_of_small hsmall
    · rcases Nat.lt_or_ge m.vec.length staticSize with hsmall | hfixed
      · exact guarded_of_small hsmall
      · apply guarded_of_rejected (decode_corrupted hfixed hver)
        intro i hi
        exact (mem_range.mp hi).trans_le (le_trans (by decide) hfixed)
    · exact guarded_of_complete hcompl

end

variable {vec rest : List Byte}

theorem uint32At_next {val : U32} (h : vec.drop pos = toLittleEndian 4 val.toNat ++ rest) :
    uint32At vec pos = val ∧ vec.drop (pos + 4) = rest := by
  constructor
  · rw [uint32At, h, List.take_left' (length_toLittleEndian 4 _),
      ofLittleEndian_toLittleEndian 4 _ val.isLt, BitVec.ofNat_toNat, BitVec.setWidth_eq]
  · rw [← List.drop_drop, h, List.drop_left' (length_toLittleEndian 4 _)]

theorem uint64At_next {val : U64} (h : vec.drop pos = toLittleEndian 8 val.toNat ++ rest) :
    uint64At vec pos = val ∧ vec.drop (pos + 8) = rest := by
  constructor
  · rw [uint64At, h, List.take_left' (length_toLittleEndian 8 _),
      ofLittleEndian_toLittleEndian 8 _ val.isLt, BitVec.ofNat_toNat, BitVec.setWidth_eq]
  · rw [← List.drop_drop, h, List.drop_left' (length_toLittleEndian 8 _)]

structure Restored (info : DescriptorInfo) (d : GrallocDescriptor) : Prop where
  width : d.width = info.width
  height : d.height = info.height
  layerCount : d.layerCount = info.layerCount
  format : d.halFormat = info.format.setWidth 64
  usage : d.producerUsage = info.usage ∧ d.consumerUsage = info.usage
  reservedSize : d.reservedSize = info.reservedSize
  name : 0#8 ∉ info.name → d.name = info.name

theorem cString_of_not_mem {str : List Byte} (h : 0#8 ∉ str) : cString str = str := by
  induction str with
  | nil => rfl
  | cons byte str ih =>
    obtain ⟨hhead, hrest⟩ := List.ne_and_not_mem_of_not_mem_cons h
    rw [cString_cons str hhead.symm, ih hrest]

theorem cString_terminated (str : List Byte) : cString (cString str ++ [0#8]) = cString str := by
  induction str with
  | nil => rfl
  | cons byte str ih =>
    rcases eq_or_ne byte 0#8 with hzero | hne
    · subst hzero
      rfl
    · rw [cString_cons str hne, cons_append, cString_cons _ hne, ih]

theorem encode_fields : uint32At (grallocEncodeBufferDescriptor fresh info) 0 = descriptorVersion ∧
      (grallocEncodeBufferDescriptor fresh info).drop staticSize = cString info.name ++ [0#8] ∧
      ∀ (d : GrallocDescriptor) sizeofDescriptor, Restored info
        (d.filled sizeofDescriptor (grallocEncodeBufferDescriptor fresh info) (cString info.name)) := by
  have hvec := grallocEncodeBufferDescriptor_eq fresh info
  generalize grallocEncodeBufferDescriptor fresh info = vec at hvec ⊢
  obtain ⟨hver, h⟩ := uint32At_next ((List.drop_zero).trans hvec)
  obtain ⟨hwidth, h⟩ := uint32At_next h
  obtain ⟨hheight, h⟩ := uint32At_next h
  obtain ⟨hlayerCnt, h⟩ := uint32At_next h
  obtain ⟨hfmt, h⟩ := uint32At_next h
  obtain ⟨husage, h⟩ := uint64At_next h
  obtain ⟨hreservedSize, hname⟩ := uint64At_next h
  refine ⟨hver, hname, fun d sizeofDescriptor => ?_⟩
  exact {
    width := hwidth
    height := hheight
    layerCount := hlayerCnt
    format := congrArg (BitVec.setWidth 64) hfmt
    usage := ⟨husage, husage⟩
    reservedSize := hreservedSize
    name := cString_of_not_mem }

theorem encode_complete : Complete (grallocEncodeBufferDescriptor fresh info) := by
  obtain ⟨-, hname, -⟩ := encode_fields fresh info
  constructor
  · by_contra hsmall
    rw [List.drop_eq_nil_of_le (by omega)] at hname
    exact List.append_ne_nil_of_right_ne_nil _ (List.cons_ne_nil _ _) hname.symm
  · rw [hname]
    exact List.mem_append_right _ mem_cons_self

theorem decode_encode (behind : List Byte) (sizeofDescriptor : U32) (d : GrallocDescriptor) :
    ∃ d', (grallocDecodeBufferDescriptor sizeofDescriptor
        ⟨grallocEncodeBufferDescriptor fresh info, behind⟩ d).result = some (true, d') ∧
      Restored info d' := by
  obtain ⟨hver, hname, hrestored⟩ := encode_fields fresh info
  obtain ⟨hfixed, hterminated⟩ := encode_complete fresh info
  generalize grallocEncodeBufferDescriptor fresh info = vec at hver hname hrestored hfixed hterminated ⊢
  refine ⟨d.filled sizeofDescriptor vec (cString info.name), ?_, hrestored d sizeofDescriptor⟩
  rw [decode_fixed hfixed hver]
  dsimp only
  rw [stringFrom_terminated hterminated, hname, cString_terminated]
  rfl

/-- What is encoded is restored, and the decoder keeps to the vector exactly if it rejects the
fixed part or finds the terminator of the name. -/
theorem descriptor_codec (sizeofDescriptor : U32) (d : GrallocDescriptor) (behind : List Byte) :
    (∀ fresh info, ∃ d', (grallocDecodeBufferDescriptor sizeofDescriptor
          ⟨grallocEncodeBufferDescriptor fresh info, behind⟩ d).result = some (true, d') ∧
        Restored info d') ∧
      ∀ vec, Guarded sizeofDescriptor ⟨vec, behind⟩ d ↔
        (vec.length < staticSize ∨ uint32At vec 0 ≠ descriptorVersion ∨ Complete vec) :=
  ⟨fun fresh info => decode_encode fresh info behind sizeofDescriptor d, fun _ => guarded_iff⟩

def truncatedDescriptor : List Byte :=
  (grallocEncodeBufferDescriptor (fun _ => 0#8) ⟨[], 16#32, 16#32, 1#32, 1#32, 0x933#64, 0#64⟩).take staticSize

def unnamedDescriptor : GrallocDescriptor where
  toBufferDescriptor := .fresh 0#32 0#32 0#64 0#64 0#64 0#32 .usage
  signature := 0#32
  name := []
  reservedSize := 0#64

theorem truncatedDescriptor_accepted :
    (grallocDecodeBufferDescriptor 0#32 ⟨truncatedDescriptor, [0x41#8, 0#8]⟩ unnamedDescriptor).reads = range 38 ∧
      ((grallocDecodeBufferDescriptor 0#32 ⟨truncatedDescriptor, [0x41#8, 0#8]⟩
        unnamedDescriptor).result.map fun r => (r.1, r.2.name)) = some (true, [0x41#8]) ∧
      ¬Guarded 0#32 ⟨truncatedDescriptor, [0x41#8, 0#8]⟩ unnamedDescriptor := by
  have hreads : (grallocDecodeBufferDescriptor 0#32 ⟨truncatedDescriptor, [0x41#8, 0#8]⟩
      unnamedDescriptor).reads = range 38 := by decide
  refine ⟨hreads, by decide, ?_⟩
  intro hguarded
  have hinside := hguarded.inside 36
  rw [hreads] at hinside
  exact absurd (hinside (by decide)) (by decide)

end ExynosHal.Gralloc
