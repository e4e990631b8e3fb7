import ExynosHal.Library.BitString

/-! # Bit packing of `GenerateSei.cpp`

`put_bits` collects big-endian fields in a 32-bit word and writes the word out when it is full. Free room is
never zero between two calls, so it is a field of `PackedStr` that it is not: the recursion of `put_bits` on
the part that does not fit rests on it.
-/

namespace ExynosHal.VideoApi.PutBits
open Library.BitString

structure PackedStr where
  packedData : U32
  remainedBitsInPackedData : Nat
  writeBitSize : Nat
  isEpbOn : Bool
  numZeroByte : Nat
  numEpb : Nat
  remained_pos : 0 < remainedBitsInPackedData
  remained_le : remainedBitsInPackedData ≤ 32

structure BitWriter where
  pStream : List Byte
  packedStr : PackedStr

def PackedStr.init (writeBitSize : Nat) (isEpbOn : Bool) : PackedStr where
  packedData := 0
  remainedBitsInPackedData := 32
  writeBitSize := writeBitSize
  isEpbOn := isEpbOn
  numZeroByte := 0
  numEpb := 0
  remained_pos := by decide
  remained_le := by decide

/-- Returns the word to write and `num_epb`. -/
def insertEpbData (numZeroByte : Nat) (data : U32) : U32 × Nat :=
  if numZeroByte = 2 then
    if data &&& 0xFFFFFF00#32 = 0x00000000#32 ∨ data &&& 0xFFFFFF00#32 = 0x00000100#32 ∨
        data &&& 0xFFFFFF00#32 = 0x00000200#32 ∨ data &&& 0xFFFFFF00#32 = 0x00000300#32 then
      (0x03000000#32 ||| ((data &&& 0xFFFF0000#32) >>> 8) ||| 0x00000003#32, 2)
    else if data &&& 0xFF000000#32 = 0x00000000#32 ∨ data &&& 0xFF000000#32 = 0x01000000#32 ∨
        data &&& 0xFF000000#32 = 0x02000000#32 ∨ data &&& 0xFF000000#32 = 0x03000000#32 then
      (0x03000000#32 ||| ((data &&& 0xFFFFFF00#32) >>> 8), 1)
    else if data &&& 0x00FFFFFF#32 = 0x00000000#32 ∨ data &&& 0x00FFFFFF#32 = 0x00000001#32 ∨
        data &&& 0x00FFFFFF#32 = 0x00000002#32 ∨ data &&& 0x00FFFFFF#32 = 0x00000003#32 then
      ((data &&& 0xFFFFFF00#32) ||| 0x00000003#32, 1)
    else (data, 0)
  else if numZeroByte = 1 then
    if data &&& 0xFFFF0000#32 = 0x00000000#32 ∨ data &&& 0xFFFF0000#32 = 0x00010000#32 ∨
        data &&& 0xFFFF0000#32 = 0x00020000#32 ∨ data &&& 0xFFFF0000#32 = 0x00030000#32 then
      ((data &&& 0xFF000000#32) ||| 0x00030000#32 ||| ((data &&& 0x00FFFF00#32) >>> 8), 1)
    else if data &&& 0x00FFFFFF#32 = 0x00000000#32 ∨ data &&& 0x00FFFFFF#32 = 0x00000001#32 ∨
        data &&& 0x00FFFFFF#32 = 0x00000002#32 ∨ data &&& 0x00FFFFFF#32 = 0x00000003#32 then
      ((data &&& 0xFFFFFF00#32) ||| 0x00000003#32, 1)
    else (data, 0)
  else
    if data &&& 0xFFFFFF00#32 = 0x00000000#32 ∨ data &&& 0xFFFFFF00#32 = 0x00000100#32 ∨
        data &&& 0xFFFFFF00#32 = 0x00000200#32 ∨ data &&& 0xFFFFFF00#32 = 0x00000300#32 then
      ((data &&& 0xFFFF0000#32) ||| 0x00000300#32 ||| ((data &&& 0x0000FF00#32) >>> 8), 1)
    else if data &&& 0x00FFFFFF#32 = 0x00000000#32 ∨ data &&& 0x00FFFFFF#32 = 0x00000001#32 ∨
        data &&& 0x00FFFFFF#32 = 0x00000002#32 ∨ data &&& 0x00FFFFFF#32 = 0x00000003#32 then
      ((data &&& 0xFFFFFF00#32) ||| 0x00000003#32, 1)
    else (data, 0)

theorem insertEpbData_le (numZeroByte : Nat) (data : U32) : (insertEpbData numZeroByte data).2 ≤ 2 := by
  unfold insertEpbData
  repeat' split
  all_goals simp

def zeroBytes (writedata : U32) : Nat :=
  if writedata &&& 0xFFFF#32 = 0#32 then 2 else if writedata &&& 0xFF#32 = 0#32 then 1 else 0

def writeWord (packedData : U32) (writeBitSize : Nat) (s : BitWriter) : BitWriter :=
  if s.packedStr.isEpbOn then
    let writedata := (insertEpbData s.packedStr.numZeroByte packedData).1
    let numEpb := (insertEpbData s.packedStr.numZeroByte packedData).2
    let remained := 32 - numEpb * 8
    { pStream := s.pStream ++ wordBytes writedata
      packedStr := {
        packedData := if remained = 32 then 0 else packedData <<< remained
        remainedBitsInPackedData := remained
        writeBitSize := writeBitSize + numEpb * 8
        isEpbOn := s.packedStr.isEpbOn
        numZeroByte := zeroBytes writedata
        numEpb := numEpb
        remained_pos := by have := insertEpbData_le s.packedStr.numZeroByte packedData; omega
        remained_le := by omega } }
  else
    { pStream := s.pStream ++ wordBytes packedData
      packedStr := { s.packedStr with
        packedData := 0
        remainedBitsInPackedData := 32
        writeBitSize := writeBitSize
        remained_pos := by decide
        remained_le := by decide } }

def putBits (number : Nat) (data : U32) (s : BitWriter) : BitWriter :=
  let remained := s.packedStr.remainedBitsInPackedData
  if number ≤ remained then
    let packedData := s.packedStr.packedData ||| data <<< (remained - number)
    if hfull : remained - number = 0 then writeWord packedData (s.packedStr.writeBitSize + number) s
    else { s with packedStr := { s.packedStr with
      packedData := packedData
      remainedBitsInPackedData := remained - number
      writeBitSize := s.packedStr.writeBitSize + number
      remained_pos := by omega
      remained_le := by have := s.packedStr.remained_le; omega } }
  else
    let numSecondHalfInBit := number - remained
    let s' := putBits remained (data >>> numSecondHalfInBit &&& (1#32 <<< remained - 1#32)) s
    putBits numSecondHalfInBit (data &&& (1#32 <<< numSecondHalfInBit - 1#32)) s'
termination_by number
decreasing_by
  · omega
  · have := s.packedStr.remained_pos
    omega

/-- The tail of `flush_bitstream`: `writedata` goes out as far as it is filled. -/
def writeRemained (writedata : U32) (remained : Nat) (s : BitWriter) : List Byte :=
  s.pStream ++ (wordBytes writedata).take ((32 - remained) / 8)

def flushBitstream (s : BitWriter) : BitWriter :=
  let remained := s.packedStr.remainedBitsInPackedData
  if remained ≠ 32 then
    if s.packedStr.isEpbOn ∧ (remained = 16 ∨ remained = 8) then
      let writedata := (insertEpbData s.packedStr.numZeroByte s.packedStr.packedData).1
      let numEpb := (insertEpbData s.packedStr.numZeroByte s.packedStr.packedData).2
      if numEpb ≠ 0 then
        { pStream := writeRemained writedata (remained - 8) s
          packedStr := { s.packedStr with
            packedData := if remained - 8 = 0 then 0 else writedata
            remainedBitsInPackedData := if remained - 8 = 0 then 32 else remained - 8
            writeBitSize := s.packedStr.writeBitSize + 8
            numEpb := numEpb
            remained_pos := by split <;> omega
            remained_le := by have := s.packedStr.remained_le; split <;> omega } }
      else
        { pStream := writeRemained writedata remained s
          packedStr := { s.packedStr with numEpb := numEpb } }
    else { s with pStream := writeRemained s.packedStr.packedData remained s }
  else s

def putFields (fields : List (Nat × U32)) (s : BitWriter) : BitWriter :=
  fields.foldl (fun s field => putBits field.1 field.2 s) s

end ExynosHal.VideoApi.PutBits
