import ExynosHal.VideoApi.EpbWord

/-! # What a run of `put_bits` writes

The invariant speaks about the future: for every continuation, the stream plus the encoded pending bits plus
the continuation is the encoding of all the bits.
-/

namespace ExynosHal.VideoApi.PutBitsCorrect
open Library.BitString Library.StartCode PutBits EpbWord
open List (append_assoc append_nil length_append prefix_append prefix_rfl)

def encode (isEpbOn : Bool) (zeros : Nat) (bytes : List Byte) : List Byte :=
  if isEpbOn then escape zeros bytes else bytes

structure Emits (base : List Byte) (bits pending : List Bool) (s : BitWriter) : Prop where
  room : pending.length + s.packedStr.remainedBitsInPackedData = 32
  packed : s.packedStr.packedData.toNat = ofBits pending * 2 ^ s.packedStr.remainedBitsInPackedData
  zeros : s.packedStr.numZeroByte ≤ 2
  suffix : pending <:+ bits
  aligned : pending.length % 8 = bits.length % 8
  stream : ∀ rest, s.pStream ++ encode s.packedStr.isEpbOn s.packedStr.numZeroByte (toBytes (pending ++ rest)) =
    base ++ encode s.packedStr.isEpbOn 0 (toBytes (bits ++ rest))

variable (base : List Byte)

theorem emits_init (writeBitSize : Nat) (isEpbOn : Bool) :
    Emits base [] [] { pStream := base, packedStr := PackedStr.init writeBitSize isEpbOn } where
  room := rfl
  packed := by simp [PackedStr.init, ofBits]
  zeros := Nat.zero_le 2
  suffix := List.suffix_rfl
  aligned := rfl
  stream := fun _ => rfl

theorem zeroBytes_le (writedata : U32) : zeroBytes writedata ≤ 2 := by
  unfold zeroBytes
  repeat' split
  all_goals decide

theorem writeWord_emits (bits pending : List Bool) (packedData : U32)
    (writeBitSize : Nat) (s : BitWriter) (hlen : pending.length = 32)
    (hpacked : packedData.toNat = ofBits pending) (hzeros : s.packedStr.numZeroByte ≤ 2)
    (hsuffix : pending <:+ bits) (haligned : pending.length % 8 = bits.length % 8)
    (hstrm : ∀ rest, s.pStream ++ encode s.packedStr.isEpbOn s.packedStr.numZeroByte (toBytes (pending ++ rest)) =
      base ++ encode s.packedStr.isEpbOn 0 (toBytes (bits ++ rest))) :
    ∃ pending', Emits base bits pending' (writeWord packedData writeBitSize s) := by
  have hbits : pending = (wordBytes packedData).flatMap byteBits := by
    rw [flatMap_wordBytes, hpacked, ← hlen, toBits_ofBits]
  unfold writeWord
  split
  · rename_i hepb
    have hle := insertEpbData_le s.packedStr.numZeroByte packedData
    set numEpb := (insertEpbData s.packedStr.numZeroByte packedData).2 with hnumEpb
    have hdrop : pending.drop (8 * (4 - numEpb)) = ((wordBytes packedData).drop (4 - numEpb)).flatMap byteBits := by
      rw [hbits, drop_flatMap_byteBits]
    have hdropLen : (pending.drop (8 * (4 - numEpb))).length = numEpb * 8 := by
      rw [List.length_drop, hlen]
      omega
    refine ⟨pending.drop (8 * (4 - numEpb)), ?_, ?_, zeroBytes_le _, ?_, ?_, ?_⟩
    · simp only [hdropLen]
      omega
    · -- the spilled bytes move to the top of the next word
      have hsplit := ofBits_append (pending.take (8 * (4 - numEpb))) (pending.drop (8 * (4 - numEpb)))
      rw [List.take_append_drop, hdropLen, ← hpacked] at hsplit
      have hlt := ofBits_lt (pending.drop (8 * (4 - numEpb)))
      rw [hdropLen] at hlt
      simp only
      split
      · rename_i hnone
        have hzero : numEpb = 0 := by omega
        have hnil : pending.drop (8 * (4 - numEpb)) = [] := List.length_eq_zero_iff.mp (by omega)
        rw [hnil]
        simp [ofBits]
      · rw [BitVec.toNat_shiftLeft, Nat.shiftLeft_eq, hsplit]
        have hpow : (2 ^ (numEpb * 8) * 2 ^ (32 - numEpb * 8) : Nat) = 2 ^ 32 := by
          rw [← Nat.pow_add]
          congr 1
          omega
        rw [Nat.add_mul, Nat.mul_assoc, hpow, Nat.mul_add_mod_self_right, Nat.mod_eq_of_lt]
        rw [← hpow]
        exact Nat.mul_lt_mul_of_pos_right hlt (Nat.two_pow_pos _)
    · exact (List.drop_suffix _ _).trans hsuffix
    · rw [hdropLen]
      omega
    · intro rest
      have hword := insertEpbData_escape s.packedStr.numZeroByte hzeros packedData (toBytes rest)
      have hall := hstrm rest
      rw [hbits, toBytes_flatMap_append] at hall
      simp only [encode, hepb, if_true] at hall ⊢
      rw [hdrop, toBytes_flatMap_append, append_assoc, hword, hall]
  · rename_i hepb
    refine ⟨[], rfl, by simp [ofBits], hzeros, List.nil_suffix, by simp; omega, ?_⟩
    intro rest
    have hall := hstrm rest
    rw [hbits, toBytes_flatMap_append] at hall
    simp only [encode, hepb] at hall ⊢
    rw [List.nil_append, append_assoc]
    exact hall

theorem or_field_toNat (packedData data : U32) (high number remained : Nat) (hnum : number ≤ remained)
    (hremained : remained ≤ 32) (hdata : data.toNat < 2 ^ number)
    (hpacked : packedData.toNat = high * 2 ^ remained) :
    (packedData ||| data <<< (remained - number)).toNat =
      (high * 2 ^ number + data.toNat) * 2 ^ (remained - number) := by
  have hpow : 2 ^ remained = 2 ^ number * 2 ^ (remained - number) := by
    rw [← Nat.pow_add]
    congr 1
    omega
  have hlt : data.toNat * 2 ^ (remained - number) < 2 ^ remained := by
    rw [hpow]
    exact Nat.mul_lt_mul_of_pos_right hdata (Nat.two_pow_pos _)
  have hshift : (data <<< (remained - number)).toNat = data.toNat * 2 ^ (remained - number) := by
    rw [BitVec.toNat_shiftLeft, Nat.shiftLeft_eq, Nat.mod_eq_of_lt]
    exact hlt.trans_le (Nat.pow_le_pow_right (by decide) hremained)
  rw [BitVec.toNat_or, hshift, hpacked, Nat.mul_comm high, ← Nat.two_pow_add_eq_or_of_lt hlt, hpow]
  ring

theorem and_mask_toNat (data : U32) (n : Nat) (hn : n < 32) :
    (data &&& (1#32 <<< n - 1#32)).toNat = data.toNat % 2 ^ n := by
  have hlt : 2 ^ n < 2 ^ 32 := Nat.pow_lt_pow_right (by decide) hn
  have hpos : 0 < 2 ^ n := Nat.two_pow_pos n
  have hmask : (1#32 <<< n - 1#32).toNat = 2 ^ n - 1 := by
    rw [BitVec.toNat_sub, BitVec.toNat_shiftLeft, Nat.shiftLeft_eq]
    simp only [BitVec.toNat_ofNat, Nat.reducePow, Nat.one_mod, Nat.one_mul] at hlt ⊢
    rw [Nat.mod_eq_of_lt hlt]
    omega
  rw [BitVec.toNat_and, hmask, Nat.and_two_pow_sub_one_eq_mod]

structure Advances (number : Nat) (s t : BitWriter) : Prop where
  isEpbOn : t.packedStr.isEpbOn = s.packedStr.isEpbOn
  stream : s.pStream <+: t.pStream
  writeBitSize : t.packedStr.writeBitSize % 8 = (s.packedStr.writeBitSize + number) % 8
  numZeroByte : s.packedStr.isEpbOn = false → t.packedStr.numZeroByte = s.packedStr.numZeroByte
  remained : s.packedStr.isEpbOn = false →
    (t.packedStr.remainedBitsInPackedData + number) % 32 = s.packedStr.remainedBitsInPackedData % 32

theorem Advances.trans {m n : Nat} {s t u : BitWriter} (hst : Advances m s t) (htu : Advances n t u) :
    Advances (m + n) s u := by
  have hsize := hst.writeBitSize
  have hsize' := htu.writeBitSize
  refine ⟨htu.isEpbOn.trans hst.isEpbOn, hst.stream.trans htu.stream, by omega, ?_, ?_⟩
  · intro hplain
    exact (htu.numZeroByte (hst.isEpbOn.trans hplain)).trans (hst.numZeroByte hplain)
  · intro hplain
    have hfst := hst.remained hplain
    have hsnd := htu.remained (hst.isEpbOn.trans hplain)
    omega

theorem writeWord_advances (packedData : U32) (s : BitWriter) : Advances s.packedStr.remainedBitsInPackedData s
      (writeWord packedData (s.packedStr.writeBitSize + s.packedStr.remainedBitsInPackedData) s) := by
  unfold writeWord
  split
  · rename_i hepb
    refine ⟨rfl, prefix_append _ _, by simp only; omega, ?_, ?_⟩
    iterate 2 exact fun hplain => absurd (hplain.symm.trans hepb) (by decide)
  · exact ⟨rfl, prefix_append _ _, rfl, fun _ => rfl, fun _ => by simp only; omega⟩

theorem putBits_advances (number : Nat) (data : U32) (s : BitWriter) : Advances number s (putBits number data s) := by
  induction number using Nat.strong_induction_on generalizing data s with
  | _ number ih =>
    have hpos := s.packedStr.remained_pos
    rw [putBits]
    simp only
    split
    · split
      · have hfull : number = s.packedStr.remainedBitsInPackedData := by omega
        subst hfull
        exact writeWord_advances _ s
      · exact ⟨rfl, prefix_rfl, rfl, fun _ => rfl, fun _ => by simp only; omega⟩
    · have hsum : number = s.packedStr.remainedBitsInPackedData +
          (number - s.packedStr.remainedBitsInPackedData) := by omega
      conv => enter [1]; rw [hsum]
      exact (ih _ (by omega) _ s).trans (ih _ (by omega) _ _)

theorem putFields_advances (fields : List (Nat × U32)) (s : BitWriter) :
    Advances (fields.map Prod.fst).sum s (putFields fields s) := by
  induction fields generalizing s with
  | nil => exact ⟨rfl, prefix_rfl, rfl, fun _ => rfl, fun _ => rfl⟩
  | cons field fields ih => exact (putBits_advances field.1 field.2 s).trans (ih _)

theorem flushBitstream_stream_mono (s : BitWriter) : s.pStream <+: (flushBitstream s).pStream := by
  simp only [flushBitstream, writeRemained]
  split
  · split
    · split <;> exact prefix_append _ _
    · exact prefix_append _ _
  · exact prefix_rfl

theorem putBits_emits (number : Nat) (data : U32) (bits pending : List Bool)
    (s : BitWriter) (hs : Emits base bits pending s) (hnum : number ≤ 32) (hdata : data.toNat < 2 ^ number) :
    ∃ pending', Emits base (bits ++ toBits number data.toNat) pending' (putBits number data s) := by
  induction number using Nat.strong_induction_on generalizing data bits pending s with
  | _ number ih =>
    have hpos := s.packedStr.remained_pos
    have hle := s.packedStr.remained_le
    have hroom := hs.room
    set remained := s.packedStr.remainedBitsInPackedData with hremained
    rw [putBits]
    simp only [← hremained]
    split
    · rename_i hfit
      have hpacked := or_field_toNat _ data _ number remained hfit hle hdata hs.packed
      have hval : ofBits (pending ++ toBits number data.toNat) = ofBits pending * 2 ^ number + data.toNat := by
        rw [ofBits_append, length_toBits, ofBits_toBits number _ hdata]
      rw [← hval] at hpacked
      have hsuffix : pending ++ toBits number data.toNat <:+ bits ++ toBits number data.toNat := by
        obtain ⟨front, rfl⟩ := hs.suffix
        exact ⟨front, by rw [append_assoc]⟩
      have haligned : (pending ++ toBits number data.toNat).length % 8 =
          (bits ++ toBits number data.toNat).length % 8 := by
        have := hs.aligned
        simp only [length_append, length_toBits]
        omega
      have hstrm : ∀ rest, s.pStream ++ encode s.packedStr.isEpbOn s.packedStr.numZeroByte
            (toBytes (pending ++ toBits number data.toNat ++ rest)) =
          base ++ encode s.packedStr.isEpbOn 0 (toBytes (bits ++ toBits number data.toNat ++ rest)) := by
        intro rest
        rw [append_assoc, append_assoc]
        exact hs.stream _
      split
      · rename_i hfull
        rw [hfull, Nat.pow_zero, Nat.mul_one] at hpacked
        refine writeWord_emits base _ _ _ _ s ?_ ?_ hs.zeros hsuffix haligned hstrm
        · rw [length_append, length_toBits]
          omega
        · rw [hfull]
          exact hpacked
      · refine ⟨pending ++ toBits number data.toNat, ?_, hpacked, hs.zeros, hsuffix, haligned, hstrm⟩
        simp only [length_append, length_toBits]
        omega
    · rename_i hsplit
      have hpow : 2 ^ number = 2 ^ remained * 2 ^ (number - remained) := by
        rw [← Nat.pow_add]
        congr 1
        omega
      have hfst : (data >>> (number - remained) &&& (1#32 <<< remained - 1#32)).toNat =
          data.toNat / 2 ^ (number - remained) := by
        rw [and_mask_toNat _ _ (by omega), BitVec.toNat_ushiftRight, Nat.shiftRight_eq_div_pow]
        refine Nat.mod_eq_of_lt (Nat.div_lt_of_lt_mul ?_)
        rw [Nat.mul_comm, ← hpow]
        exact hdata
      have hsnd := and_mask_toNat data (number - remained) (by omega)
      -- the two halves together are the field
      have hfield : toBits remained (data.toNat / 2 ^ (number - remained)) ++
          toBits (number - remained) (data.toNat % 2 ^ (number - remained)) = toBits number data.toNat := by
        rw [toBits_mod, toBits_append]
        congr 1
        omega
      have hfstLt : data.toNat / 2 ^ (number - remained) < 2 ^ remained := by
        refine Nat.div_lt_of_lt_mul ?_
        rw [Nat.mul_comm, ← hpow]
        exact hdata
      have hsndLt : data.toNat % 2 ^ (number - remained) < 2 ^ (number - remained) :=
        Nat.mod_lt _ (Nat.two_pow_pos _)
      obtain ⟨pending₁, hs₁⟩ := ih remained (by omega) _ bits pending s hs (by omega) (hfst ▸ hfstLt)
      obtain ⟨pending₂, hs₂⟩ := ih (number - remained) (by omega) _ _ pending₁ _ hs₁ (by omega) (hsnd ▸ hsndLt)
      rw [hfst, hsnd, append_assoc, hfield] at hs₂
      exact ⟨pending₂, hs₂⟩

def fieldBits (fields : List (Nat × U32)) : List Bool := fields.flatMap fun field => toBits field.1 field.2.toNat

def FieldsFit (fields : List (Nat × U32)) : Prop := ∀ field ∈ fields, field.1 ≤ 32 ∧ field.2.toNat < 2 ^ field.1

theorem putFields_emits (fields : List (Nat × U32)) (bits pending : List Bool)
    (s : BitWriter) (hs : Emits base bits pending s) (hfields : FieldsFit fields) :
    ∃ pending', Emits base (bits ++ fieldBits fields) pending' (putFields fields s) := by
  induction fields generalizing bits pending s with
  | nil =>
    refine ⟨pending, ?_⟩
    simpa [fieldBits, putFields] using hs
  | cons field fields ih =>
    obtain ⟨hnum, hdata⟩ := hfields field List.mem_cons_self
    obtain ⟨pending₁, hs₁⟩ := putBits_emits base field.1 field.2 bits pending s hs hnum hdata
    obtain ⟨pending₂, hs₂⟩ := ih _ pending₁ _ hs₁ (fun f hf => hfields f (List.mem_cons_of_mem _ hf))
    rw [append_assoc] at hs₂
    exact ⟨pending₂, hs₂⟩

variable {bits pending : List Bool} {s : BitWriter} {base : List Byte}

theorem wordBytes_pending (hs : Emits base bits pending s) : wordBytes s.packedStr.packedData =
      toBytes (pending ++ List.replicate s.packedStr.remainedBitsInPackedData false) := by
  set remained := s.packedStr.remainedBitsInPackedData with hremained
  have hbits : toBits 32 s.packedStr.packedData.toNat = pending ++ List.replicate remained false := by
    rw [hs.packed, ← hremained, ← hs.room, ← toBits_append, Nat.mul_div_cancel _ (Nat.two_pow_pos _), toBits_ofBits]
    congr 1
    rw [← toBits_mod, Nat.mul_mod_left, toBits_zero]
  rw [← hbits, ← flatMap_wordBytes, toBytes_flatMap]

theorem insertBytes_trailing_two (zeros : Nat) (hzeros : zeros ≤ 2) (b0 : Byte) :
    (insertBytes zeros b0 0x80#8 0#8 0#8).1.take
        ((32 - (if (insertBytes zeros b0 0x80#8 0#8 0#8).2 ≠ 0 then 16 - 8 else 16)) / 8) =
      escape zeros [b0, 0x80#8] := by
  by_cases hinsert : zeros = 2 ∧ b0.toNat ≤ 3
  · obtain ⟨rfl, h0⟩ := hinsert
    rw [escape_insert 2 b0 _ le_rfl h0, escape_pair]
    simp [insertBytes, h0]
  · have hval : insertBytes zeros b0 0x80#8 0#8 0#8 = ([b0, 0x80#8, 0#8, 0#8], 0) := by
      unfold insertBytes
      repeat' split
      all_goals simp_all
    rw [hval, escape_keep zeros b0 _ (by omega), escape_keep _ 0x80#8 _ (by simp)]
    simp

theorem insertBytes_trailing_three (zeros : Nat) (hzeros : zeros ≤ 2) (b0 b1 : Byte) :
    (insertBytes zeros b0 b1 0x80#8 0#8).1.take
        ((32 - (if (insertBytes zeros b0 b1 0x80#8 0#8).2 ≠ 0 then 8 - 8 else 8)) / 8) =
      escape zeros [b0, b1, 0x80#8] := by
  have hlast : ∀ z, escape z [0x80#8] = [0x80#8] := fun z => escape_keep z 0x80#8 [] (by simp)
  by_cases hfst : zeros = 2 ∧ b0.toNat ≤ 3
  · obtain ⟨rfl, h0⟩ := hfst
    rw [escape_insert 2 b0 _ le_rfl h0, escape_pair, hlast]
    simp [insertBytes, h0]
  rw [escape_keep zeros b0 _ (by omega)]
  by_cases hsnd : zeros = 1 ∧ b0 = 0#8 ∧ b1.toNat ≤ 3
  · obtain ⟨rfl, rfl, h1⟩ := hsnd
    rw [nextZeros_zero, escape_insert 2 b1 _ le_rfl h1, escape_pair]
    simp [insertBytes, h1]
  · have hval : insertBytes zeros b0 b1 0x80#8 0#8 = ([b0, b1, 0x80#8, 0#8], 0) := by
      unfold insertBytes
      repeat' split
      all_goals simp_all
    have hkeep : 2 ≤ nextZeros zeros b0 → 3 < b1.toNat := by
      intro htwo
      unfold nextZeros at htwo
      split at htwo
      · rename_i h0
        subst h0
        have hone : zeros ≠ 2 := fun h => hfst ⟨h, by decide⟩
        by_contra hle
        exact hsnd ⟨by omega, rfl, by omega⟩
      · omega
    rw [hval, escape_keep _ b1 _ hkeep, hlast]
    simp

theorem pending_trailing (hs : Emits base bits pending s) (front : List Byte)
    (hbits : bits = front.flatMap byteBits ++ byteBits 0x80#8) :
    pending = [] ∨ ∃ bytes : List Byte, pending = bytes.flatMap byteBits ++ byteBits 0x80#8 ∧ bytes.length < 3 := by
  have hroom := hs.room
  have hpos := s.packedStr.remained_pos
  have halign : pending.length % 8 = 0 := by
    rw [hs.aligned, hbits, length_append, length_flatMap_byteBits, length_byteBits]
    omega
  rcases Nat.eq_zero_or_pos pending.length with hzero | hne
  · exact Or.inl (List.length_eq_zero_iff.mp hzero)
  · right
    have hlast : byteBits 0x80#8 <:+ pending :=
      List.suffix_of_suffix_length_le ⟨_, hbits.symm⟩ hs.suffix (by rw [length_byteBits]; omega)
    obtain ⟨head, rfl⟩ := hlast
    rw [length_append, length_byteBits] at halign hroom
    have hdvd : 8 ∣ head.length := by omega
    refine ⟨toBytes head, by rw [flatMap_toBytes head hdvd], ?_⟩
    rw [length_toBytes head hdvd]
    omega

theorem flushBitstream_epb (s : BitWriter) (hepb : s.packedStr.isEpbOn)
    (hfree : s.packedStr.remainedBitsInPackedData = 16 ∨ s.packedStr.remainedBitsInPackedData = 8) :
    (flushBitstream s).pStream = s.pStream ++
      (wordBytes (insertEpbData s.packedStr.numZeroByte s.packedStr.packedData).1).take
        ((32 - if (insertEpbData s.packedStr.numZeroByte s.packedStr.packedData).2 ≠ 0 then
          s.packedStr.remainedBitsInPackedData - 8 else s.packedStr.remainedBitsInPackedData) / 8) := by
  unfold flushBitstream writeRemained
  rw [if_pos (by omega), if_pos ⟨hepb, hfree⟩]
  by_cases hnum : (insertEpbData s.packedStr.numZeroByte s.packedStr.packedData).2 ≠ 0
  · simp only [if_pos hnum]
  · simp only [if_neg hnum]

theorem flushBitstream_stream (hs : Emits base bits pending s) (hepb : s.packedStr.isEpbOn) (front : List Byte)
    (hbits : bits = front.flatMap byteBits ++ byteBits 0x80#8) :
    (flushBitstream s).pStream = base ++ escape 0 (toBytes bits) := by
  have hroom := hs.room
  have hall := hs.stream []
  simp only [append_nil, encode, hepb, if_true] at hall
  rw [← hall]
  have hword := wordBytes_pending hs
  obtain rfl | ⟨bytes, rfl, hcnt⟩ := pending_trailing hs front hbits
  · have hfree : s.packedStr.remainedBitsInPackedData = 32 := by simpa using hroom
    simp [flushBitstream, hfree, toBytes]
  rw [append_assoc, toBytes_flatMap_append, toBytes_byteBits] at hword
  have hpend : toBytes (bytes.flatMap byteBits ++ byteBits 0x80#8) = bytes ++ [0x80#8] := by
    rw [toBytes_flatMap_append, ← append_nil (byteBits 0x80#8), toBytes_byteBits]
    rfl
  rw [hpend]
  match bytes, hcnt with
  | [], _ =>
    have hfree : s.packedStr.remainedBitsInPackedData = 24 := by
      simp at hroom
      omega
    rw [hfree] at hword
    have hkeep : escape s.packedStr.numZeroByte [0x80#8] = [0x80#8] := escape_keep _ 0x80#8 [] (by simp)
    simp [flushBitstream, writeRemained, hfree, hword, hkeep]
  | [b0], _ =>
    have hfree : s.packedStr.remainedBitsInPackedData = 16 := by
      simp at hroom
      omega
    rw [hfree] at hword
    obtain ⟨hbytes, hnum⟩ := insertEpbData_of_wordBytes s.packedStr.numZeroByte _ b0 0x80#8 0#8 0#8 hword
    rw [flushBitstream_epb s hepb (Or.inl hfree), hfree, hbytes, hnum,
      insertBytes_trailing_two s.packedStr.numZeroByte hs.zeros b0]
    rfl
  | [b0, b1], _ =>
    have hfree : s.packedStr.remainedBitsInPackedData = 8 := by
      simp at hroom
      omega
    rw [hfree] at hword
    obtain ⟨hbytes, hnum⟩ := insertEpbData_of_wordBytes s.packedStr.numZeroByte _ b0 b1 0x80#8 0#8 hword
    rw [flushBitstream_epb s hepb (Or.inr hfree), hfree, hbytes, hnum,
      insertBytes_trailing_three s.packedStr.numZeroByte hs.zeros b0 b1]
    rfl

theorem putFields_flush_stream
    (hs : Emits base bits pending s) (hepb : s.packedStr.isEpbOn) (fields : List (Nat × U32))
    (hfields : FieldsFit fields) (hwhole : 8 ∣ (bits ++ fieldBits fields).length) :
    (flushBitstream (putBits 8 0x80 (putFields fields s))).pStream =
      base ++ escape 0 (toBytes (bits ++ fieldBits fields) ++ [0x80#8]) := by
  obtain ⟨pending₁, hs₁⟩ := putFields_emits base fields bits pending s hs hfields
  obtain ⟨pending₂, hs₂⟩ := putBits_emits base 8 0x80 _ pending₁ _ hs₁ (by decide) (by decide)
  have hepb₂ := (putBits_advances 8 0x80 (putFields fields s)).isEpbOn.trans
    ((putFields_advances fields s).isEpbOn.trans hepb)
  have hbits : bits ++ fieldBits fields ++ toBits 8 (0x80 : U32).toNat =
      (toBytes (bits ++ fieldBits fields)).flatMap byteBits ++ byteBits 0x80#8 := by
    rw [flatMap_toBytes _ hwhole]
    rfl
  rw [flushBitstream_stream hs₂ hepb₂ _ hbits, hbits, toBytes_flatMap_append, ← append_nil (byteBits 0x80#8),
    toBytes_byteBits]
  rfl

/-- Emulation prevention is sound and lossless. The bytes of the stream can be marked as put or
inserted such that the put ones are the payload, only `03`s are inserted, and after two zero
bytes comes a byte above three or an inserted `03`; deleting these gives the payload back. -/
theorem putBits_emulation_prevention (fields : List (Nat × U32))
    (hfields : ∀ field ∈ fields, 1 ≤ field.1 ∧ field.1 ≤ 31 ∧ field.2.toNat < 2 ^ field.1)
    (htotal : 8 ∣ (fields.map Prod.fst).sum) :
    let start : BitWriter := { pStream := [], packedStr := PackedStr.init 0 true }
    let stream := (flushBitstream (putBits 8 0x80 (putFields fields start))).pStream
    let payload := toBytes (fieldBits fields) ++ [0x80#8]
    (∀ front back : List Byte, ∀ byte, stream = front ++ 0#8 :: 0#8 :: byte :: back → 2 < byte.toNat) ∧
      (∃ marked : List (Byte × Bool), marked.map Prod.fst = stream ∧
        (marked.filter fun entry => !entry.2).map Prod.fst = payload ∧
        (∀ entry ∈ marked, entry.2 → entry.1 = 3#8) ∧
        ∀ front back p q inserted, marked = front ++ (0#8, p) :: (0#8, q) :: (3#8, inserted) :: back →
          inserted = true) ∧
      unescape 0 stream = payload := by
  intro start stream payload
  have hlen : (fieldBits fields).length = (fields.map Prod.fst).sum := by
    simp [fieldBits, List.length_flatMap]
  have hstrm : stream = escape 0 payload :=
    putFields_flush_stream (emits_init [] 0 true) rfl fields (fun field hf => ⟨by have := hfields field hf; omega,
      (hfields field hf).2.2⟩) (by rw [List.nil_append, hlen]; exact htotal)
  refine ⟨?_, ⟨escapeMarked 0 payload, hstrm.symm, escapeMarked_kept 0 payload, escapeMarked_inserted 0 payload, ?_⟩,
    ?_⟩
  · intro front back byte hwin
    exact escape_window 0 payload front back byte (hstrm ▸ hwin)
  · intro front back p q inserted hwin
    rcases escapeMarked_window 0 payload front back p q inserted 3#8 hwin with hgt | ⟨-, hinserted⟩
    · exact absurd hgt (by decide)
    · exact hinserted
  · rw [hstrm, unescape_escape]

/-- A start code in the payload: `00 00 01`, cut into fields that do not end on bytes. -/
theorem putBits_emulation_prevention_startCode : let fields : List (Nat × U32) := [(4, 0#32), (15, 0#32), (5, 1#32)]
    let start : BitWriter := { pStream := [], packedStr := PackedStr.init 0 true }
    (∀ field ∈ fields, 1 ≤ field.1 ∧ field.1 ≤ 31 ∧ field.2.toNat < 2 ^ field.1) ∧ 8 ∣ (fields.map Prod.fst).sum ∧
      unescape 0 (flushBitstream (putBits 8 0x80 (putFields fields start))).pStream = [0#8, 0#8, 1#8, 0x80#8] := by
  have hfields : ∀ field ∈ [(4, 0#32), (15, 0#32), (5, 1#32)],
      1 ≤ field.1 ∧ field.1 ≤ 31 ∧ field.2.toNat < 2 ^ field.1 := by decide
  refine ⟨hfields, by decide, ?_⟩
  exact (putBits_emulation_prevention [(4, 0#32), (15, 0#32), (5, 1#32)] hfields (by decide)).2.2

end ExynosHal.VideoApi.PutBitsCorrect
