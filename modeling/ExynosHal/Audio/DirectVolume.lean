import ExynosHal.Audio.Types
import Mathlib.Tactic.Linarith

/-! # The software volume of direct outputs

`adjust_out_volume` scales a buffer in place. It counts the channels of an output with the
helper for inputs, whose channel bits `inputBits` belong to the Android headers, and only
the products of 32-bit samples are taken in 64 bits.
-/

namespace ExynosHal.Audio.DirectVolume

inductive Format where
  | pcm16Bit | pcm32Bit | pcm824Bit
  deriving DecidableEq

def Format.bits : Format → Nat
  | .pcm16Bit => 16
  | .pcm32Bit | .pcm824Bit => 32

def Format.bytesPerSample : Format → Nat
  | .pcm16Bit => 2
  | .pcm32Bit | .pcm824Bit => 4

def Format.productBits : Format → Nat
  | .pcm16Bit | .pcm824Bit => 32
  | .pcm32Bit => 64

/-- `clamp16`, `clamp32` and `clamp24_from_q8_23` saturate to these widths. -/
def Format.clampBits : Format → Nat
  | .pcm16Bit => 16
  | .pcm32Bit => 32
  | .pcm824Bit => 24

def Format.clamp (f : Format) (x : Int) : BitVec f.bits :=
  .ofInt f.bits (max (-2 ^ (f.clampBits - 1)) (min x (2 ^ (f.clampBits - 1) - 1)))

def directPlaybackVolumeMax : Nat := 8192

abbrev Volume := Fin (directPlaybackVolumeMax + 1)

/-- The samples of a buffer and the bytes behind the last whole one. -/
structure Buffer (f : Format) where
  samples : List (BitVec f.bits)
  rest : List U8
  rest_lt : rest.length < f.bytesPerSample

def Buffer.bytes {f : Format} (buffer : Buffer f) : Nat := buffer.samples.length * f.bytesPerSample + buffer.rest.length

def audioChannelCountFromInMask (inputBits mask : U32) : Nat := popcount (mask &&& inputBits)

def scale (f : Format) (leftvolume : Volume) (s : BitVec f.bits) : BitVec f.bits :=
  f.clamp ((s.signExtend f.productBits * .ofInt f.productBits leftvolume).sshiftRight 12).toInt

/-- The buffer, the place of the pointer into it and the places written so far. -/
structure Scan (bits : Nat) where
  samples : List (BitVec bits)
  pos : Nat
  written : List Nat

section
variable {bits : Nat} (g : BitVec bits → BitVec bits)

def adjustSample (st : Scan bits) : Option (Scan bits) := do
  let s ← st.samples[st.pos]?
  return { samples := st.samples.set st.pos (g s), pos := st.pos + 1, written := st.written ++ [st.pos] }

def adjustFrame : Nat → Scan bits → Option (Scan bits)
  | 0, st => some st
  | channels + 1, st => do adjustFrame channels (← adjustSample g st)

def adjustFrames (channels : Nat) : Nat → Scan bits → Option (Scan bits)
  | 0, st => some st
  | frames + 1, st => do adjustFrames channels frames (← adjustFrame g channels st)

end

/-- Undefined for a division by zero and beyond the buffer. A negative `frames` is counted down until it overflows. -/
def adjustOutVolume (inputBits mask : U32) {f : Format} (leftvolume : Volume) (buffer : Buffer f) :
    Option (Scan f.bits) :=
  let numReqChannels := audioChannelCountFromInMask inputBits mask
  if numReqChannels = 0 then none
  else
    let frames := (BitVec.ofInt 32 (buffer.bytes / (numReqChannels * f.bytesPerSample) : Nat)).toInt
    if frames < 0 then none
    else adjustFrames (scale f leftvolume) numReqChannels frames.toNat ⟨buffer.samples, 0, []⟩

def exactSample (f : Format) (leftvolume : Volume) (s : BitVec f.bits) : BitVec f.bits :=
  f.clamp (s.toInt * leftvolume / 2 ^ 12)

def wholeSamples (mask : U32) {f : Format} (buffer : Buffer f) : Nat :=
  buffer.bytes / (popcount mask * f.bytesPerSample) * popcount mask

/-- Every sample of the whole frames is written once, with its exact value, and nothing else is. -/
def Exact (mask : U32) {f : Format} (leftvolume : Volume) (buffer : Buffer f) (result : Option (Scan f.bits)) : Prop :=
  ∃ st, result = some st ∧ st.written = List.range (wholeSamples mask buffer) ∧
    st.samples = (buffer.samples.take (wholeSamples mask buffer)).map (exactSample f leftvolume) ++
      buffer.samples.drop (wholeSamples mask buffer)

/-- Some output channel is an input channel as well, both counts leave the same samples over, the frames fit an
`int`, and so do the products of 8.24 samples. -/
structure Fits (inputBits mask : U32) {f : Format} (leftvolume : Volume) (buffer : Buffer f) : Prop where
  channels : audioChannelCountFromInMask inputBits mask ≠ 0
  whole : buffer.samples.length % audioChannelCountFromInMask inputBits mask = buffer.samples.length % popcount mask
  frames : buffer.samples.length / audioChannelCountFromInMask inputBits mask < 2 ^ 31
  products : f = .pcm824Bit → ∀ s ∈ buffer.samples.take (wholeSamples mask buffer),
    -2 ^ 31 ≤ s.toInt * leftvolume ∧ s.toInt * leftvolume < 2 ^ 31

section
variable {bits : Nat} {g : BitVec bits → BitVec bits} {samples : List (BitVec bits)} {k : Nat}

def Scan.after (g : BitVec bits → BitVec bits) (samples : List (BitVec bits)) (k : Nat) : Scan bits :=
  ⟨(samples.take k).map g ++ samples.drop k, k, List.range k⟩

theorem adjustSample_after (hk : k < samples.length) :
    adjustSample g (.after g samples k) = some (.after g samples (k + 1)) := by
  have hlen : ((samples.take k).map g).length = k := by simp [hk.le]
  have hget : ((samples.take k).map g ++ samples.drop k)[k]? = some samples[k] := by
    rw [List.getElem?_append_right hlen.le, hlen, Nat.sub_self, List.drop_eq_getElem_cons hk]
    rfl
  have hset : ((samples.take k).map g ++ samples.drop k).set k (g samples[k]) =
      (samples.take (k + 1)).map g ++ samples.drop (k + 1) := by
    rw [List.set_append_right _ _ hlen.le, hlen, Nat.sub_self, List.drop_eq_getElem_cons hk, List.set_cons_zero,
      List.take_succ_eq_append_getElem hk, List.map_append, List.append_assoc]
    rfl
  simp only [adjustSample, Scan.after, hget, Option.bind_eq_bind, Option.bind_some, hset, List.range_succ]
  rfl

theorem adjustFrame_after (channels : Nat) (hk : k + channels ≤ samples.length) :
    adjustFrame g channels (.after g samples k) = some (.after g samples (k + channels)) := by
  induction channels generalizing k with
  | zero => rfl
  | succ channels ih =>
    rw [adjustFrame, adjustSample_after (by omega)]
    simpa [Nat.add_right_comm, Nat.add_assoc] using ih (k := k + 1) (by omega)

theorem adjustFrames_after (channels frames : Nat) (hk : k + frames * channels ≤ samples.length) :
    adjustFrames g channels frames (.after g samples k) = some (.after g samples (k + frames * channels)) := by
  induction frames generalizing k with
  | zero => simp [adjustFrames]
  | succ frames ih =>
    rw [Nat.succ_mul] at hk ⊢
    rw [adjustFrames, adjustFrame_after channels (by omega)]
    simpa [Nat.add_assoc, Nat.add_comm channels] using ih (k := k + channels) (by omega)

end

section
variable {f : Format} (buffer : Buffer f)

theorem bytes_div (channels : Nat) :
    buffer.bytes / (channels * f.bytesPerSample) = buffer.samples.length / channels := by
  have hlt := buffer.rest_lt
  rw [Nat.mul_comm channels, ← Nat.div_div_eq_div_mul, Buffer.bytes, Nat.mul_comm,
    Nat.mul_add_div (Nat.zero_lt_of_lt hlt), Nat.div_eq_of_lt hlt, Nat.add_zero]

theorem wholeSamples_eq (mask : U32) :
    wholeSamples mask buffer = buffer.samples.length / popcount mask * popcount mask := by
  rw [wholeSamples, bytes_div]

theorem popcount_le (mask : U32) : popcount mask ≤ 32 := by
  simpa [popcount] using List.countP_le_length (p := fun k => mask.getLsbD k) (l := List.range 32)

theorem popcount_and_le (mask inputBits : U32) : popcount (mask &&& inputBits) ≤ popcount mask := by
  apply List.countP_mono_left
  intro k _ hk
  rw [BitVec.getLsbD_and, Bool.and_eq_true] at hk
  exact hk.1

theorem adjustOutVolume_eq (inputBits mask : U32) (leftvolume : Volume)
    (hchannels : audioChannelCountFromInMask inputBits mask ≠ 0) :
    adjustOutVolume inputBits mask leftvolume buffer = none ∧
        2 ^ 31 ≤ buffer.samples.length / audioChannelCountFromInMask inputBits mask ∨
      ∃ frames, adjustOutVolume inputBits mask leftvolume buffer =
          some (.after (scale f leftvolume) buffer.samples (frames * audioChannelCountFromInMask inputBits mask)) ∧
        (frames = buffer.samples.length / audioChannelCountFromInMask inputBits mask ∧ frames < 2 ^ 31 ∨
          frames + 2 ^ 32 ≤ buffer.samples.length / audioChannelCountFromInMask inputBits mask) := by
  rw [adjustOutVolume, if_neg hchannels, bytes_div]
  generalize hcnt : audioChannelCountFromInMask inputBits mask = channels at *
  generalize hquot : buffer.samples.length / channels = quotient
  have hwraps := Int.bmod_add_bdiv (quotient : Int) (2 ^ 32)
  have hlower := Int.le_bmod (x := quotient) (m := 2 ^ 32) (by decide)
  have hupper := Int.bmod_lt (x := quotient) (m := 2 ^ 32) (by decide)
  dsimp only
  rw [BitVec.toInt_ofInt]
  split_ifs with hneg
  · exact .inl ⟨rfl, by omega⟩
  · right
    have hle : ((quotient : Int).bmod (2 ^ 32)).toNat ≤ quotient := by omega
    have hinside : ((quotient : Int).bmod (2 ^ 32)).toNat * channels ≤ buffer.samples.length :=
      (Nat.mul_le_mul_right channels hle).trans (hquot ▸ Nat.div_mul_le_self _ _)
    have hrun := adjustFrames_after (g := scale f leftvolume) channels _ ((Nat.zero_add _).trans_le hinside)
    rw [Nat.zero_add] at hrun
    refine ⟨_, hrun, ?_⟩
    omega

end

section
variable {f : Format} {leftvolume : Volume} {s : BitVec f.bits}

theorem toInt_product : (s.signExtend f.productBits * .ofInt f.productBits leftvolume).toInt =
    (s.toInt * leftvolume).bmod (2 ^ f.productBits) := by
  have hwide : f.bits ≤ f.productBits := by cases f <;> decide
  rw [BitVec.toInt_mul, BitVec.toInt_signExtend_of_le hwide, BitVec.toInt_ofInt, Int.mul_bmod_bmod]

theorem scale_eq : scale f leftvolume s = f.clamp ((s.toInt * leftvolume).bmod (2 ^ f.productBits) / 2 ^ 12) := by
  rw [scale, BitVec.toInt_sshiftRight, toInt_product, Int.shiftRight_eq_div_pow]
  rfl

theorem toInt_clamp (x : Int) :
    (f.clamp x).toInt = max (-2 ^ (f.clampBits - 1)) (min x (2 ^ (f.clampBits - 1) - 1)) := by
  rw [Format.clamp, BitVec.toInt_ofInt]
  apply Int.bmod_eq_of_le <;> cases f <;> simp [Format.clampBits, Format.bits]

theorem scale_eq_exactSample_iff : scale f leftvolume s = exactSample f leftvolume s ↔
      (f = .pcm824Bit → -2 ^ 31 ≤ s.toInt * leftvolume ∧ s.toInt * leftvolume < 2 ^ 31) := by
  have hvol : (leftvolume : Int) ≤ 8192 := by exact_mod_cast Nat.le_of_lt_succ leftvolume.isLt
  have hupper : s.toInt < 2 ^ (f.bits - 1) := BitVec.toInt_lt
  have hlower : -2 ^ (f.bits - 1) ≤ s.toInt := BitVec.le_toInt s
  have hmost : s.toInt * leftvolume ≤ 2 ^ (f.bits - 1) * 8192 := by nlinarith
  have hleast : -2 ^ (f.bits - 1) * 8192 ≤ s.toInt * leftvolume := by nlinarith
  rw [scale_eq, exactSample, ← BitVec.toInt_inj, toInt_clamp, toInt_clamp]
  clear hvol hupper hlower
  generalize s.toInt * (leftvolume : Int) = product at *
  have hwraps := Int.bmod_add_bdiv product (2 ^ 32)
  have hsmall := Int.le_bmod (x := product) (m := 2 ^ 32) (by decide)
  have hlarge := Int.bmod_lt (x := product) (m := 2 ^ 32) (by decide)
  cases f with
  | pcm16Bit =>
    rw [Int.bmod_eq_of_le] <;> simp [Format.productBits, Format.bits] at * <;> omega
  | pcm32Bit =>
    rw [Int.bmod_eq_of_le] <;> simp [Format.productBits, Format.bits] at *
    · omega
    · omega
  | pcm824Bit =>
    simp [Format.productBits, Format.bits, Format.clampBits] at *
    omega

end

section
variable {f : Format} {inputBits mask : U32} {leftvolume : Volume} {buffer : Buffer f}

theorem exact_after_iff (k : Nat) : Exact mask leftvolume buffer (some (.after (scale f leftvolume) buffer.samples k)) ↔
      k = wholeSamples mask buffer ∧ ∀ s ∈ buffer.samples.take k, scale f leftvolume s =
        exactSample f leftvolume s := by
  constructor
  · rintro ⟨st, hst, hwritten, hsamples⟩
    cases hst
    have hwhole : k = wholeSamples mask buffer := by simpa [Scan.after] using congrArg List.length hwritten
    rw [← hwhole] at hsamples
    exact ⟨hwhole, List.map_inj_left.mp (List.append_cancel_right hsamples)⟩
  · rintro ⟨rfl, hsamples⟩
    refine ⟨_, rfl, rfl, ?_⟩
    rw [Scan.after, List.map_congr_left hsamples]

/-- The volume is exact just when the helper for inputs counts at least one channel and the same whole frames, the
frames fit an `int` and the 8.24 products 32 bits. -/
theorem adjustOutVolume_exact_iff (inputBits mask : U32) (f : Format) (leftvolume : Volume) (buffer : Buffer f) :
    Exact mask leftvolume buffer (adjustOutVolume inputBits mask leftvolume buffer) ↔
      Fits inputBits mask leftvolume buffer := by
  have hpop := popcount_le mask
  have hwhole := wholeSamples_eq buffer mask
  have hrest := Nat.div_add_mod' buffer.samples.length (popcount mask)
  have hover := Nat.div_add_mod' buffer.samples.length (audioChannelCountFromInMask inputBits mask)
  constructor
  · intro hexact
    have hchannels : audioChannelCountFromInMask inputBits mask ≠ 0 := by
      intro hzero
      obtain ⟨st, hst, -⟩ := hexact
      simp [adjustOutVolume, hzero] at hst
    have hless : audioChannelCountFromInMask inputBits mask ≤ popcount mask := popcount_and_le mask inputBits
    have hmod := Nat.mod_lt buffer.samples.length (show 0 < popcount mask by omega)
    rcases adjustOutVolume_eq buffer inputBits mask leftvolume hchannels with ⟨hnone, -⟩ | ⟨frames, hrun, hframes⟩
    · obtain ⟨st, hst, -⟩ := hexact
      cases hnone.symm.trans hst
    rw [hrun, exact_after_iff] at hexact
    obtain ⟨hwritten, hsamples⟩ := hexact
    rcases hframes with ⟨rfl, hfew⟩ | hmany
    · refine ⟨hchannels, by omega, hfew, ?_⟩
      intro hf s hs
      exact scale_eq_exactSample_iff.mp (hsamples s (hwritten ▸ hs)) hf
    · have hshort := Nat.mul_le_mul_right (audioChannelCountFromInMask inputBits mask) hmany
      rw [Nat.add_mul] at hshort
      omega
  · intro h
    have hchannels := h.channels
    have hframes := h.frames
    rcases adjustOutVolume_eq buffer inputBits mask leftvolume h.channels with ⟨-, hmany⟩ | ⟨frames, hrun,
      ⟨rfl, -⟩ | hmany⟩
    · omega
    · have hrest := h.whole
      have hsame : buffer.samples.length / audioChannelCountFromInMask inputBits mask *
          audioChannelCountFromInMask inputBits mask = wholeSamples mask buffer := by omega
      rw [hrun, exact_after_iff, hsame]
      exact ⟨rfl, fun s hs => scale_eq_exactSample_iff.mpr fun hf => h.products hf s hs⟩
    · omega

theorem stereo_divides_by_zero : ¬ ∀ (mask : U32) (leftvolume : Volume) (buffer : Buffer .pcm16Bit), 0 < popcount mask →
      Exact mask leftvolume buffer (adjustOutVolume 0x77FFFC mask leftvolume buffer) := by
  intro h
  obtain ⟨st, hst, -⟩ := h 0x3 0 ⟨[0, 0], [], by decide⟩ (by decide)
  cases hst

end

end ExynosHal.Audio.DirectVolume
