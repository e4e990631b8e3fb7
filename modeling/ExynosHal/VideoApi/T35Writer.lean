import ExynosHal.Library.BitBuffer
import ExynosHal.VideoApi.HdrData

/-! # `Exynos_dynamic_meta_to_itu_t_t35` (default build)

The source unrolls one bit loop by hand for every field. A field is first shifted so that its first bit meets
the current phase of the blob, then byte-swapped into `buffer`, and its bits are or-ed in one at a time.
-/

namespace ExynosHal.VideoApi.T35Writer
open Library.BitString Library.BitBuffer HdrData
open List (length_append length_drop)

structure WriterState where
  pBlob : Buffer
  bitOffset : Nat
  extraBit : Nat

/-- `for (k ...; count times) { pBlob[bit_offset / 8] |= byte & (1 << (7 - k)); bit_offset++; ... }`,
left at once when `bit_offset` reaches `offset_limit`. -/
def putLoop (byte : Byte) (offsetLimit : Nat) : Nat → Nat → WriterState → WriterState
  | 0, _, s => s
  | count + 1, k, s =>
    let s := { s with
      pBlob := orAt s.pBlob (s.bitOffset / 8) (byte &&& 1#8 <<< (7 - k))
      bitOffset := s.bitOffset + 1 }
    if s.bitOffset = offsetLimit then s else putLoop byte offsetLimit count (k + 1) s

def putBytes (offsetLimit : Nat) : List Byte → WriterState → WriterState
  | [], s => s
  | byte :: bytes, s =>
    let s := putLoop byte offsetLimit (8 - s.extraBit) s.extraBit s
    putBytes offsetLimit bytes { s with extraBit := s.bitOffset % 8 }

/-- Byte `i` of `buffer` after the four `memcpy`s from `tempBuffer`. -/
def swappedByte (tempBuffer : U32) (i : Nat) : Byte := (tempBuffer >>> (8 * (3 - i))).setWidth 8

def putField (width nBytes : Nat) (tempBuffer : U32) (s : WriterState) : WriterState :=
  putBytes (s.bitOffset + width) ((List.range nBytes).map (swappedByte tempBuffer)) s

def putHeaderByte (offsetLimit : Nat) (byte : Byte) (s : WriterState) : WriterState := putLoop byte offsetLimit 8 0 s

def putHeader8 (value : U8) (s : WriterState) : WriterState :=
  let s := putHeaderByte (s.bitOffset + 8) value s
  { s with extraBit := s.bitOffset % 8 }

def putHeader16 (value : U16) (s : WriterState) : WriterState :=
  let offsetLimit := s.bitOffset + 16
  let s := putHeaderByte offsetLimit ((value >>> 8).setWidth 8) s
  let s := putHeaderByte offsetLimit (value.setWidth 8) s
  { s with extraBit := s.bitOffset % 8 }

def skip (width : Nat) (s : WriterState) : WriterState :=
  { s with bitOffset := s.bitOffset + width, extraBit := (s.bitOffset + width) % 8 }

def putNumWindows (s : WriterState) : WriterState :=
  let s := putLoop 0x40 (s.bitOffset + 2) 2 0 s
  { s with extraBit := s.bitOffset % 8 }

def putDisplayMaximumLuminance (d : ExynosHdrData) (s : WriterState) : WriterState :=
  putField 27 4 (d.displayMaximumLuminance <<< (5 - s.extraBit)) s

def putBits17 (value : U32) (s : WriterState) : WriterState := putField 17 3 (value <<< (15 - s.extraBit)) s

def putMaxscl (d : ExynosHdrData) : Nat → Nat → WriterState → WriterState
  | 0, _, s => s
  | count + 1, i, s => putMaxscl d count (i + 1) (putBits17 (d.maxscl i) s)

/-- The only field that takes its bits from the low byte of `tempBuffer`. -/
def putNumMaxrgbPercentiles (d : ExynosHdrData) (s : WriterState) : WriterState :=
  let tempBuffer := d.numMaxrgbPercentiles.setWidth 32 <<< (4 - s.extraBit)
  let s := putLoop (tempBuffer.setWidth 8) (s.bitOffset + 4) (8 - s.extraBit) s.extraBit s
  { s with extraBit := s.bitOffset % 8 }

def putMaxrgbPercentage (value : U8) (s : WriterState) : WriterState :=
  let extraByte := if s.extraBit > 1 then 1 else 0
  putField 7 (1 + extraByte) (value.setWidth 32 <<< (25 - s.extraBit)) s

def putPercentiles (d : ExynosHdrData) : Nat → Nat → WriterState → WriterState
  | 0, _, s => s
  | count + 1, i, s =>
    putPercentiles d count (i + 1) (putBits17 (d.maxrgbPercentiles i) (putMaxrgbPercentage (d.maxrgbPercentages i) s))

def putToneMappingFlag (t : ToneMapping) (s : WriterState) : WriterState :=
  let pBlob := if t.toneMappingFlag ≠ 0 then
    orAt s.pBlob (s.bitOffset / 8) (1#8 <<< (7 - s.extraBit)) else s.pBlob
  skip 1 { s with pBlob }

def putKneePoint (value : U16) (s : WriterState) : WriterState :=
  let extraByte := if s.extraBit > 4 then 1 else 0
  putField 12 (2 + extraByte) (value.setWidth 32 <<< (20 - s.extraBit)) s

def putNumBezierCurveAnchors (value : U16) (s : WriterState) : WriterState :=
  let extraByte := if s.extraBit > 4 then 1 else 0
  putField 4 (1 + extraByte) (value.setWidth 32 <<< (28 - s.extraBit)) s

def putBezierCurveAnchor (value : U16) (s : WriterState) : WriterState :=
  let extraByte := if s.extraBit > 6 then 1 else 0
  putField 10 (2 + extraByte) (value.setWidth 32 <<< (22 - s.extraBit)) s

def putAnchors (t : ToneMapping) : Nat → Nat → WriterState → WriterState
  | 0, _, s => s
  | count + 1, i, s => putAnchors t count (i + 1) (putBezierCurveAnchor (t.bezierCurveAnchors i) s)

def putCurve (t : ToneMapping) (s : WriterState) : WriterState :=
  if t.toneMappingFlag ≠ 0 then
    let s := putKneePoint t.kneePointX s
    let s := putKneePoint t.kneePointY s
    let s := putNumBezierCurveAnchors t.numBezierCurveAnchors s
    putAnchors t t.numBezierCurveAnchors.toNat 0 s
  else s

def putT35Header (d : ExynosHdrData) (s : WriterState) : WriterState :=
  let s := putHeader8 d.countryCode s
  let s := putHeader16 d.providerCode s
  let s := putHeader16 d.providerOrientedCode s
  let s := putHeader8 d.applicationIdentifier s
  putHeader8 d.applicationVersion s

def putT35Body (d : ExynosHdrData) (s : WriterState) : WriterState :=
  let s := putNumWindows s
  let s := putDisplayMaximumLuminance d s
  let s := skip 1 s       -- targeted_system_display_actual_peak_luminance_flag
  let s := putMaxscl d 3 0 s
  let s := skip 17 s      -- average_maxrgb
  let s := putNumMaxrgbPercentiles d s
  let s := putPercentiles d d.numMaxrgbPercentiles.toNat 0 s
  let s := skip 10 s      -- fraction_bright_pixels
  let s := skip 1 s       -- mastering_display_actual_peak_luminance_flag
  let s := putToneMappingFlag d.toneMapping s
  let s := putCurve d.toneMapping s
  skip 1 s                -- color_saturation_mapping_flag

/-- Returns the size in bytes and the blob; `dst` is what the caller passes in. -/
def exynosDynamicMetaToItuTT35 (d : ExynosHdrData) (dst : Buffer) : Nat × Buffer :=
  let s := putT35Body d (putT35Header d { pBlob := dst, bitOffset := 0, extraBit := 0 })
  (if s.extraBit > 0 then s.bitOffset / 8 + 1 else s.bitOffset / 8, s.pBlob)

/-- The blob carries exactly `bits` and the counters stand behind them. -/
structure Writes (s : WriterState) (bits : List Bool) : Prop where
  holds : Holds s.pBlob bits
  bitOffset : s.bitOffset = bits.length
  extraBit : s.extraBit = bits.length % 8

theorem putLoop_holds (byte : Byte) (count k width : Nat) (s : WriterState) (bits : List Bool)
    (hholds : Holds s.pBlob bits) (hoff : s.bitOffset = bits.length)
    (hphase : 0 < count → bits.length % 8 = k) (hcnt : k + count ≤ 8) (hwidth : 0 < width) :
    let s' := putLoop byte (bits.length + width) count k s
    Holds s'.pBlob (bits ++ ((byteBits byte).drop k).take (min count width)) ∧
      s'.bitOffset = bits.length + min count width ∧ s'.extraBit = s.extraBit := by
  induction count generalizing k width s bits with
  | zero => simpa [putLoop, hoff] using hholds
  | succ count ih =>
    have hk : bits.length % 8 = k := hphase (by omega)
    have hbit : (byteBits byte).drop k = byte.getLsbD (7 - k) :: (byteBits byte).drop (k + 1) := by
      have hlt : k < (byteBits byte).length := by rw [length_byteBits]; omega
      rw [List.drop_eq_getElem_cons hlt]
      congr 1
      have hget := getElem?_toBits 8 byte.toNat k (by omega)
      rw [show 8 - 1 - k = 7 - k by omega] at hget
      have hlt' : k < (toBits 8 byte.toNat).length := hlt
      rw [List.getElem?_eq_getElem hlt'] at hget
      exact Option.some.inj hget
    have hstep : Holds (orAt s.pBlob (s.bitOffset / 8) (byte &&& 1#8 <<< (7 - k)))
        (bits ++ [byte.getLsbD (7 - k)]) := by
      have h := hholds.orBit byte
      rwa [hk, ← hoff] at h
    simp only [putLoop]
    by_cases hlast : width = 1
    · -- the limit is met by this very bit
      have hlimit : s.bitOffset + 1 = bits.length + width := by omega
      rw [if_pos hlimit, hlast, show min (count + 1) 1 = 1 by omega, hbit]
      refine ⟨by simpa using hstep, by simpa using hoff, rfl⟩
    · have hlimit : ¬s.bitOffset + 1 = bits.length + width := by omega
      rw [if_neg hlimit]
      have hrec := ih (k + 1) (width - 1) { s with
          pBlob := orAt s.pBlob (s.bitOffset / 8) (byte &&& 1#8 <<< (7 - k))
          bitOffset := s.bitOffset + 1 }
        (bits ++ [byte.getLsbD (7 - k)]) hstep (by simp [hoff])
        (by intro _; rw [length_append, List.length_singleton]; omega) (by omega) (by omega)
      rw [show (bits ++ [byte.getLsbD (7 - k)]).length + (width - 1) = bits.length + width by
        rw [length_append, List.length_singleton]; omega] at hrec
      obtain ⟨hrecHolds, hrecOff, hrecExtra⟩ := hrec
      rw [hbit, show min (count + 1) width = min count (width - 1) + 1 by omega, List.take_succ_cons]
      refine ⟨by simpa using hrecHolds, ?_, hrecExtra⟩
      rw [hrecOff, length_append, List.length_singleton]
      omega

theorem putBytes_writes (bytes : List Byte) (width : Nat) (s : WriterState) (bits : List Bool)
    (hs : Writes s bits) (hlow : 8 * bytes.length < bits.length % 8 + width + 8)
    (hhigh : bits.length % 8 + width ≤ 8 * bytes.length) (hwidth : 0 < width) :
    Writes (putBytes (bits.length + width) bytes s)
      (bits ++ ((bytes.flatMap byteBits).drop (bits.length % 8)).take width) := by
  induction bytes generalizing width s bits with
  | nil =>
    simp only [List.length_nil] at hhigh
    omega
  | cons byte bytes ih =>
    have hloop := putLoop_holds byte (8 - bits.length % 8) (bits.length % 8) width s bits hs.holds
      hs.bitOffset (fun _ => rfl) (by omega) hwidth
    simp only [← hs.extraBit] at hloop
    obtain ⟨hholds, hoff, -⟩ := hloop
    rw [hs.extraBit] at hholds hoff
    simp only [List.length_cons] at hlow hhigh
    simp only [putBytes, List.flatMap_cons]
    rw [List.drop_append_of_le_length (by rw [length_byteBits]; omega)]
    by_cases hdone : bits.length % 8 + width ≤ 8
    · -- the field ends inside this byte, so no byte is left
      have hnil : bytes = [] := List.length_eq_zero_iff.mp (by omega)
      subst hnil
      have hmin : min (8 - bits.length % 8) width = width := by omega
      have hlen : (((byteBits byte).drop (bits.length % 8)).take width).length = width := by
        simp only [List.length_take, length_drop, length_byteBits]
        omega
      rw [hmin] at hholds hoff
      rw [hs.extraBit, List.flatMap_nil, List.append_nil, putBytes]
      refine ⟨hholds, ?_, ?_⟩
      · simp only [hoff, length_append, hlen]
      · simp only [hoff, length_append, hlen]
    · have hmin : min (8 - bits.length % 8) width = 8 - bits.length % 8 := by omega
      have htake : ((byteBits byte).drop (bits.length % 8)).take (8 - bits.length % 8) =
          (byteBits byte).drop (bits.length % 8) := by
        apply List.take_of_length_le
        rw [length_drop, length_byteBits]
      rw [hmin, htake] at hholds
      rw [hmin] at hoff
      have hlen : (bits ++ (byteBits byte).drop (bits.length % 8)).length = bits.length + (8 - bits.length % 8) := by
        rw [length_append, length_drop, length_byteBits]
      have hphase : (bits ++ (byteBits byte).drop (bits.length % 8)).length % 8 = 0 := by
        rw [hlen]; omega
      have hrec := ih (width - (8 - bits.length % 8))
        { putLoop byte (bits.length + width) (8 - s.extraBit) s.extraBit s with
          extraBit := (putLoop byte (bits.length + width) (8 - s.extraBit) s.extraBit s).bitOffset % 8 }
        (bits ++ (byteBits byte).drop (bits.length % 8))
        ⟨by rw [hs.extraBit]; exact hholds, by rw [hs.extraBit, hlen]; exact hoff,
          by rw [hs.extraBit, hlen, hoff]⟩
        (by rw [hphase]; omega) (by rw [hphase]; omega) (by omega)
      rw [hphase, List.drop_zero, hlen,
        show bits.length + (8 - bits.length % 8) + (width - (8 - bits.length % 8)) =
          bits.length + width by omega] at hrec
      rw [List.take_append, length_drop, length_byteBits,
        List.take_of_length_le (by rw [length_drop, length_byteBits]; omega),
        ← List.append_assoc]
      exact hrec

end ExynosHal.VideoApi.T35Writer
