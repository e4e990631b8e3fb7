import ExynosHal.Csc.ConvSwCorrect

/-! # Copies for the MFC and back

The encoder branches of `copy_mfc_data` pad the rows of a tight picture and the decoder branches take the
padding away.
-/

namespace ExynosHal.Csc
open Library SwConverter

section
variable {pitch len rows : Nat} {s e : Buffer}

def Padded (pitch len rows : Nat) (s e : Buffer) : Prop := ∀ x < len, ∀ y < rows, e (pitch * y + x) = s (len * y + x)

theorem row_end_le {y y' x : Nat} (hx : x < pitch) (hy : y < y') : pitch * y + x < pitch * y' := by
  calc
    pitch * y + x < pitch * y + pitch := by omega
    _ = pitch * (y + 1) := by ring
    _ ≤ pitch * y' := Nat.mul_le_mul_left pitch hy

/-- The offsets of `copyRows` do not wrap. -/
structure RowsFit (pitch len rows : Nat) : Prop where
  size : pitch * rows < 2 ^ 32
  count : rows < 2 ^ 31
  row : len < 2 ^ 32
  padding : len ≤ pitch

theorem RowsFit.tight (hfit : RowsFit pitch len rows) : len * rows < 2 ^ 32 :=
  Nat.lt_of_le_of_lt (Nat.mul_le_mul_right rows hfit.padding) hfit.size

theorem padded_copyRows (dst : Buffer) (hfit : RowsFit pitch len rows) (s : Buffer) :
    Padded pitch len rows s (copyRows dst pitch s len len rows) := by
  have hpitch := hfit.padding
  have hrows : ∀ x < len, ∀ y < rows, copyRows dst pitch s len len rows (pitch * y + x) = s (len * y + x) := by
    rw [copyRows, if_pos hfit.count, uint_eq hfit.row]
    refine @forLoop_one _ rows _ (fun i e => ∀ x < len, ∀ y < i, e (pitch * y + x) = s (len * y + x)) ?_ dst ?_
    · intro i e hi hI x hx y hy
      rw [memcpy, copy, uint_row hfit.size hi, uint_row hfit.tight hi]
      by_cases hyi : y = i
      · subst hyi
        rw [if_pos ⟨by omega, by omega⟩, Nat.add_sub_cancel_left]
      · have hbefore : pitch * y + x < pitch * i := row_end_le (by omega) (by omega)
        rw [if_neg (by omega)]
        exact hI x hx y (by omega)
    · intro x _ y hy
      exact absurd hy (Nat.not_lt_zero y)
  exact hrows

theorem padded_memcpy (hsize : len * rows < 2 ^ 32) (dst s : Buffer) :
    Padded len len rows s (memcpy dst 0 s 0 (uint (len * rows))) := by
  intro x hx y hy
  rw [uint_eq hsize]
  exact memcpy_apply dst s (row_end_le hx hy)

theorem Padded.restored (h : Padded pitch len rows s e) (hfit : RowsFit pitch len rows) (dst : Buffer) :
    ∀ n < len * rows, copyRows dst len e pitch len rows n = s n := by
  intro n hn
  have hplane := copyRows_isPlane dst e hfit.padding hfit.count hfit.row hfit.size
  have hpos : 0 < len := Nat.pos_of_mul_pos_right (by omega : 0 < len * rows)
  have hx : n % len < len := Nat.mod_lt n hpos
  have hy : n / len < rows := Nat.div_lt_of_lt_mul hn
  have hsample := hplane.sample_eq _ hx _ hy
  rw [Nat.div_add_mod'] at hsample
  rw [hsample, h _ hx _ hy, Nat.div_add_mod]

theorem Padded.of_one_row {pitch' : Nat} (h : Padded pitch len rows s e) (hrows : rows ≤ 1) :
    Padded pitch' len rows s e := by
  intro x hx y hy
  obtain rfl : y = 0 := by omega
  have hrow := h x hx 0 hy
  rwa [Nat.mul_zero] at hrow ⊢

theorem copyRows_gap (dst : Buffer) (hfit : RowsFit pitch len rows) (srcPitch : Nat) {n : Nat} (hlow : len ≤ n)
    (hhigh : n < pitch) : copyRows dst pitch s srcPitch len rows n = dst n := by
  rw [copyRows, if_pos hfit.count, uint_eq hfit.row]
  refine @forLoop_one _ rows _ (fun _ e => e n = dst n) ?_ dst rfl
  intro i e hi hI
  have hout : ¬ (pitch * i ≤ n ∧ n < pitch * i + len) := by
    cases i with
    | zero => omega
    | succ i =>
      have hnext : pitch ≤ pitch * (i + 1) := Nat.le_mul_of_pos_right pitch (Nat.succ_pos i)
      omega
  rw [uint_row hfit.size hi, memcpy, copy, if_neg hout]
  exact hI

theorem second_row_gap {pitch' : Nat} (dst dst' : Buffer) (hfit : RowsFit pitch len rows) (hlen : 0 < len)
    (hlow : len ≤ pitch') (hpitch : pitch' < pitch) (hrows : 1 < rows) :
    copyRows dst' len (copyRows dst pitch s len len rows) pitch' len rows len = dst pitch' := by
  have hsize := Nat.lt_of_le_of_lt (Nat.mul_le_mul_right rows hpitch.le) hfit.size
  have hsample := (copyRows_isPlane dst' (copyRows dst pitch s len len rows) hlow hfit.count hfit.row hsize).sample_eq
    0 hlen 1 hrows
  rw [Nat.one_mul, Nat.mul_one, Nat.add_zero, Nat.add_zero] at hsample
  rw [hsample, copyRows_gap dst hfit len hlow hpitch]

end

def PixelFormat.multiPlane : PixelFormat → Option PixelFormat
  | .ycbcr420P => some .ycbcr420PM
  | .yv12 => some .yv12M
  | .ycbcr420Sp => some .ycbcr420SpM
  | .ycrcb420Sp => some .ycrcb420SpM
  | .ycbcrP010 => some .ycbcrP010M
  | _ => none

def PixelFormat.Planar (f : PixelFormat) : Prop := f = .ycbcr420P ∨ f = .yv12

def planeBytes (f : PixelFormat) (cw ch : Nat) : Nat × Nat × Nat :=
  match f with
  | .ycbcr420P | .yv12 => (cw * ch, cw / 2 * (ch / 2), cw / 2 * (ch / 2))
  | .ycbcrP010 => (cw * 2 * ch, cw * 2 * (ch / 2), 0)
  | _ => (cw * ch, cw * (ch / 2), 0)

structure SamePlanes (f : PixelFormat) (cw ch : Nat) (planes planes' : PlaneBuffers) : Prop where
  y : ∀ n < (planeBytes f cw ch).1, planes'.y n = planes.y n
  u : ∀ n < (planeBytes f cw ch).2.1, planes'.u n = planes.u n
  v : ∀ n < (planeBytes f cw ch).2.2, planes'.v n = planes.v n

structure ThereAndBack (f fM : PixelFormat) (cw ch padded : Nat) (enc dec : Handle) : Prop where
  encFormat : enc.srcFormat.colorFormat = f
  encWidth : enc.srcFormat.width = cw
  encCropWidth : enc.srcFormat.cropWidth = cw
  encHeight : enc.srcFormat.height = ch
  encPadded : enc.dstFormat.width = padded
  decFormat : dec.srcFormat.colorFormat = fM
  decWidth : dec.srcFormat.width = padded
  decCropWidth : dec.srcFormat.cropWidth = cw
  decCropHeight : dec.srcFormat.cropHeight = ch
  decPlanes : dec.srcPlanes = (copyMfcData enc).2

def MfcInverse (f fM : PixelFormat) (cw ch padded : Nat) : Prop :=
  ∀ enc dec, ThereAndBack f fM cw ch padded enc dec → SamePlanes f cw ch enc.srcPlanes (copyMfcData dec).2

theorem shiftRight_one (n : Nat) : n >>> 1 = n / 2 := by
  rw [Nat.shiftRight_eq_div_pow, pow_one]

theorem le_alignMfc (n : Nat) : n ≤ alignMfc n := by
  rw [alignMfc]
  omega

theorem alignMfc_mono {m n : Nat} (h : m ≤ n) : alignMfc m ≤ alignMfc n := by
  rw [alignMfc, alignMfc]
  omega

section
variable {f fM : PixelFormat} {cw ch padded : Nat} {enc dec : Handle}

def sampleBytes (f : PixelFormat) : Nat := if f = .ycbcrP010 then 2 else 1

/-- A picture that is not empty, whose padded planes have fewer than 2^32 bytes. -/
structure PlanesFit (f : PixelFormat) (cw ch padded : Nat) : Prop where
  picture : 0 < cw ∧ 0 < ch
  padding : cw ≤ padded ∧ 16 ∣ padded
  size : padded * sampleBytes f * ch < 2 ^ 32

theorem PlanesFit.rowsFit (hfit : PlanesFit f cw ch padded) :
    RowsFit (padded * sampleBytes f) (cw * sampleBytes f) ch := by
  obtain ⟨⟨hcw, hch⟩, ⟨hle, hpadding⟩, hsize⟩ := hfit
  have hone : padded ≤ padded * sampleBytes f :=
    Nat.le_mul_of_pos_right padded (by rw [sampleBytes]; split_ifs <;> decide)
  have hpitch := Nat.mul_le_mul_right (sampleBytes f) hle
  have hrow := Nat.mul_le_mul_left (padded * sampleBytes f) (show 1 ≤ ch by omega)
  have hrows := Nat.mul_le_mul_right ch (show 16 ≤ padded * sampleBytes f by omega)
  exact ⟨hsize, by omega, by omega, hpitch⟩

theorem RowsFit.half {pitch len rows : Nat} (hfit : RowsFit pitch len rows) : RowsFit pitch len (rows / 2) := by
  have hrows := Nat.div_le_self rows 2
  exact ⟨Nat.lt_of_le_of_lt (Nat.mul_le_mul_left pitch hrows) hfit.size, Nat.lt_of_le_of_lt hrows hfit.count, hfit.row,
    hfit.padding⟩

theorem PlanesFit.chroma (hfit : PlanesFit f cw ch padded) (hf : f.Planar) {w : Nat} (hlow : cw ≤ w)
    (hhigh : w ≤ padded) : RowsFit (alignMfc (w / 2)) (cw / 2) (ch / 2) := by
  have hluma := hfit.rowsFit
  have hbytes : sampleBytes f = 1 := by
    obtain rfl | rfl := hf <;> rfl
  rw [hbytes, Nat.mul_one, Nat.mul_one] at hluma
  have hpadding := hfit.padding.2
  have hround : alignMfc (w / 2) ≤ padded := by
    rw [alignMfc]
    have := hfit.picture.1
    omega
  have hpitch : cw / 2 ≤ alignMfc (w / 2) := (Nat.div_le_div_right hlow).trans (le_alignMfc _)
  exact ⟨Nat.lt_of_le_of_lt (Nat.mul_le_mul hround (Nat.div_le_self ch 2)) hluma.size, hluma.half.count,
    Nat.lt_of_le_of_lt (Nat.div_le_self cw 2) hluma.row, hpitch⟩

def Handle.SameWidth (h : Handle) : Prop :=
  h.srcFormat.width = h.dstFormat.width ∧ h.srcFormat.cropWidth = h.dstFormat.cropWidth

section
variable (h : ThereAndBack f fM cw ch padded enc dec)
include h

theorem padded_encoder {k rows : Nat} (hfit : RowsFit (padded * k) (cw * k) rows) (dst s : Buffer) :
    (enc.SameWidth → Padded (padded * k) (cw * k) rows s (memcpy dst 0 s 0 (uint (cw * k * rows)))) ∧
      Padded (padded * k) (cw * k) rows s (copyRows dst (padded * k) s (cw * k) (cw * k) rows) := by
  constructor
  · rintro ⟨hwidth, -⟩
    rw [h.encWidth, h.encPadded] at hwidth
    rw [← hwidth]
    exact padded_memcpy hfit.tight dst s
  · exact padded_copyRows dst hfit s

theorem encoder_planar (hf : f.Planar) (hfit : PlanesFit f cw ch padded) :
    Padded padded cw ch enc.srcPlanes.y dec.srcPlanes.y ∧
      dec.srcPlanes.u = copyRows enc.dstPlanes.u (alignMfc (padded / 2)) enc.srcPlanes.u (cw / 2) (cw / 2) (ch / 2) ∧
      dec.srcPlanes.v = copyRows enc.dstPlanes.v (alignMfc (padded / 2)) enc.srcPlanes.v (cw / 2) (cw / 2)
        (ch / 2) := by
  have hluma : RowsFit (padded * 1) (cw * 1) ch := by
    have hluma := hfit.rowsFit
    obtain rfl | rfl := hf <;> exact hluma
  obtain ⟨hmemcpy, hrows⟩ := padded_encoder h hluma enc.dstPlanes.y enc.srcPlanes.y
  rw [Nat.mul_one, Nat.mul_one] at hmemcpy hrows
  rw [h.decPlanes, copyMfcData, h.encFormat]
  rcases hf with rfl | rfl
  all_goals
    dsimp only
    rw [h.encCropWidth, h.encHeight, h.encPadded, h.encWidth, shiftRight_one, shiftRight_one, shiftRight_one]
    refine ⟨?_, rfl, rfl⟩
    split
    · rename_i hsame
      apply hmemcpy
      rwa [Handle.SameWidth, h.encWidth, h.encCropWidth, h.encPadded]
    · exact hrows

theorem decoder_planar (hf : f.Planar) (hM : f.multiPlane = some fM) :
    (copyMfcData dec).2.y = copyRows dec.dstPlanes.y cw dec.srcPlanes.y padded cw ch ∧ (copyMfcData dec).2.u =
        copyRows dec.dstPlanes.u (cw / 2) dec.srcPlanes.u (alignMfc (cw / 2)) (cw / 2) (ch / 2) ∧
      (copyMfcData dec).2.v =
        copyRows dec.dstPlanes.v (cw / 2) dec.srcPlanes.v (alignMfc (cw / 2)) (cw / 2) (ch / 2) := by
  rw [copyMfcData, h.decFormat]
  rcases hf with rfl | rfl
  all_goals
    cases hM
    dsimp only
    rw [h.decCropWidth, h.decCropHeight, h.decWidth, shiftRight_one, shiftRight_one]
    exact ⟨rfl, rfl, rfl⟩

theorem encoder_semiPlanar (hf : ¬ f.Planar) (hM : f.multiPlane = some fM) (hfit : PlanesFit f cw ch padded) :
    Padded (padded * sampleBytes f) (cw * sampleBytes f) ch enc.srcPlanes.y dec.srcPlanes.y ∧
      Padded (padded * sampleBytes f) (cw * sampleBytes f) (ch / 2) enc.srcPlanes.u dec.srcPlanes.u := by
  obtain ⟨hymemcpy, hyrows⟩ := padded_encoder h hfit.rowsFit enc.dstPlanes.y enc.srcPlanes.y
  obtain ⟨humemcpy, hurows⟩ := padded_encoder h hfit.rowsFit.half enc.dstPlanes.u enc.srcPlanes.u
  have hsame : enc.SameWidth ↔ cw = padded ∧ cw = enc.dstFormat.cropWidth := by
    rw [Handle.SameWidth, h.encWidth, h.encPadded, h.encCropWidth]
  rw [hsame] at hymemcpy humemcpy
  rw [h.decPlanes, copyMfcData, h.encFormat]
  rw [PixelFormat.Planar, not_or] at hf
  cases f with
  | ycbcr420P => exact absurd rfl hf.1
  | yv12 => exact absurd rfl hf.2
  | ycbcr420Sp =>
    dsimp only
    rw [h.encCropWidth, h.encHeight, h.encPadded, h.encWidth, shiftRight_one]
    split
    · rename_i heq
      exact ⟨by simpa [sampleBytes] using hymemcpy heq, by simpa [sampleBytes, PlaneBuffers.uv] using humemcpy heq⟩
    · exact ⟨by simpa [sampleBytes] using hyrows, by simpa [sampleBytes, PlaneBuffers.uv] using hurows⟩
  | ycrcb420Sp =>
    dsimp only
    rw [h.encCropWidth, h.encHeight, h.encPadded, h.encWidth, shiftRight_one]
    split
    · rename_i heq
      exact ⟨by simpa [sampleBytes] using hymemcpy heq, by simpa [sampleBytes, PlaneBuffers.uv] using humemcpy heq⟩
    · exact ⟨by simpa [sampleBytes] using hyrows, by simpa [sampleBytes, PlaneBuffers.uv] using hurows⟩
  | ycbcrP010 =>
    dsimp only
    rw [h.encCropWidth, h.encHeight, h.encPadded, h.encWidth, shiftRight_one]
    split
    · rename_i heq
      exact ⟨hymemcpy heq, humemcpy heq⟩
    · exact ⟨hyrows, hurows⟩
  | _ => cases hM

theorem decoder_semiPlanar (hf : ¬ f.Planar) (hM : f.multiPlane = some fM) :
    (copyMfcData dec).2.y = copyRows dec.dstPlanes.y (cw * sampleBytes f) dec.srcPlanes.y (padded * sampleBytes f)
        (cw * sampleBytes f) ch ∧
      (copyMfcData dec).2.u = copyRows dec.dstPlanes.u (cw * sampleBytes f) dec.srcPlanes.u (padded * sampleBytes f)
        (cw * sampleBytes f) (ch / 2) := by
  rw [PixelFormat.Planar, not_or] at hf
  rw [copyMfcData, h.decFormat]
  cases f with
  | ycbcr420P => exact absurd rfl hf.1
  | yv12 => exact absurd rfl hf.2
  | ycbcr420Sp =>
    cases hM
    dsimp only
    rw [h.decCropWidth, h.decCropHeight, h.decWidth, shiftRight_one]
    simp [sampleBytes, PlaneBuffers.uv]
  | ycrcb420Sp =>
    cases hM
    dsimp only
    rw [h.decCropWidth, h.decCropHeight, h.decWidth, shiftRight_one]
    simp [sampleBytes, PlaneBuffers.uv]
  | ycbcrP010 =>
    cases hM
    dsimp only
    rw [h.decCropWidth, h.decCropHeight, h.decWidth, shiftRight_one]
    exact ⟨rfl, rfl⟩
  | _ => cases hM

end

theorem planar_bytes (hf : f.Planar) (cw ch : Nat) :
    planeBytes f cw ch = (cw * ch, cw / 2 * (ch / 2), cw / 2 * (ch / 2)) := by
  rcases hf with rfl | rfl <;> rfl

theorem semiPlanar_bytes (hf : ¬ f.Planar) (hM : f.multiPlane = some fM) (cw ch : Nat) :
    planeBytes f cw ch = (cw * sampleBytes f * ch, cw * sampleBytes f * (ch / 2), 0) := by
  rw [PixelFormat.Planar, not_or] at hf
  cases f with
  | ycbcr420P => exact absurd rfl hf.1
  | yv12 => exact absurd rfl hf.2
  | ycbcr420Sp => simp [planeBytes, sampleBytes]
  | ycrcb420Sp => simp [planeBytes, sampleBytes]
  | ycbcrP010 => rfl
  | _ => cases hM

def StridesAgree (cw ch padded : Nat) : Prop := alignMfc (padded / 2) = alignMfc (cw / 2) ∨ cw = 0 ∨ ch ≤ 2

theorem planar_restored (h : ThereAndBack f fM cw ch padded enc dec) (hf : f.Planar) (hM : f.multiPlane = some fM)
    (hfit : PlanesFit f cw ch padded) (hcw : 2 ∣ cw) (hch : 2 ∣ ch) (hstrides : StridesAgree cw ch padded) :
    SamePlanes f cw ch enc.srcPlanes (copyMfcData dec).2 := by
  have hluma := hfit.rowsFit
  obtain ⟨hy, hu, hv⟩ := encoder_planar h hf hfit
  obtain ⟨hy', hu', hv'⟩ := decoder_planar h hf hM
  have hchroma (dst s : Buffer) : Padded (alignMfc (cw / 2)) (cw / 2) (ch / 2) s
      (copyRows dst (alignMfc (padded / 2)) s (cw / 2) (cw / 2) (ch / 2)) := by
    have hencoded := padded_copyRows dst (hfit.chroma hf hfit.padding.1 le_rfl) s
    rcases hstrides with heq | hzero | hrows
    · rwa [heq] at hencoded ⊢
    · intro x hx
      omega
    · exact hencoded.of_one_row (by omega)
  have hback := hfit.chroma hf le_rfl hfit.padding.1
  constructor
  · rw [planar_bytes hf, hy']
    obtain rfl | rfl := hf <;> exact hy.restored (by simpa [sampleBytes] using hluma) _
  · rw [planar_bytes hf, hu', hu]
    exact (hchroma _ _).restored hback _
  · rw [planar_bytes hf, hv', hv]
    exact (hchroma _ _).restored hback _

theorem semiPlanar_restored (h : ThereAndBack f fM cw ch padded enc dec) (hf : ¬ f.Planar)
    (hM : f.multiPlane = some fM) (hfit : PlanesFit f cw ch padded) :
    SamePlanes f cw ch enc.srcPlanes (copyMfcData dec).2 := by
  obtain ⟨hy, hu⟩ := encoder_semiPlanar h hf hM hfit
  obtain ⟨hy', hu'⟩ := decoder_semiPlanar h hf hM
  constructor
  · rw [semiPlanar_bytes hf hM, hy']
    exact hy.restored hfit.rowsFit _
  · rw [semiPlanar_bytes hf hM, hu']
    exact hu.restored hfit.rowsFit.half _
  · rw [semiPlanar_bytes hf hM]
    intro n hn
    exact absurd hn (Nat.not_lt_zero n)

theorem empty_restored (hempty : cw = 0 ∨ ch = 0) (planes planes' : PlaneBuffers) :
    SamePlanes f cw ch planes planes' := by
  have hbytes : planeBytes f cw ch = (0, 0, 0) := by
    obtain rfl | rfl := hempty <;> (cases f <;> simp [planeBytes])
  constructor
  all_goals
    rw [hbytes]
    intro n hn
    exact absurd hn (Nat.not_lt_zero n)

end

def zeroPicture (f : PixelFormat) (cw ch padded : Nat) : Handle where
  dstFormat := ⟨padded, ch, padded, ch, f⟩
  srcFormat := ⟨cw, ch, cw, ch, f⟩
  dstPlanes := ⟨fun _ => 1, fun _ => 1, fun _ => 1⟩
  srcPlanes := ⟨fun _ => 0, fun _ => 0, fun _ => 0⟩
  srcMemType := .mfc

def copiedBack (fM : PixelFormat) (cw ch padded : Nat) (enc : Handle) : Handle where
  dstFormat := ⟨cw, ch, cw, ch, fM⟩
  srcFormat := ⟨padded, ch, cw, ch, fM⟩
  dstPlanes := ⟨fun _ => 1, fun _ => 1, fun _ => 1⟩
  srcPlanes := (copyMfcData enc).2
  srcMemType := .mfc

theorem zeroPicture_thereAndBack (f fM : PixelFormat) (cw ch padded : Nat) :
    ThereAndBack f fM cw ch padded (zeroPicture f cw ch padded)
      (copiedBack fM cw ch padded (zeroPicture f cw ch padded)) :=
  ⟨rfl, rfl, rfl, rfl, rfl, rfl, rfl, rfl, rfl, rfl⟩

theorem not_mfcInverse {f fM : PixelFormat} {cw ch padded : Nat} (hf : f.Planar) (hM : f.multiPlane = some fM)
    (hcw : 2 ∣ cw) (hch : 2 ∣ ch) (hfit : PlanesFit f cw ch padded) (hstrides : ¬ StridesAgree cw ch padded) :
    ¬ MfcInverse f fM cw ch padded := by
  intro hinverse
  rw [StridesAgree, not_or, not_or] at hstrides
  obtain ⟨hne, hzero, hrows⟩ := hstrides
  have h := zeroPicture_thereAndBack f fM cw ch padded
  have hsame := (hinverse _ _ h).u
  have hlt : alignMfc (cw / 2) < alignMfc (padded / 2) :=
    lt_of_le_of_ne (alignMfc_mono (Nat.div_le_div_right hfit.padding.1)) (Ne.symm hne)
  have hsnd : cw / 2 < cw / 2 * (ch / 2) := by
    have htwo : cw / 2 * 2 ≤ cw / 2 * (ch / 2) := Nat.mul_le_mul_left _ (by omega)
    omega
  rw [planar_bytes hf, (decoder_planar h hf hM).2.1, (encoder_planar h hf hfit).2.1] at hsame
  have hread := hsame (cw / 2) hsnd
  rw [second_row_gap _ _ (hfit.chroma hf hfit.padding.1 le_rfl) (by omega) (le_alignMfc _) hlt (by omega)] at hread
  have hdiffer : (1 : Byte) = 0 := hread
  exact absurd hdiffer (by decide)

/-- Copies of fewer than 2^32 bytes to a padded width and back are inverse for the semi-planar formats, and for the
planar ones where both directions use the same chroma stride. -/
theorem mfcInverse_iff {f fM : PixelFormat} {cw ch padded : Nat} (hM : f.multiPlane = some fM) (hcw : 2 ∣ cw)
    (hch : 2 ∣ ch) (hle : cw ≤ padded) (hpadded : 16 ∣ padded) (hsize : padded * sampleBytes f * ch < 2 ^ 32) :
    MfcInverse f fM cw ch padded ↔ (f.Planar → StridesAgree cw ch padded) := by
  rcases Nat.eq_zero_or_pos cw with rfl | hcw'
  · exact iff_of_true (fun _ _ _ => empty_restored (.inl rfl) _ _) fun _ => .inr (.inl rfl)
  rcases Nat.eq_zero_or_pos ch with rfl | hch'
  · exact iff_of_true (fun _ _ _ => empty_restored (.inr rfl) _ _) fun _ => .inr (.inr (by decide))
  have hfit : PlanesFit f cw ch padded := ⟨⟨hcw', hch'⟩, ⟨hle, hpadded⟩, hsize⟩
  constructor
  · intro hinverse hf
    by_contra hstrides
    exact not_mfcInverse hf hM hcw hch hfit hstrides hinverse
  · intro hstrides enc dec h
    by_cases hf : f.Planar
    · exact planar_restored h hf hM hfit hcw hch (hstrides hf)
    · exact semiPlanar_restored h hf hM hfit

theorem mfcInverse_iff_qcif :
    MfcInverse .ycbcr420P .ycbcr420PM 176 144 192 ↔ (PixelFormat.Planar .ycbcr420P → StridesAgree 176 144 192) :=
  mfcInverse_iff rfl (by decide) (by decide) (by decide) (by decide) (by decide)

theorem wide_padding_not_inverse : ¬ MfcInverse .ycbcr420P .ycbcr420PM 16 4 48 := by
  apply not_mfcInverse (.inl rfl) rfl (by decide) (by decide) ⟨by decide, by decide, by decide⟩
  rintro (heq | hzero | hrows)
  · exact absurd heq (by decide)
  · exact absurd hzero (by decide)
  · exact absurd hrows (by decide)

end ExynosHal.Csc
