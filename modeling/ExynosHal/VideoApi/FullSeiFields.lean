import ExynosHal.VideoApi.FullSeiWrite
import ExynosHal.VideoApi.FullT35WriterFrame
import ExynosHal.VideoApi.SeiRoundTrip

/-! # The fields the full SEI writer puts

Values in range fit the bits they are put in, and the number of bits of a group follows from its flags, dimensions and
list lengths alone.
-/

namespace ExynosHal.VideoApi.FullSeiFields
open Library.BitString FullHdr PutBitsCorrect SeiWrite FullSeiWrite FullT35WriterFrame
open SeiRoundTrip (fieldsFit_append fit_setWidth fieldWidth fieldWidth_append)
open List (cons_append map_cons map_nil mem_range nil_append sum_cons sum_nil)

theorem fieldWidth_cons (field : Field) (fields : List Field) :
    fieldWidth (field :: fields) = field.1 + fieldWidth fields := by
  rw [fieldWidth, map_cons, sum_cons]
  rfl

theorem fieldWidth_flatMap {α : Type} (items : List α) (fields : α → List Field) :
    fieldWidth (items.flatMap fields) = (items.map fun i => fieldWidth (fields i)).sum := by
  induction items with
  | nil => rfl
  | cons item items ih => rw [List.flatMap_cons, fieldWidth_append, ih, map_cons, sum_cons]

variable {count width : Nat}

theorem fieldWidth_flatMap_range {fields : Nat → List Field} (h : ∀ i, fieldWidth (fields i) = width) :
    fieldWidth ((List.range count).flatMap fields) = count * width := by
  rw [fieldWidth_flatMap, List.map_congr_left fun i _ => h i, List.map_const', List.sum_replicate, List.length_range,
    smul_eq_mul]

theorem fieldWidth_map_range (value : Nat → U32) :
    fieldWidth ((List.range count).map fun i => (width, value i)) = count * width := by
  rw [List.map_eq_flatMap]
  exact fieldWidth_flatMap_range fun i => rfl

variable (d : FullHdrData)

theorem fieldWidth_geometryFields (w : Nat) : fieldWidth (geometryFields d w) = 153 := by
  simp only [geometryFields, ellipseFields, fieldWidth, cons_append, nil_append, map_cons, map_nil, sum_cons,
    sum_nil, Nat.reduceAdd]

theorem fieldWidth_frontFields : fieldWidth (frontFields d) = 29 + 153 * (d.numWindows.toNat - 1) := by
  rw [frontFields, fieldWidth_append, fieldWidth_append, fieldWidth_flatMap_range (fieldWidth_geometryFields d)]
  simp only [fieldWidth, map_cons, map_nil, sum_cons, sum_nil]
  omega

theorem fieldWidth_cellFields (p : PeakLuminance) :
    fieldWidth (cellFields p) = p.numRows.toNat * (p.numCols.toNat * 4) :=
  fieldWidth_flatMap_range fun _ => fieldWidth_map_range _

theorem fieldWidth_peakLuminanceFields (p : PeakLuminance) : fieldWidth (peakLuminanceFields p) = 1 + tableSize p := by
  rw [peakLuminanceFields, tableSize]
  split_ifs
  · simp only [cons_append, nil_append, fieldWidth_cons, fieldWidth_cellFields]
    omega
  · rfl

theorem fieldWidth_statisticsFields (w : Nat) : fieldWidth (statisticsFields d w) = statisticsSize d w := by
  have hpcts : fieldWidth (percentileFields d w) = (d.numMaxrgbPercentiles w).toNat * 24 :=
    fieldWidth_flatMap_range fun _ => rfl
  rw [statisticsFields, fieldWidth_append, fieldWidth_append, fieldWidth_append, fieldWidth_map_range, hpcts,
    statisticsSize]
  simp only [fieldWidth, map_cons, map_nil, sum_cons, sum_nil]
  omega

theorem fieldWidth_curveFields (t : FullToneMapping) (w : Nat) :
    fieldWidth (curveFields t w) = 1 + if t.toneMappingFlag w = 1 then (12 + 12 + 4) +
      (t.numBezierCurveAnchors w).toNat * 10 else 0 := by
  rw [curveFields]
  split_ifs
  · simp only [cons_append, nil_append, fieldWidth_cons, fieldWidth_map_range]
    omega
  · rfl

theorem fieldWidth_colorSaturationFields (w : Nat) :
    fieldWidth (colorSaturationFields d w) = 1 + if d.colorSaturationMappingFlag w = 1 then 6 else 0 := by
  rw [colorSaturationFields]
  split_ifs <;> rfl

theorem fieldWidth_toneMappingFields (w : Nat) :
    fieldWidth (FullSeiWrite.toneMappingFields d w) = toneMappingSize d w := by
  rw [FullSeiWrite.toneMappingFields, fieldWidth_append, fieldWidth_curveFields, fieldWidth_colorSaturationFields,
    toneMappingSize]
  omega

theorem fieldWidth_bodyFields :
    fieldWidth (FullSeiWrite.bodyFields d) = 31 + 153 * (d.numWindows.toNat - 1) + tableSize d.targetedSystemDisplay +
      ((List.range d.numWindows.toNat).map (statisticsSize d)).sum + tableSize d.masteringDisplay +
      ((List.range d.numWindows.toNat).map (toneMappingSize d)).sum := by
  rw [FullSeiWrite.bodyFields, fieldWidth_append, fieldWidth_append, fieldWidth_append, fieldWidth_append,
    fieldWidth_frontFields,
    fieldWidth_peakLuminanceFields, fieldWidth_peakLuminanceFields, fieldWidth_flatMap, fieldWidth_flatMap,
    List.map_congr_left fun w _ => fieldWidth_statisticsFields d w, List.map_congr_left fun w _ =>
      fieldWidth_toneMappingFields d w]
  omega

theorem fieldsFit_cons {value : U32} {fields : List Field} (hfield : width ≤ 32 ∧ value.toNat < 2 ^ width)
    (h : FieldsFit fields) : FieldsFit ((width, value) :: fields) := List.forall_mem_cons.mpr ⟨hfield, h⟩

theorem fieldsFit_nil : FieldsFit [] := List.forall_mem_nil _

theorem fieldsFit_flatMap {α : Type} {items : List α} {fields : α → List Field}
    (h : ∀ i ∈ items, FieldsFit (fields i)) : FieldsFit (items.flatMap fields) := by
  intro field hfield
  obtain ⟨i, hi, hfield⟩ := List.mem_flatMap.mp hfield
  exact h i hi field hfield

theorem fieldsFit_map_range {value : Nat → U32} (hwidth : width ≤ 32)
    (h : ∀ i < count, (value i).toNat < 2 ^ width) : FieldsFit ((List.range count).map fun i => (width, value i)) := by
  intro field hfield
  obtain ⟨i, hi, rfl⟩ := List.mem_map.mp hfield
  exact ⟨hwidth, h i (mem_range.mp hi)⟩

theorem flag_fit {flag : U8} (h : flag = 0 ∨ flag = 1) : 1 ≤ 32 ∧ (flag.setWidth 32).toNat < 2 ^ 1 := by
  rcases h with rfl | rfl <;> decide

theorem ellipseFields_fit (w : Nat) : FieldsFit (ellipseFields d w) := by
  have h16 (value : U16) := fit_setWidth value 16 (by decide) value.isLt
  have h8 := fit_setWidth (d.rotationAngle w) 8 (by decide) (d.rotationAngle w).isLt
  exact fieldsFit_cons (h16 _)
    (fieldsFit_cons (h16 _) (fieldsFit_cons (h16 _) (fieldsFit_cons (h16 _) (fieldsFit_cons (h16 _)
    (fieldsFit_cons (h16 _)
      (fieldsFit_cons h8 (fieldsFit_cons (h16 _) (fieldsFit_cons (h16 _) (fieldsFit_cons (h16 _) fieldsFit_nil)))))))))

variable {d : FullHdrData}

theorem frontFields_fit (hd : InRange d) : FieldsFit (frontFields d) := by
  have hwins := fit_setWidth d.numWindows 2 (by decide) (by have h := hd.numWindows; omega)
  refine fieldsFit_append (fieldsFit_append (fieldsFit_cons hwins fieldsFit_nil) ?_)
    (fieldsFit_cons ⟨by decide, hd.maximumLuminance⟩ fieldsFit_nil)
  exact fieldsFit_flatMap fun w hw => fieldsFit_append (ellipseFields_fit d w)
    (fieldsFit_cons (flag_fit (hd.overlapProcessOption w (mem_range.mp hw))) fieldsFit_nil)

theorem peakLuminanceFields_fit {p : PeakLuminance} (hp : p.InRange) : FieldsFit (peakLuminanceFields p) := by
  rw [peakLuminanceFields]
  refine fieldsFit_cons (flag_fit hp.flag) ?_
  split_ifs with hone
  · have hrows := fit_setWidth p.numRows 5 (by decide) (by have h := hp.numRows hone; omega)
    have hcols := fit_setWidth p.numCols 5 (by decide) (by have h := hp.numCols hone; omega)
    refine fieldsFit_cons hrows (fieldsFit_cons hcols (fieldsFit_flatMap fun i hi => ?_))
    exact fieldsFit_map_range (by decide) fun j hj =>
      (fit_setWidth _ 4 (by decide) (hp.luminance hone i (mem_range.mp hi) j hj)).2
  · exact fieldsFit_nil

variable {w : Nat}

theorem statisticsFields_fit (hw : WindowInRange d w) : FieldsFit (statisticsFields d w) := by
  have hmaxscl := @fieldsFit_map_range 3 17 (d.maxscl w) (by decide) hw.maxscl
  have hcnt := fit_setWidth _ 4 (by decide) hw.numMaxrgbPercentiles
  have hfrac := fit_setWidth _ 10 (by decide) hw.fractionBrightPixels
  refine fieldsFit_append
    (fieldsFit_append
      (fieldsFit_append hmaxscl (fieldsFit_cons ⟨by decide, hw.averageMaxrgb⟩ (fieldsFit_cons hcnt fieldsFit_nil)))
    (fieldsFit_flatMap fun i hi => ?_)) (fieldsFit_cons hfrac fieldsFit_nil)
  have hi := mem_range.mp hi
  exact fieldsFit_cons (fit_setWidth _ 7 (by decide) (hw.maxrgbPercentages i hi))
    (fieldsFit_cons ⟨by decide, hw.maxrgbPercentiles i hi⟩ fieldsFit_nil)

theorem curveFields_fit (hw : WindowInRange d w) : FieldsFit (curveFields d.toneMapping w) := by
  rw [curveFields]
  refine fieldsFit_cons (flag_fit hw.toneMappingFlag) ?_
  split_ifs
  · have hx := fit_setWidth _ 12 (by decide) hw.kneePointX
    have hy := fit_setWidth _ 12 (by decide) hw.kneePointY
    have hcnt := fit_setWidth _ 4 (by decide) hw.numBezierCurveAnchors
    refine fieldsFit_cons hx (fieldsFit_cons hy (fieldsFit_cons hcnt ?_))
    exact fieldsFit_map_range (by decide) fun i hi => (fit_setWidth _ 10 (by decide) (hw.bezierCurveAnchors i hi)).2
  · exact fieldsFit_nil

theorem colorSaturationFields_fit (hw : WindowInRange d w) : FieldsFit (colorSaturationFields d w) := by
  rw [colorSaturationFields]
  refine fieldsFit_cons (flag_fit hw.colorSaturationMappingFlag) ?_
  split_ifs
  · exact fieldsFit_cons (fit_setWidth _ 6 (by decide) hw.colorSaturationWeight) fieldsFit_nil
  · exact fieldsFit_nil

theorem bodyFields_fit (hd : InRange d) : FieldsFit (FullSeiWrite.bodyFields d) := by
  refine fieldsFit_append (fieldsFit_append (fieldsFit_append (fieldsFit_append (frontFields_fit hd)
    (peakLuminanceFields_fit hd.targetedSystemDisplay)) ?_) (peakLuminanceFields_fit hd.masteringDisplay)) ?_
  · exact fieldsFit_flatMap fun w hw => statisticsFields_fit (hd.window w (mem_range.mp hw))
  · exact fieldsFit_flatMap fun w hw => fieldsFit_append (curveFields_fit (hd.window w (mem_range.mp hw)))
      (colorSaturationFields_fit (hd.window w (mem_range.mp hw)))

end ExynosHal.VideoApi.FullSeiFields
