import ExynosHal.VideoApi.FullT35WriterExact
import ExynosHal.VideoApi.SeiUnit

/-! # The size an SEI payload announces

`get_payload_size` counts the fields of the writer once more. The full build counts the table of the targeted display in
place of the one of the mastering display.
-/

namespace ExynosHal.VideoApi.SeiPayloadSize
open Library.BitString Library.StartCode SeiWrite SeiRoundTrip FullHdr FullSeiWrite SeiUnit

def carriedPayload (stream : List Byte) : List Byte := (stream.take 12).drop 8 ++ (unescape 0 (stream.drop 12)).dropLast

section
variable {m : HdrDataSt2094}

theorem carriedPayload_seiWrite2094_40 (hm : m.InRange) :
    carriedPayload m.seiWrite2094_40 = headerFront m.header ++ headerBack m.header ++ paddedBytes m.bodyFields := by
  have hlen := length_frontBytes m.getPayloadSize m.header
  have hfront : (frontBytes m.getPayloadSize m.header).drop 8 = headerFront m.header := by
    rw [frontBytes, List.drop_left' (by
      rw [List.length_append, length_toBytes _ ⟨2, length_toBits 16 _⟩, length_toBits]
      rfl)]
  rw [carriedPayload, HdrDataSt2094.seiWrite2094_40_eq hm, List.take_left' hlen, List.drop_left' hlen, hfront,
    unescape_escape, List.dropLast_concat, List.append_assoc]

theorem length_carriedPayload (hm : m.InRange) :
    (carriedPayload m.seiWrite2094_40).length = 7 + (fieldWidth m.bodyFields + 7) / 8 := by
  have hpadded : (paddedBytes m.bodyFields).length = (fieldWidth m.bodyFields + 7) / 8 := by
    rw [paddedBytes, length_toBytes _ ⟨_, length_paddedBits _⟩, length_paddedBits]
    omega
  rw [carriedPayload_seiWrite2094_40 hm, List.length_append, List.length_append, hpadded]
  rfl

end

theorem defaultPayloadSize_le {d : HdrData.ExynosHdrData} (hd : HdrData.InRange d) :
    SeiWrite.getPayloadSize d ≤ 108 := by
  have hcnt := hd.percentileCount
  have hcurve : (if d.toneMapping.toneMappingFlag = 1 then (12 + 12 + 4) + d.toneMapping.numBezierCurveAnchors.toNat *
      10 else 0) ≤ 178 := by
    split_ifs with hone
    · have hanchors := (hd.toneMapping hone).anchorCount.trans (HdrData.maxBezierCurveAnchors_le d.applicationVersion)
      omega
    · exact Nat.zero_le _
  simp only [SeiWrite.getPayloadSize]
  generalize (if d.toneMapping.toneMappingFlag = 1 then _ else 0) = curve at hcurve ⊢
  split_ifs <;> omega

def payloadBits (d : FullHdrData) : Nat :=
  87 + 153 * (d.numWindows.toNat - 1) + tableSize d.targetedSystemDisplay +
    ((List.range d.numWindows.toNat).map (statisticsSize d)).sum +
    tableSize d.masteringDisplay + ((List.range d.numWindows.toNat).map (toneMappingSize d)).sum

def TablesAlike (d : FullHdrData) : Prop := tableSize d.targetedSystemDisplay = tableSize d.masteringDisplay ∨
    (tableSize d.targetedSystemDisplay = tableSize d.masteringDisplay + 4 ∧ 1 ≤ payloadBits d % 8 ∧ payloadBits d % 8 ≤
      4) ∨
    (tableSize d.masteringDisplay = tableSize d.targetedSystemDisplay + 4 ∧
      (payloadBits d % 8 = 0 ∨ 5 ≤ payloadBits d % 8))

def SizeFits : HdrDataSt2094 → Prop
  | .default _ => True
  | .full d => payloadBits d ≤ 8 * 254 ∧ TablesAlike d

theorem tableSize_cells {p : PeakLuminance} (hp : p.InRange) :
    tableSize p = 0 ∨ ∃ cells, 4 ≤ cells ∧ tableSize p = 10 + 4 * cells := by
  rw [tableSize]
  split_ifs with hone
  · refine .inr ⟨p.numRows.toNat * p.numCols.toNat, Nat.mul_le_mul (hp.numRows hone).1 (hp.numCols hone).1, ?_⟩
    rw [← Nat.mul_assoc, Nat.mul_comm 4]
  · exact .inl rfl

theorem announced_iff_tablesAlike {d : FullHdrData} (hd : FullHdr.InRange d) :
    7 + (declaredBits d + 7) / 8 = (payloadBits d + 7) / 8 ↔ TablesAlike d := by
  have htargeted := tableSize_cells hd.targetedSystemDisplay
  have hmast := tableSize_cells hd.masteringDisplay
  have hbits : declaredBits d + 56 + tableSize d.masteringDisplay =
      payloadBits d + tableSize d.targetedSystemDisplay := by
    rw [declaredBits, payloadBits]
    omega
  rw [TablesAlike]
  generalize declaredBits d = declared at hbits ⊢
  generalize payloadBits d = bits at hbits ⊢
  rcases htargeted with ht | ⟨cells, hcells, ht⟩ <;> rcases hmast with hm | ⟨cells', hcells', hm⟩ <;>
    rw [ht, hm] at hbits ⊢ <;> omega

/-- The announced size is that of the payload in the default build always, in the full one when the tables take the same
bytes and the payload is not too long. -/
theorem getPayloadSize_iff {m : HdrDataSt2094} (hm : m.InRange) :
    (m.getPayloadSize ≤ 254 ∧ m.getPayloadSize = (carriedPayload m.seiWrite2094_40).length) ↔ SizeFits m := by
  rw [length_carriedPayload hm]
  cases m with
  | default d =>
    have hlimit : SeiWrite.getPayloadSize d ≤ 254 := (defaultPayloadSize_le hm).trans (by decide)
    exact iff_of_true ⟨hlimit, getPayloadSize_eq d⟩ trivial
  | full d =>
    have hannounced : (HdrDataSt2094.full d).getPayloadSize = 7 + (declaredBits d + 7) / 8 :=
      getPayloadSize_eq_declared d
    have hcarried : 7 + (fieldWidth (HdrDataSt2094.full d).bodyFields + 7) / 8 = (payloadBits d + 7) / 8 := by
      have hbits : fieldWidth (HdrDataSt2094.full d).bodyFields = _ := FullSeiFields.fieldWidth_bodyFields d
      rw [hbits, payloadBits]
      omega
    rw [hannounced, hcarried, SizeFits, ← announced_iff_tablesAlike hm]
    omega

def fourCells : PeakLuminance := ⟨1, 2, 2, fun _ _ => 7⟩

theorem fourCells_inRange : fourCells.InRange :=
  ⟨.inr rfl, fun _ => by decide, fun _ => by decide, fun _ _ _ _ _ => show 7 < 2 ^ 4 by decide⟩

def withTables (targeted : PeakLuminance) : FullHdrData :=
  { FullT35WriterExact.oneWindow 0 with targetedSystemDisplay := targeted, masteringDisplay := fourCells }

theorem withTables_inRange {targeted : PeakLuminance} (h : targeted.InRange) : FullHdr.InRange (withTables targeted) :=
  { FullT35WriterExact.oneWindow_inRange (.inl rfl) with
    targetedSystemDisplay := h
    masteringDisplay := fourCells_inRange
    window := fun w hw => { (FullT35WriterExact.oneWindow_inRange (.inl rfl)).window w hw with } }

theorem getPayloadSize_twoTables : (HdrDataSt2094.full (withTables fourCells)).getPayloadSize ≤ 254 ∧
    (HdrDataSt2094.full (withTables fourCells)).getPayloadSize =
      (carriedPayload (HdrDataSt2094.full (withTables fourCells)).seiWrite2094_40).length :=
  (getPayloadSize_iff (m := .full (withTables fourCells)) (withTables_inRange fourCells_inRange)).mpr
    ⟨by decide, .inl rfl⟩

/-- The payload takes 25 bytes and announces 22. -/
theorem getPayloadSize_masteringTable : (HdrDataSt2094.full (withTables HeaderRoundTrip.noLuminance)).InRange ∧
    (HdrDataSt2094.full (withTables HeaderRoundTrip.noLuminance)).getPayloadSize ≠
      (carriedPayload (HdrDataSt2094.full (withTables HeaderRoundTrip.noLuminance)).seiWrite2094_40).length := by
  have hrange : (HdrDataSt2094.full (withTables HeaderRoundTrip.noLuminance)).InRange :=
    withTables_inRange FullT35WriterExact.noLuminance_inRange
  refine ⟨hrange, ?_⟩
  rw [length_carriedPayload hrange]
  decide

end ExynosHal.VideoApi.SeiPayloadSize
