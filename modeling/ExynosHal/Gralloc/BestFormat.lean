import ExynosHal.Gralloc.SelectFormat

/-!
# What the selection returns

The loop over the compatible formats keeps the best grade, the first format of that grade and
the requested format; the selected one is among those that are supported.
-/

namespace ExynosHal.Gralloc

def candidates (o : BuildOptions) (so : SelectOptions) (ip : IpCaps) (reqFormat : FormatInfo)
    (usage : U64) (producers : Producers) (consumers : Consumers)
    (producerCaps consumerCaps : U64) : List FmtProps :=
  (formats.filter fun f => isFormatCompatible reqFormat f).filterMap fun f =>
    getSupportedFormat o so ip f usage producers consumers producerCaps consumerCaps

structure Seen (reqBaseFormat : U32) (fmts : List FmtProps) (s : Selection) : Prop where
  count : s.numSupportedFormats = fmts.length
  start : fmts = [] → s.bestFmtGrade = 0
  best_le : ∀ fmt ∈ fmts, gradeFormat fmt ≤ s.bestFmtGrade
  best : fmts ≠ [] → ∃ fmt ∈ fmts, gradeFormat fmt = s.bestFmtGrade ∧ s.firstOfBestFormats = fmt.allocFormat
  req : s.reqFormatGrade ≠ 0 → ∃ fmt ∈ fmts, gradeFormat fmt = s.reqFormatGrade ∧
    fmt.baseFormat = reqBaseFormat ∧ s.reqFormat = fmt.allocFormat

theorem gradeFormat_pos (fmt : FmtProps) : 0 < gradeFormat fmt := by
  rw [gradeFormat]
  omega

variable {reqBaseFormat : U32} {s : Selection}

theorem Seen.add {fmts : List FmtProps} (h : Seen reqBaseFormat fmts s) (fmt : FmtProps) :
    Seen reqBaseFormat (fmts ++ [fmt]) (s.add reqBaseFormat fmt) := by
  have hmem : fmt ∈ fmts ++ [fmt] := List.mem_append_right _ List.mem_cons_self
  have hold : ∀ f ∈ fmts, f ∈ fmts ++ [fmt] := fun f hf => List.mem_append_left _ hf
  have hcnt : (s.add reqBaseFormat fmt).numSupportedFormats = s.numSupportedFormats + 1 := by
    simp only [Selection.add]
    split_ifs <;> rfl
  have hgrade : (s.add reqBaseFormat fmt).bestFmtGrade = max s.bestFmtGrade (gradeFormat fmt) := by
    simp only [Selection.add]
    split_ifs <;> dsimp only <;> omega
  have hfst : (s.add reqBaseFormat fmt).firstOfBestFormats =
      if s.bestFmtGrade < gradeFormat fmt then fmt.allocFormat else s.firstOfBestFormats := by
    simp only [Selection.add]
    split_ifs <;> rfl
  have hreqGrade : (s.add reqBaseFormat fmt).reqFormatGrade =
      if fmt.baseFormat = reqBaseFormat then gradeFormat fmt else s.reqFormatGrade := by
    simp only [Selection.add]
    split_ifs <;> rfl
  have hreq : (s.add reqBaseFormat fmt).reqFormat =
      if fmt.baseFormat = reqBaseFormat then fmt.allocFormat else s.reqFormat := by
    simp only [Selection.add]
    split_ifs <;> rfl
  constructor
  · rw [hcnt, h.count, List.length_append]
    rfl
  · intro hnil
    exact (List.append_ne_nil_of_right_ne_nil fmts (List.cons_ne_nil fmt []) hnil).elim
  · intro f hf
    rw [hgrade]
    rcases List.mem_append.mp hf with hf | hf
    · exact (h.best_le f hf).trans (Nat.le_max_left _ _)
    · rw [List.mem_singleton.mp hf]
      exact Nat.le_max_right _ _
  · intro _
    rw [hgrade, hfst]
    split_ifs with hbetter
    · exact ⟨fmt, hmem, by omega, rfl⟩
    · have hne : fmts ≠ [] := by
        intro hnil
        have hzero := h.start hnil
        have hpos := gradeFormat_pos fmt
        omega
      obtain ⟨f, hf, heq, hval⟩ := h.best hne
      exact ⟨f, hold f hf, by omega, hval⟩
  · rw [hreqGrade, hreq]
    split_ifs with hbase
    · exact fun _ => ⟨fmt, hmem, rfl, hbase, rfl⟩
    · intro hne
      obtain ⟨f, hf, hrest⟩ := h.req hne
      exact ⟨f, hold f hf, hrest⟩

theorem Seen.foldl {seen : List FmtProps} (h : Seen reqBaseFormat seen s) (fmts : List FmtProps) :
    Seen reqBaseFormat (seen ++ fmts) (fmts.foldl (Selection.add reqBaseFormat) s) := by
  induction fmts generalizing seen s with
  | nil => rwa [List.append_nil]
  | cons fmt fmts ih =>
    have hnext := ih (h.add fmt)
    rwa [List.append_assoc] at hnext

theorem seen_nil (reqBaseFormat : U32) : Seen reqBaseFormat [] ⟨0, 0, 0, 0#64, 0#64⟩ where
  count := rfl
  start := fun _ => rfl
  best_le := fun fmt hfmt => by cases hfmt
  best := fun h => (h rfl).elim
  req := fun h => (h rfl).elim

def Selection.choose (s : Selection) (producers : Producers) (consumers : Consumers) : U64 :=
  if s.numSupportedFormats > 0 then
    if s.reqFormatGrade ≠ s.bestFmtGrade ∧ !producers.cpu ∧ !consumers.cpu then
      s.firstOfBestFormats
    else if s.reqFormatGrade ≠ 0 then s.reqFormat
    else 0#64
  else 0#64

section
variable {reqBaseFormat : U32} {fmts : List FmtProps} {s : Selection} {producers : Producers}
  {consumers : Consumers}

variable (h : Seen reqBaseFormat fmts s)
include h

theorem Seen.ne_nil (hsome : s.numSupportedFormats > 0) : fmts ≠ [] := by
  rintro rfl
  rw [h.count] at hsome
  exact absurd hsome (by decide)

theorem Seen.choose_cases : s.choose producers consumers = 0#64 ∨
    ∃ fmt ∈ fmts, s.choose producers consumers = fmt.allocFormat ∧
      (producers.cpu ∨ consumers.cpu → fmt.baseFormat = reqBaseFormat) := by
  rw [Selection.choose]
  split_ifs with hsome hother hreq
  · obtain ⟨fmt, hmem, -, hval⟩ := h.best (h.ne_nil hsome)
    obtain ⟨-, hprods, hcons⟩ := hother
    rw [Bool.not_eq_true'] at hprods hcons
    refine .inr ⟨fmt, hmem, hval, ?_⟩
    rintro (hcpu | hcpu)
    · rw [hprods] at hcpu
      cases hcpu
    · rw [hcons] at hcpu
      cases hcpu
  · obtain ⟨fmt, hmem, -, hbase, hval⟩ := h.req hreq
    exact .inr ⟨fmt, hmem, hval, fun _ => hbase⟩
  · exact .inl rfl
  · exact .inl rfl

theorem Seen.choose_best (hne : fmts ≠ []) (hprods : producers.cpu = false) (hcons : consumers.cpu = false) :
    ∃ fmt ∈ fmts, s.choose producers consumers = fmt.allocFormat ∧
      ∀ other ∈ fmts, gradeFormat other ≤ gradeFormat fmt := by
  have hsome : s.numSupportedFormats > 0 := by
    rw [h.count]
    exact List.length_pos_iff.mpr hne
  obtain ⟨best, hbest, hgrade, hval⟩ := h.best hne
  rw [Selection.choose, if_pos hsome]
  split_ifs with hother hreq
  · exact ⟨best, hbest, hval, fun other hother => (h.best_le other hother).trans_eq hgrade.symm⟩
  · obtain ⟨fmt, hmem, hfmt, -, hreqVal⟩ := h.req hreq
    refine ⟨fmt, hmem, hreqVal, fun other hmemOther => ?_⟩
    have hequal : s.reqFormatGrade = s.bestFmtGrade := by
      by_contra hdiff
      exact hother ⟨hdiff, by rw [hprods]; rfl, by rw [hcons]; rfl⟩
    rw [hfmt, hequal]
    exact h.best_le other hmemOther
  · have hpos := gradeFormat_pos best
    refine absurd ⟨?_, ?_, ?_⟩ hother
    · omega
    · rw [hprods]
      rfl
    · rw [hcons]
      rfl

end

section
variable (o : BuildOptions) (so : SelectOptions) (ip : IpCaps) (reqFormat : FormatInfo)
  (usage : U64) (producers : Producers) (consumers : Consumers)
  (producerCaps consumerCaps : U64)

theorem getBestFormat_seen : ∃ s, Seen reqFormat.id
        (candidates o so ip reqFormat usage producers consumers producerCaps consumerCaps) s ∧
      getBestFormat o so ip reqFormat usage producers consumers producerCaps consumerCaps =
        s.choose producers consumers :=
  ⟨_, (seen_nil reqFormat.id).foldl _, rfl⟩

theorem getBestFormat_cases :
    getBestFormat o so ip reqFormat usage producers consumers producerCaps consumerCaps = 0#64 ∨
    ∃ fmt ∈ candidates o so ip reqFormat usage producers consumers producerCaps consumerCaps,
      getBestFormat o so ip reqFormat usage producers consumers producerCaps consumerCaps = fmt.allocFormat ∧
      (producers.cpu ∨ consumers.cpu → fmt.baseFormat = reqFormat.id) := by
  obtain ⟨s, hseen, heq⟩ := getBestFormat_seen o so ip reqFormat usage producers consumers producerCaps consumerCaps
  rw [heq]
  exact hseen.choose_cases

theorem getBestFormat_best (hprods : producers.cpu = false) (hcons : consumers.cpu = false)
    (hne : candidates o so ip reqFormat usage producers consumers producerCaps consumerCaps ≠ []) :
    ∃ fmt ∈ candidates o so ip reqFormat usage producers consumers producerCaps consumerCaps,
      getBestFormat o so ip reqFormat usage producers consumers producerCaps consumerCaps = fmt.allocFormat ∧
      ∀ other ∈ candidates o so ip reqFormat usage producers consumers producerCaps consumerCaps,
        gradeFormat other ≤ gradeFormat fmt := by
  obtain ⟨s, hseen, heq⟩ := getBestFormat_seen o so ip reqFormat usage producers consumers producerCaps consumerCaps
  rw [heq]
  exact hseen.choose_best hne hprods hcons

theorem mem_candidates_iff {fmt : FmtProps} :
    fmt ∈ candidates o so ip reqFormat usage producers consumers producerCaps consumerCaps ↔
      ∃ f ∈ formats, isFormatCompatible reqFormat f ∧
        getSupportedFormat o so ip f usage producers consumers producerCaps consumerCaps = some fmt := by
  rw [candidates, List.mem_filterMap]
  constructor
  · rintro ⟨f, hf, hfmt⟩
    obtain ⟨hmem, hcompat⟩ := List.mem_filter.mp hf
    exact ⟨f, hmem, hcompat, hfmt⟩
  · rintro ⟨f, hmem, hcompat, hfmt⟩
    exact ⟨f, List.mem_filter.mpr ⟨hmem, hcompat⟩, hfmt⟩

end

variable {o : BuildOptions} {so : SelectOptions} {ip : IpCaps} {format : FormatInfo}
  {usage producerCaps consumerCaps : U64} {producers : Producers} {consumers : Consumers} {fmt : FmtProps}

theorem getSupportedFormat_cases
    (h : getSupportedFormat o so ip format usage producers consumers producerCaps consumerCaps = some fmt) :
    fmt.baseFormat = format.id ∧ (fmt.formatExt = 0#64 ∨ ∃ ipFormat ∈ formatsIpSupport o, ipFormat.id = format.id ∧
        supportFlags so ip format ipFormat usage producers consumers producerCaps consumerCaps &&& fAfbc ≠ 0#8 ∧
        fmt.formatExt = getAfbcFormat ip format.id usage producers consumers producerCaps
          consumerCaps &&& intfmtExtMask) := by
  rw [getSupportedFormat] at h
  split at h
  · cases h
  · rename_i ipFormat hfind
    dsimp only at h
    split_ifs at h with hafbc hnone hnone
    · cases h
      have hid := List.find?_some hfind
      rw [beq_iff_eq] at hid
      simp only [Bool.and_eq_true, bne_iff_ne] at hafbc
      exact ⟨rfl, .inr ⟨ipFormat, List.mem_of_find?_eq_some hfind, hid, hafbc.1.1.1, rfl⟩⟩
    · cases h
      exact ⟨rfl, .inl rfl⟩

theorem FmtProps.baseFormat_allocFormat
    (h : fmt.formatExt = 0#64 ∨ ∃ allocFormat, fmt.formatExt = allocFormat &&& intfmtExtMask) :
    Gralloc.baseFormat fmt.allocFormat = fmt.baseFormat := by
  have hext : fmt.formatExt.setWidth 32 = 0#32 := by
    rcases h with hzero | ⟨allocFormat, hmask⟩
    · rw [hzero]
      rfl
    · rw [hmask, BitVec.setWidth_and]
      exact BitVec.and_zero
  rw [Gralloc.baseFormat, FmtProps.allocFormat, BitVec.setWidth_or, hext, BitVec.or_zero,
    BitVec.setWidth_setWidth_of_le _ (by decide), BitVec.setWidth_eq]

theorem baseFormat_of_supported
    (h : getSupportedFormat o so ip format usage producers consumers producerCaps consumerCaps =
      some fmt) : baseFormat fmt.allocFormat = format.id := by
  obtain ⟨hbase, hext⟩ := getSupportedFormat_cases h
  rw [← hbase]
  apply FmtProps.baseFormat_allocFormat
  rcases hext with hzero | ⟨-, -, -, -, hmask⟩
  · exact .inl hzero
  · exact .inr ⟨_, hmask⟩

end ExynosHal.Gralloc
