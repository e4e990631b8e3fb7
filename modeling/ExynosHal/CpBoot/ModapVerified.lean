import ExynosHal.Library.Run
import ExynosHal.CpBoot.Modap

/-! # Which images are verified

The images are found by name, and the security requests take the records at fixed numbers.
-/

namespace ExynosHal.CpBoot.Modap
open Library.Run
open Option (bind_eq_bind bind_eq_some_iff bind_some)

def Covers (fd : Int) : List Chunk → U32 → Nat → Nat → Prop
  | [], _, _, size => size = 0
  | c :: rest, mOffset, fileOffset, size =>
    c.fd = fd ∧ c.mOffset = mOffset ∧ c.fileOffset = fileOffset ∧ c.len ≤ size ∧
      Covers fd rest (mOffset + BitVec.ofNat 32 c.len) (fileOffset + c.len) (size - c.len)

def Outcome.Loaded (out : Outcome) (files : Files) (toc : Toc) (i : Fin 16) : Prop :=
  Covers files.bin (out.loaded.filter fun c => c.stage = (i : Nat)) ((toc i).mOffset &&& cpMemoryMask)
    (toc i).bOffset.toNat (toc i).size.toNat

structure Verified (files : Files) (toc : Toc) (out : Outcome) (bootSize mainSize : U32) : Prop where
  boot : ∃ b, toc.idx .boot = some b ∧ bootSize = (toc b).size ∧ out.Loaded files toc b
  main : ∃ m, toc.idx .main = some m ∧ mainSize = (toc m).size ∧ out.Loaded files toc m
  tocCheck : ∀ offset size, out.tocCheck = some (offset, size) →
    ∃ t, toc.idx .toc = some t ∧ offset = (toc t).mOffset &&& cpMemoryMask ∧ size = (toc t).size
  vssCheck : ∀ mode offset size, out.vssCheck = some (mode, offset, size) →
    ∃ v, toc.idx .vss = some v ∧ offset = (toc v).mOffset &&& cpMemoryMask ∧ size = (toc v).size

def Stages.Holds (set : Stages) (toc : Toc) (i : Nat) : Prop := set.start ≤ i ∧ i ∈ scanned toc set

instance (set : Stages) (toc : Toc) (i : Nat) : Decidable (set.Holds toc i) :=
  inferInstanceAs (Decidable (_ ∧ _))

def sizeAt (set : Stages) (toc : Toc) (i : Fin 16) : U32 :=
  if set.Holds toc i then (toc i).size else 0

def mOffsetAt (set : Stages) (toc : Toc) (i : Fin 16) : U32 :=
  if set.Holds toc i then (toc i).mOffset &&& cpMemoryMask else 0

def Loadable (set : Stages) (toc : Toc) (env : Env) (i : Fin 16) : Prop :=
  (toc i).size = 0 ∨ set.Holds toc i ∧ (toc i).size ≠ (toc i).bOffset ∧
    ∀ k, k * payloadLen < (toc i).size.toNat → env.loadCpImage i k ≤ 0

structure InPlace (build : Build) (args : CbdArgs) (toc : Toc) (env : Env) (set : Stages) : Prop where
  boot : ∃ b, toc.idx .boot = some b ∧ sizeAt set toc 1 = (toc b).size ∧ Loadable set toc env b
  main : ∃ m, toc.idx .main = some m ∧ sizeAt set toc 2 = (toc m).size ∧ Loadable set toc env m
  tocEntry : build.verifyingAll → ∃ t, toc.idx .toc = some t ∧
    mOffsetAt set toc 0 = (toc t).mOffset &&& cpMemoryMask ∧ sizeAt set toc 0 = (toc t).size
  vssEntry : build.verifyingAll → args.verifyVss ∨ env.firstXmitDone = 48 → ∀ v, toc.idx .vss = some v →
    mOffsetAt set toc 3 = (toc v).mOffset &&& cpMemoryMask ∧ sizeAt set toc 3 = (toc v).size

section
variable {build : Build} {args : CbdArgs} {fds : Fds} {toc : Toc} {set : Stages} {ctrl : DlCtrl}

theorem put_eq {ctrl' : DlCtrl} {i : Nat} {r : DloadControl} (h : ctrl.put i r = some ctrl') :
    i < ctrl.length ∧ ctrl' = ctrl.set i r := by
  unfold DlCtrl.put at h
  split at h
  · rename_i hi
    exact ⟨hi, (Option.some.inj h).symm⟩
  · cases h

theorem foldlM_records {l : List Nat} {ctrl ctrl' : DlCtrl} (h : l.foldlM (fun ctrl idx =>
      if idx < set.start then some ctrl
      else if h : idx < 16 then ctrl.put idx (record build args fds toc ⟨idx, h⟩)
      else none) ctrl = some ctrl') :
    ctrl'.length = ctrl.length ∧ ∀ i : Fin 16, (i : Nat) < ctrl.length →
      ctrl'[(i : Nat)]? = if set.start ≤ i ∧
      (i : Nat) ∈ l then some (record build args fds toc i) else ctrl[(i : Nat)]? := by
  induction l generalizing ctrl with
  | nil =>
    cases h
    exact ⟨rfl, fun i _ => by simp⟩
  | cons idx l ih =>
    rw [List.foldlM_cons, bind_eq_bind, bind_eq_some_iff] at h
    obtain ⟨next, hnext, h⟩ := h
    obtain ⟨hlen, hrecords⟩ := ih h
    split at hnext
    · rename_i hskip
      cases hnext
      refine ⟨hlen, fun i hi => ?_⟩
      have hmem : set.start ≤ (i : Nat) ∧ (i : Nat) ∈ idx :: l ↔ set.start ≤ (i : Nat) ∧ (i : Nat) ∈ l := by
        rw [List.mem_cons]
        constructor
        · rintro ⟨hstart, rfl | hl⟩
          · omega
          · exact ⟨hstart, hl⟩
        · exact fun ⟨hstart, hl⟩ => ⟨hstart, .inr hl⟩
      rw [hrecords i hi]
      simp only [hmem]
    · rename_i hstart
      split at hnext
      · rename_i hidx
        obtain ⟨hin, rfl⟩ := put_eq hnext
        rw [List.length_set] at hlen hrecords
        refine ⟨hlen, fun i hi => ?_⟩
        rw [hrecords i hi]
        by_cases heq : (i : Nat) = idx
        · subst heq
          have hhere : set.start ≤ (i : Nat) ∧ (i : Nat) ∈ (i : Nat) :: l :=
            ⟨Nat.le_of_not_lt hstart, List.mem_cons_self⟩
          rw [List.getElem?_set_self hi, if_pos hhere, Fin.eta, ite_self]
        · rw [List.getElem?_set_ne (Ne.symm heq)]
          simp only [List.mem_cons, heq, false_or]
      · cases hnext

theorem dlCtrl_records (h : buildStdDloadControl build args fds toc set = some ctrl) :
    ctrl.length = maxDloadStage ∧ ∀ i : Fin 16, (i : Nat) < maxDloadStage →
      ctrl[(i : Nat)]? = some (if set.Holds toc i then record build args fds toc i else {}) := by
  obtain ⟨hlen, hrecords⟩ := foldlM_records h
  rw [DlCtrl.init, List.length_replicate] at hlen hrecords
  refine ⟨hlen, fun i hi => ?_⟩
  rw [hrecords i hi, List.getElem?_replicate, if_pos hi]
  exact (apply_ite some _ _ _).symm

theorem record_at (h : buildStdDloadControl build args fds toc set = some ctrl) {i : Fin 16}
    (hi : (i : Nat) < maxDloadStage) :
    ∃ r, ctrl[(i : Nat)]? = some r ∧ r.bSize = sizeAt set toc i ∧ r.mOffset = mOffsetAt set toc i := by
  refine ⟨_, (dlCtrl_records h).2 i hi, ?_, ?_⟩
  · rw [sizeAt]
    split <;> rfl
  · rw [mOffsetAt]
    split <;> rfl

end

section
variable {env : Env} {stage : Nat} {dlc : DloadControl} {fuel k : Nat} {mOffset : U32} {c : Chunk}

theorem stage_loadChunks (hc : c ∈ (loadChunks env stage dlc fuel k mOffset).1) : c.stage = stage := by
  induction fuel generalizing k mOffset with
  | zero => cases hc
  | succ fuel ih =>
    simp only [loadChunks] at hc
    split at hc
    · cases hc
    · split at hc
      · cases hc
      · split at hc
        · cases hc
        · split at hc
          · rw [List.mem_singleton.mp hc]
          · rcases List.mem_cons.mp hc with rfl | hc
            · rfl
            · exact ih hc

theorem stage_loadStage (hc : c ∈ (loadStage env stage dlc).1) : c.stage = stage := by
  simp only [loadStage, loadCpImageByStage] at hc
  split_ifs at hc
  all_goals first | cases hc | exact stage_loadChunks hc

theorem covers_loadChunks (hk : k * payloadLen ≤ dlc.bSize.toNat)
    (hfuel : dlc.bSize.toNat < (k + fuel) * payloadLen) (hret : 0 ≤ (loadChunks env stage dlc fuel k mOffset).2) :
    Covers dlc.bFd (loadChunks env stage dlc fuel k mOffset).1 mOffset (dlc.bOffset.toNat + k * payloadLen)
        (dlc.bSize.toNat - k * payloadLen) ↔
      ∀ j, k ≤ j → j * payloadLen < dlc.bSize.toNat → env.loadCpImage stage j ≤ 0 := by
  induction fuel generalizing k mOffset with
  | zero =>
    rw [Nat.add_zero] at hfuel
    omega
  | succ fuel ih =>
    have hpast : ∀ j, k + 1 ≤ j → (k + 1) * payloadLen ≤ j * payloadLen := fun j hj => Nat.mul_le_mul_right _ hj
    have hnext : (k + 1) * payloadLen = k * payloadLen + payloadLen := Nat.succ_mul _ _
    unfold loadChunks at hret ⊢
    dsimp only at hret ⊢
    split at hret
    · rename_i hread
      exact absurd hret (Int.not_le.mpr hread)
    rename_i hread
    rw [if_neg hread]
    split at hret
    · exact absurd hret (by decide)
    rename_i hlen
    rw [if_neg hlen]
    split at hret
    · rename_i hanswer
      rw [if_pos hanswer]
      have hpos : 0 < env.loadCpImage stage k := lt_of_le_of_ne hret (Ne.symm hanswer)
      constructor
      · intro hcovers j hj hlt
        have hdone : dlc.bSize.toNat - k * payloadLen = 0 := hcovers
        have := Nat.mul_le_mul_right payloadLen hj
        omega
      · intro hall
        by_contra hleft
        have hlt : k * payloadLen < dlc.bSize.toNat := by
          have hne : dlc.bSize.toNat - k * payloadLen ≠ 0 := hleft
          omega
        exact absurd (hall k le_rfl hlt) (Int.not_le.mpr hpos)
    rename_i hanswer
    rw [if_neg hanswer]
    have hzero : env.loadCpImage stage k = 0 := not_not.mp hanswer
    split at hret
    · rename_i hlast
      rw [if_pos hlast]
      have hlen : roundLen dlc k = dlc.bSize.toNat - k * payloadLen := if_pos hlast
      rw [lastRound, decide_eq_true_eq] at hlast
      constructor
      · intro _ j hj hlt
        rcases Nat.lt_or_eq_of_le hj with hj | rfl
        · have := hpast j hj
          omega
        · rw [hzero]
      · intro _
        refine ⟨rfl, rfl, rfl, le_of_eq hlen, ?_⟩
        rw [Covers, hlen, Nat.sub_self]
    · rename_i hlast
      rw [if_neg hlast]
      have hlen : roundLen dlc k = payloadLen := if_neg hlast
      rw [lastRound, decide_eq_true_eq] at hlast
      have hsize : dlc.bSize.toNat - k * payloadLen - payloadLen = dlc.bSize.toNat - (k + 1) * payloadLen := by omega
      have hoff : dlc.bOffset.toNat + k * payloadLen + payloadLen = dlc.bOffset.toNat + (k + 1) * payloadLen := by omega
      have hrest := ih (k := k + 1) (by omega) (by rwa [Nat.add_right_comm, Nat.add_assoc]) hret
      simp only [Covers, hlen, hsize, hoff, true_and] at hrest ⊢
      rw [hrest]
      constructor
      · rintro ⟨-, hall⟩ j hj hlt
        rcases Nat.lt_or_eq_of_le hj with hj | rfl
        · exact hall j hj hlt
        · rw [hzero]
      · intro hall
        exact ⟨by omega, fun j hj hlt => hall j (by omega) hlt⟩

theorem covers_loadStage (honce : dlc.dlOnce = false) (hfd : 0 ≤ dlc.bFd) (hret : 0 ≤ (loadStage env stage dlc).2) :
    Covers dlc.bFd (loadStage env stage dlc).1 dlc.mOffset dlc.bOffset.toNat dlc.bSize.toNat ↔
      dlc.bSize = 0 ∨ dlc.bSize ≠ dlc.bOffset ∧
        ∀ k, k * payloadLen < dlc.bSize.toNat → env.loadCpImage stage k ≤ 0 := by
  have hskip : ¬(dlc.dlOnce = true ∧ env.firstXmitDone = 49) := by simp [honce]
  rw [loadStage, if_neg hskip, if_neg (Int.not_lt.mpr hfd)] at hret ⊢
  by_cases hsize : dlc.bSize = 0
  · rw [if_pos hsize]
    simp [Covers, hsize]
  rw [if_neg hsize] at hret ⊢
  have hne : dlc.bSize.toNat ≠ 0 := fun h => hsize (BitVec.eq_of_toNat_eq h)
  simp only [loadCpImageByStage] at hret ⊢
  split at hret
  · exact absurd hret (by decide)
  rename_i hmalloc
  rw [if_neg hmalloc]
  split at hret
  · rename_i hsought
    exact absurd hret (Int.not_le.mpr hsought)
  rename_i hsought
  rw [if_neg hsought]
  split at hret
  · rename_i hoff
    rw [if_pos hoff]
    constructor
    · intro hcovers
      exact absurd hcovers hne
    · rintro (hzero | ⟨hneq, -⟩)
      · exact absurd hzero hsize
      · exact absurd hoff hneq
  · rename_i hoff
    rw [if_neg hoff]
    have hfuel : dlc.bSize.toNat < (0 + (dlc.bSize.toNat / payloadLen + 1)) * payloadLen := by
      rw [Nat.zero_add]
      exact Nat.lt_mul_of_div_lt (Nat.lt_succ_self _) (by decide)
    have hcovers := covers_loadChunks (k := 0) (by simp) hfuel hret
    simp only [Nat.zero_mul, Nat.add_zero, Nat.sub_zero, Nat.zero_le, forall_const] at hcovers
    rw [hcovers, or_iff_right hsize, and_iff_right hoff]

theorem filter_loadStage {i : Nat} :
    (loadStage env stage dlc).1.filter (fun c => c.stage = i) = if stage =
      i then (loadStage env stage dlc).1 else [] := by
  split
  · rename_i heq
    rw [List.filter_eq_self]
    intro c hc
    simp only [stage_loadStage hc, heq, decide_true]
  · rename_i hne
    rw [List.filter_eq_nil_iff]
    intro c hc
    simp only [stage_loadStage hc, hne, decide_false]
    exact Bool.false_ne_true

theorem loadStages_eq {ctrl : DlCtrl} {l : List Nat} {chunks : List Chunk} {ret : Int} (hnodup : l.Nodup)
    (h : loadStages env ctrl l = some (chunks, ret)) (hret : 0 ≤ ret) (i : Nat) :
    (i ∈ l → ∃ dlc, ctrl[i]? = some dlc ∧ 0 ≤ (loadStage env i dlc).2 ∧
      chunks.filter (fun c => c.stage = i) = (loadStage env i dlc).1) ∧
    (i ∉ l → chunks.filter (fun c => c.stage = i) = []) := by
  induction l generalizing chunks ret with
  | nil =>
    cases h
    exact ⟨nofun, fun _ => rfl⟩
  | cons stage rest ih =>
    obtain ⟨hstage, hrest⟩ := List.nodup_cons.mp hnodup
    simp only [loadStages] at h
    obtain ⟨dlc, hdlc, h⟩ := unbind h
    split at h
    · rename_i hneg
      cases h
      omega
    rename_i hpos
    obtain ⟨⟨more, ret'⟩, hmore, h⟩ := unbind h
    cases h
    obtain ⟨hin, hout⟩ := ih hrest hmore hret
    rw [List.filter_append, filter_loadStage]
    constructor
    · intro hi
      rcases List.mem_cons.mp hi with rfl | hi
      · refine ⟨dlc, hdlc, Int.not_lt.mp hpos, ?_⟩
        rw [if_pos rfl, hout hstage, List.append_nil]
      · have hne : stage ≠ i := by
          rintro rfl
          exact hstage hi
        rw [if_neg hne, List.nil_append]
        exact hin hi
    · intro hi
      rw [if_neg (Ne.symm (List.ne_of_not_mem_cons hi)), List.nil_append, hout (List.not_mem_of_not_mem_cons hi)]

end

section
variable {build : Build} {args : CbdArgs} {files : Files} {toc : Toc} {env : Env} {ctrl : DlCtrl} {out out' : Outcome}
  {bootOnce : Int} {s₁ s₂ : U32}

structure Final (ctrl : DlCtrl) (s₁ s₂ : U32) : Prop where
  boot : ctrl[1]?.map DloadControl.bSize = some s₁
  main : ctrl[2]?.map DloadControl.bSize = some s₂

theorem finalRequest_eq (h : finalRequest ctrl out = some out') (hfinal : out'.final = some (s₁, s₂)) :
    Final ctrl s₁ s₂ ∧ out'.loaded = out.loaded ∧ out'.tocCheck = out.tocCheck ∧ out'.vssCheck = out.vssCheck := by
  obtain ⟨boot, hboot, h⟩ := unbind h
  obtain ⟨main, hmain, h⟩ := unbind h
  cases h
  cases hfinal
  exact ⟨⟨by rw [hboot]; rfl, by rw [hmain]; rfl⟩, rfl, rfl, rfl⟩

theorem verifyAll_eq (hout : out.final = none ∧ out.vssCheck = none)
    (h : verifyAll args toc env ctrl bootOnce out = some out') (hfinal : out'.final = some (s₁, s₂)) :
    Final ctrl s₁ s₂ ∧ out'.loaded = out.loaded ∧ (∃ r, ctrl[0]? = some r ∧ out'.tocCheck = some (r.mOffset, r.bSize)) ∧
      (if toc.idx .vss ≠ none ∧ (args.verifyVss ∨ bootOnce = 0) then
        ∃ r mode, ctrl[3]? = some r ∧ out'.vssCheck = some (mode, r.mOffset, r.bSize)
      else out'.vssCheck = none) := by
  simp only [verifyAll] at h
  obtain ⟨first, hfst, h⟩ := unbind h
  split at h
  · cases h
    rw [hout.1] at hfinal
    cases hfinal
  split at h
  · rename_i hvss
    obtain ⟨hfinals, hloaded, htoc, hvssCheck⟩ := finalRequest_eq h hfinal
    rw [if_neg (fun hreq => hreq.1 hvss)]
    exact ⟨hfinals, hloaded, ⟨first, hfst, htoc⟩, hvssCheck.trans hout.2⟩
  rename_i hvss
  split at h
  · rename_i hskip
    obtain ⟨hfinals, hloaded, htoc, hvssCheck⟩ := finalRequest_eq h hfinal
    have hnot : ¬(toc.idx .vss ≠ none ∧ (args.verifyVss ∨ bootOnce = 0)) := by
      rintro ⟨-, hverify | hzero⟩
      · simp [vssMode, hverify] at hskip
      · exact hskip.1 hzero
    rw [if_neg hnot]
    exact ⟨hfinals, hloaded, ⟨first, hfst, htoc⟩, hvssCheck.trans hout.2⟩
  rename_i hrequest
  obtain ⟨vss, hvssRecord, h⟩ := unbind h
  have hreq : toc.idx .vss ≠ none ∧ (args.verifyVss ∨ bootOnce = 0) := by
    refine ⟨hvss, ?_⟩
    by_contra hneither
    obtain ⟨hverify, hzero⟩ := not_or.mp hneither
    exact hrequest ⟨hzero, by simp [vssMode, hverify]⟩
  rw [if_pos hreq]
  split at h
  · cases h
    rw [hout.1] at hfinal
    cases hfinal
  · obtain ⟨hfinals, hloaded, htoc, hvssCheck⟩ := finalRequest_eq h hfinal
    exact ⟨hfinals, hloaded, ⟨first, hfst, htoc⟩, ⟨vss, _, hvssRecord, hvssCheck⟩⟩

structure Reached (build : Build) (args : CbdArgs) (files : Files) (toc : Toc) (env : Env) (out : Outcome)
    (s₁ s₂ : U32) (fds : Fds) (set : Stages) (ctrl : DlCtrl) : Prop where
  parsed : stdBootParseTocImg build files toc = some fds
  stages : stages build args toc = some set
  records : buildStdDloadControl build args fds toc set = some ctrl
  loaded : loadStages env ctrl set.list = some (out.loaded, 0)
  final : Final ctrl s₁ s₂
  checks : if build.verifyingAll = true then
      (∃ r, ctrl[0]? = some r ∧ out.tocCheck = some (r.mOffset, r.bSize)) ∧
      (if toc.idx .vss ≠ none ∧ (args.verifyVss ∨ env.firstXmitDone = 48) then
        ∃ r mode, ctrl[3]? = some r ∧ out.vssCheck = some (mode, r.mOffset, r.bSize)
      else out.vssCheck = none)
    else out.tocCheck = none ∧ out.vssCheck = none

variable {l : List Nat}

theorem loadStages_ret {chunks : List Chunk} {ret : Int} (h : loadStages env ctrl l = some (chunks, ret))
    (hret : ¬ret < 0) : ret = 0 := by
  induction l generalizing chunks ret with
  | nil =>
    cases h
    rfl
  | cons stage rest ih =>
    obtain ⟨dlc, -, h⟩ := unbind h
    dsimp only at h
    split at h
    · rename_i hneg
      cases h
      exact absurd hneg hret
    · obtain ⟨⟨more, ret'⟩, hmore, h⟩ := unbind h
      cases h
      exact ih hmore hret

theorem boot_reached (h : boot build args files toc env = some out) (hfinal : out.final = some (s₁, s₂)) :
    ∃ fds set ctrl, Reached build args files toc env out s₁ s₂ fds set ctrl := by
  unfold boot at h
  split at h
  · rename_i fds set hparsed hstages
    obtain ⟨ctrl, hctrl, h⟩ := unbind h
    split at h
    · cases h
      cases hfinal
    split at h
    · cases h
      cases hfinal
    split at h
    · cases h
      cases hfinal
    obtain ⟨⟨loaded, ret⟩, hload, h⟩ := unbind h
    dsimp only at h
    split at h
    · cases h
      cases hfinal
    rename_i hret
    refine ⟨fds, set, ctrl, ?_⟩
    obtain ⟨⟨chunks, ret'⟩, hstage, hload⟩ := unbind hload
    dsimp only at hload
    split at hload
    · rename_i hneg
      cases hload
      exact absurd hneg hret
    rename_i hneg
    cases hload
    rw [loadStages_ret hstage hneg] at hstage
    split at h
    · rename_i hall
      obtain ⟨hfinals, hloaded, htoc, hvss⟩ := verifyAll_eq ⟨rfl, rfl⟩ h hfinal
      have hzero : env.firstXmitDone - 48 = 0 ↔ env.firstXmitDone = 48 := by omega
      simp only [hzero] at hvss
      exact ⟨hparsed, hstages, hctrl, hloaded ▸ hstage, hfinals, by rw [if_pos hall]; exact ⟨htoc, hvss⟩⟩
    · rename_i hall
      obtain ⟨hfinals, hloaded, htoc, hvss⟩ := finalRequest_eq h hfinal
      exact ⟨hparsed, hstages, hctrl, hloaded ▸ hstage, hfinals, by rw [if_neg hall]; exact ⟨htoc, hvss⟩⟩
  · cases h
    cases hfinal

variable {fds : Fds} {set : Stages}

theorem nodup_list (set : Stages) : set.list.Nodup := List.nodup_range.sublist (List.drop_sublist _ _)

theorem Stages.Holds.mem_list {i : Nat} (h : set.Holds toc i) : i ∈ set.list := by
  have hrange : i < (set.num + 1).toNat := List.mem_range.mp ((List.takeWhile_prefix _).subset h.2)
  rw [Stages.list, List.mem_drop_iff_getElem]
  refine ⟨i - set.start, ?_, ?_⟩
  · rw [List.length_range]
    have := h.1
    omega
  · rw [List.getElem_range]
    have := h.1
    omega

section
variable (h : Reached build args files toc env out s₁ s₂ fds set ctrl)
include h

theorem Reached.loaded_iff {t : TocType} {i : Fin 16} (hi : toc.idx t = some i) (ht : t = .boot ∨ t = .main) :
    out.Loaded files toc i ↔ Loadable set toc env i := by
  have hbin := parse_bin h.parsed
  obtain ⟨hlen, hrecords⟩ := dlCtrl_records h.records
  obtain ⟨hin, hout⟩ := loadStages_eq (nodup_list set) h.loaded le_rfl i
  have hzero : (toc i).size.toNat = 0 ↔ (toc i).size = 0 :=
    ⟨fun hz => BitVec.eq_of_toNat_eq hz, fun hz => by rw [hz]; rfl⟩
  have hrecord : ∀ dlc, ctrl[(i : Nat)]? = some dlc →
      dlc = if set.Holds toc i then record build args fds toc i else {} := by
    intro dlc hdlc
    obtain ⟨hbound, -⟩ := List.getElem?_eq_some_iff.mp hdlc
    rw [hlen] at hbound
    exact Option.some.inj (hdlc.symm.trans (hrecords i hbound))
  unfold Outcome.Loaded Loadable
  by_cases hholds : set.Holds toc i
  · obtain ⟨dlc, hdlc, hret, hchunks⟩ := hin hholds.mem_list
    have heq := hrecord dlc hdlc
    rw [if_pos hholds] at heq
    have hne : t ≠ .nvNorm ∧ t ≠ .nvProt ∧ t ≠ .nv := by rcases ht with rfl | rfl <;> decide
    have hfd : dlc.bFd = files.bin := by rw [heq, record, nvFd_of_idx hi hne, hbin]
    have honce : dlc.dlOnce = false := by
      have hvss : toc.idx .vss ≠ some i := by
        intro hvss
        rcases ht with rfl | rfl
        all_goals exact absurd (idx_injective hi hvss) (by decide)
      rw [heq]
      simp [record, hvss]
    have hcovers := covers_loadStage honce (by rw [hfd]; exact Int.natCast_nonneg _) hret
    rw [hchunks, ← hfd]
    rw [heq] at hcovers ⊢
    rw [and_iff_right hholds]
    exact hcovers
  · have hnone : out.loaded.filter (fun c => c.stage = (i : Nat)) = [] := by
      by_cases hmem : (i : Nat) ∈ set.list
      · obtain ⟨dlc, hdlc, -, hchunks⟩ := hin hmem
        rw [hchunks, hrecord dlc hdlc, if_neg hholds]
        simp [loadStage]
      · exact hout hmem
    rw [hnone, Covers, hzero]
    simp only [hholds, false_and, or_false]

theorem Reached.sizes : s₁ = sizeAt set toc 1 ∧ s₂ = sizeAt set toc 2 := by
  obtain ⟨r₁, hr₁, hsize₁, -⟩ := record_at h.records (i := (1 : Fin 16)) (by decide)
  obtain ⟨r₂, hr₂, hsize₂, -⟩ := record_at h.records (i := (2 : Fin 16)) (by decide)
  have hboot := h.final.boot
  have hmain := h.final.main
  rw [show ctrl[1]? = some r₁ from hr₁] at hboot
  rw [show ctrl[2]? = some r₂ from hr₂] at hmain
  exact ⟨(Option.some.inj hboot).symm.trans hsize₁, (Option.some.inj hmain).symm.trans hsize₂⟩

theorem Reached.tocCheck :
    out.tocCheck = if build.verifyingAll then some (mOffsetAt set toc 0, sizeAt set toc 0) else none := by
  have hchecks := h.checks
  split at hchecks
  · rename_i hall
    obtain ⟨⟨r, hr, htoc⟩, -⟩ := hchecks
    obtain ⟨r', hr', hsize, hoff⟩ := record_at h.records (i := (0 : Fin 16)) (by decide)
    cases hr.symm.trans hr'
    rw [htoc, hsize, hoff, if_pos hall]
  · rename_i hall
    rw [hchecks.1, if_neg hall]

end

def Asked (build : Build) (args : CbdArgs) (toc : Toc) (env : Env) : Prop :=
  build.verifyingAll ∧ toc.idx .vss ≠ none ∧ (args.verifyVss ∨ env.firstXmitDone = 48)

theorem Reached.vssCheck (h : Reached build args files toc env out s₁ s₂ fds set ctrl) :
    (Asked build args toc env → ∃ mode, out.vssCheck = some (mode, mOffsetAt set toc 3, sizeAt set toc 3)) ∧
      (¬Asked build args toc env → out.vssCheck = none) := by
  have hchecks := h.checks
  split at hchecks
  · rename_i hall
    obtain ⟨-, hvss⟩ := hchecks
    split at hvss
    · rename_i hasked
      obtain ⟨r, mode, hr, hvss⟩ := hvss
      obtain ⟨r', hr', hsize, hoff⟩ := record_at h.records (i := (3 : Fin 16)) (by decide)
      cases hr.symm.trans hr'
      rw [hsize, hoff] at hvss
      exact ⟨fun _ => ⟨mode, hvss⟩, fun hnot => absurd ⟨hall, hasked⟩ hnot⟩
    · rename_i hasked
      exact ⟨fun hyes => absurd hyes.2 hasked, fun _ => hvss⟩
  · rename_i hall
    exact ⟨fun hyes => absurd hyes.1 hall, fun _ => hchecks.2⟩

theorem Reached.verified_iff (h : Reached build args files toc env out s₁ s₂ fds set ctrl) :
    Verified files toc out s₁ s₂ ↔ InPlace build args toc env set := by
  obtain ⟨rfl, rfl⟩ := h.sizes
  have htoc := h.tocCheck
  obtain ⟨hasked, hnot⟩ := h.vssCheck
  constructor
  · intro hverified
    refine ⟨?_, ?_, fun hall => ?_, fun hall hwhen v hv => ?_⟩
    · obtain ⟨b, hb, hsize, hloaded⟩ := hverified.boot
      exact ⟨b, hb, hsize, (h.loaded_iff hb (.inl rfl)).mp hloaded⟩
    · obtain ⟨m, hm, hsize, hloaded⟩ := hverified.main
      exact ⟨m, hm, hsize, (h.loaded_iff hm (.inr rfl)).mp hloaded⟩
    · rw [if_pos hall] at htoc
      exact hverified.tocCheck _ _ htoc
    · obtain ⟨mode, hvss⟩ := hasked ⟨hall, by rw [hv]; exact Option.some_ne_none v, hwhen⟩
      obtain ⟨v', hv', hsame⟩ := hverified.vssCheck _ _ _ hvss
      cases hv.symm.trans hv'
      exact hsame
  · intro hplace
    refine ⟨?_, ?_, fun offset size hcheck => ?_, fun mode offset size hcheck => ?_⟩
    · obtain ⟨b, hb, hsize, hloadable⟩ := hplace.boot
      exact ⟨b, hb, hsize, (h.loaded_iff hb (.inl rfl)).mpr hloadable⟩
    · obtain ⟨m, hm, hsize, hloadable⟩ := hplace.main
      exact ⟨m, hm, hsize, (h.loaded_iff hm (.inr rfl)).mpr hloadable⟩
    · rw [hcheck] at htoc
      split at htoc
      · rename_i hall
        cases htoc
        exact hplace.tocEntry hall
      · cases htoc
    · by_cases hdue : Asked build args toc env
      · obtain ⟨mode', hvss⟩ := hasked hdue
        cases hcheck.symm.trans hvss
        obtain ⟨v, hv⟩ := Option.ne_none_iff_exists'.mp hdue.2.1
        exact ⟨v, hv, hplace.vssEntry hdue.1 hdue.2.2 v hv⟩
      · rw [hnot hdue] at hcheck
        cases hcheck

theorem build_defined (hfits : (set.num + 1).toNat ≤ maxDloadStage) :
    ∃ ctrl, buildStdDloadControl build args fds toc set = some ctrl := by
  have hscanned : ∀ idx ∈ scanned toc set, idx < maxDloadStage := by
    intro idx hidx
    have hrange : idx < (set.num + 1).toNat := List.mem_range.mp ((List.takeWhile_prefix _).subset hidx)
    omega
  have hinit : DlCtrl.init.length = maxDloadStage := List.length_replicate
  have hstep : ∀ ctrl : DlCtrl, ∀ idx ∈ scanned toc set, ctrl.length = maxDloadStage →
      ∃ ctrl' : DlCtrl, (if idx < set.start then some ctrl
        else if h : idx < 16 then ctrl.put idx (record build args fds toc ⟨idx, h⟩) else none) = some ctrl' ∧
        ctrl'.length = maxDloadStage := by
    intro ctrl idx hidx hctrl
    have hbound := hscanned idx hidx
    have hentry : idx < 16 := lt_of_lt_of_le hbound (by decide)
    split
    · exact ⟨ctrl, rfl, hctrl⟩
    · rw [DlCtrl.put, if_pos (by rwa [hctrl])]
      exact ⟨_, rfl, by rw [List.length_set, hctrl]⟩
  obtain ⟨ctrl, hctrl, -⟩ := foldlM_total hstep hinit
  exact ⟨ctrl, hctrl⟩

theorem loadStages_defined (hl : ∀ stage ∈ l, stage < ctrl.length) : ∃ result, loadStages env ctrl l = some result := by
  induction l with
  | nil => exact ⟨_, rfl⟩
  | cons stage rest ih =>
    obtain ⟨hstage, hrest⟩ := List.forall_mem_cons.mp hl
    obtain ⟨⟨more, ret⟩, hmore⟩ := ih hrest
    simp only [loadStages, List.getElem?_eq_getElem hstage, hmore, bind_eq_bind, bind_some]
    split <;> exact ⟨_, rfl⟩

theorem finalRequest_defined (hctrl : ctrl.length = maxDloadStage) (out : Outcome) :
    ∃ out', finalRequest ctrl out = some out' := by
  have hboot : 1 < ctrl.length := by rw [hctrl]; decide
  have hmain : 2 < ctrl.length := by rw [hctrl]; decide
  simp only [finalRequest, List.getElem?_eq_getElem hboot, List.getElem?_eq_getElem hmain, bind_eq_bind, bind_some]
  exact ⟨_, rfl⟩

theorem verifyAll_defined (hctrl : ctrl.length = maxDloadStage) (bootOnce : Int) (out : Outcome) :
    ∃ out', verifyAll args toc env ctrl bootOnce out = some out' := by
  have hfst : 0 < ctrl.length := by rw [hctrl]; decide
  have hvss : 3 < ctrl.length := by rw [hctrl]; decide
  simp only [verifyAll, List.getElem?_eq_getElem hfst, List.getElem?_eq_getElem hvss, bind_eq_bind, bind_some]
  split
  · exact ⟨_, rfl⟩
  split
  · exact finalRequest_defined hctrl _
  split
  · exact finalRequest_defined hctrl _
  split
  · exact ⟨_, rfl⟩
  · exact finalRequest_defined hctrl _

theorem boot_defined (hset : stages build args toc = some set) (hfits : (set.num + 1).toNat ≤ maxDloadStage) :
    ∃ out, boot build args files toc env = some out := by
  unfold boot
  cases hparsed : stdBootParseTocImg build files toc with
  | none => exact ⟨_, rfl⟩
  | some fds =>
    have hbuilt : ∃ ctrl, buildStdDloadControl build args fds toc set = some ctrl := build_defined hfits
    obtain ⟨ctrl, hctrl⟩ := hbuilt
    have hlen := (dlCtrl_records hctrl).1
    have hlist : ∀ stage ∈ set.list, stage < ctrl.length := by
      intro stage hstage
      have hrange : stage < (set.num + 1).toNat := List.mem_range.mp (List.drop_subset _ _ hstage)
      omega
    have hloads : ∃ result, loadCpImages env ctrl set = some result := by
      have hstages : ∃ result, loadStages env ctrl set.list = some result := loadStages_defined hlist
      obtain ⟨⟨chunks, ret⟩, hstages⟩ := hstages
      simp only [loadCpImages, hstages, bind_eq_bind, bind_some]
      split <;> exact ⟨_, rfl⟩
    obtain ⟨⟨chunks, ret⟩, hload⟩ := hloads
    simp only [hset, hctrl, hload, bind_eq_bind, bind_some]
    split
    · exact ⟨_, rfl⟩
    split
    · exact ⟨_, rfl⟩
    split
    · exact ⟨_, rfl⟩
    split
    · exact ⟨_, rfl⟩
    split
    · exact verifyAll_defined hlen _ _
    · exact finalRequest_defined hlen _

/-- The images that are verified are the ones loaded under the names of the table exactly when the entries
stand at the numbers of their types; with at most twelve stages a boot is defined. -/
theorem boot_verified_iff (build : Build) (args : CbdArgs) (files : Files) (toc : Toc) (env : Env) :
    (∀ set, stages build args toc = some set → (set.num + 1).toNat ≤ maxDloadStage →
      ∃ out, boot build args files toc env = some out) ∧
    ∀ out s₁ s₂, boot build args files toc env = some out → out.final = some (s₁, s₂) →
      (Verified files toc out s₁ s₂ ↔ ∃ set, stages build args toc = some set ∧ InPlace build args toc env set) := by
  refine ⟨fun set hset hfits => boot_defined hset hfits, fun out s₁ s₂ h hfinal => ?_⟩
  obtain ⟨fds, set, ctrl, hreached⟩ := boot_reached h hfinal
  rw [hreached.verified_iff]
  constructor
  · intro hplace
    exact ⟨set, hreached.stages, hplace⟩
  · rintro ⟨set', hset', hplace⟩
    cases hreached.stages.symm.trans hset'
    exact hplace

end

attribute [local instance] neZero_sixteen

def smallToc (bootAt mainAt : Fin 16) : Toc := fun i =>
  if i = 0 then { name := "TOC", size := 512, tocCount := 4 }
  else if i = bootAt then { name := "BOOT", bOffset := 512, mOffset := 0x40000000, size := 3 }
  else if i = mainAt then { name := "MAIN", bOffset := 515, mOffset := 0x40100000, size := 5 }
  else if i = 3 then { name := "NV_NORM", size := 1 }
  else {}

def sitBuild : Build := ⟨true, false⟩

def plainFiles : Files := ⟨3, fun _ => some 4⟩

def smallEnv (toc : Toc) : Env where
  read stage _ := if h : stage < 16 then (toc ⟨stage, h⟩).size.toNat else 0

theorem boot_verified_iff_small : ∃ out s₁ s₂,
    boot sitBuild {} plainFiles (smallToc 1 2) (smallEnv (smallToc 1 2)) = some out ∧ out.final = some (s₁, s₂) ∧
    s₁ = 3 ∧ s₂ = 5 ∧ Verified plainFiles (smallToc 1 2) out s₁ s₂ := by
  refine ⟨_, _, _, rfl, rfl, rfl, rfl, ?_⟩
  refine ((boot_verified_iff sitBuild {} plainFiles (smallToc 1 2) (smallEnv (smallToc 1 2))).2 _ _ _ rfl rfl).mpr ?_
  refine ⟨_, rfl, ⟨1, rfl, rfl, .inr ⟨by decide, by decide, fun _ _ => le_rfl⟩⟩,
    ⟨2, rfl, rfl, .inr ⟨by decide, by decide, fun _ _ => le_rfl⟩⟩, nofun, nofun⟩

theorem swapped_not_verified : ∃ out s₁ s₂,
    boot sitBuild {} plainFiles (smallToc 2 1) (smallEnv (smallToc 2 1)) = some out ∧ out.final = some (s₁, s₂) ∧
    (smallToc 2 1).idx .boot = some 2 ∧ (smallToc 2 1 2).size = 3 ∧ s₁ = 5 ∧
    ¬Verified plainFiles (smallToc 2 1) out s₁ s₂ := by
  refine ⟨_, _, _, rfl, rfl, rfl, rfl, rfl, fun h => ?_⟩
  obtain ⟨b, hb, hsize, -⟩ := h.boot
  cases hb
  revert hsize
  decide

end ExynosHal.CpBoot.Modap
