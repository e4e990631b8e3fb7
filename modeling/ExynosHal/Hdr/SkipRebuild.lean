import ExynosHal.Hdr.Steps

/-! # Skipping a rebuild

What a layer holds for which `changed` answers no.
-/

namespace ExynosHal.Hdr
open Library.Run
open List (append_nil filterMap_nil mem_filterMap)
open Impl (refined)

theorem transferOf_mask (dataspace : U32) : transferOf (dataspace &&& dataspaceMask) = transferOf dataspace := by
  have hmask : dataspaceMask &&& dataspaceTransferMask = dataspaceTransferMask := by decide
  simp only [transferOf, BitVec.and_assoc, hmask]

theorem transferOf_congr {a b : U32} (h : a &&& dataspaceMask = b &&& dataspaceMask) : transferOf a = transferOf b := by
  rw [← transferOf_mask a, h, transferOf_mask]

theorem transferOf_srgb (dataspace : U32) :
    transferOf (dataspace &&& ~~~dataspaceTransferMask ||| dataspaceTransferSrgb) = 2 := by
  have hgone : ~~~dataspaceTransferMask &&& dataspaceTransferMask = 0#32 := by decide
  have hcover : dataspaceTransferSrgb &&& dataspaceTransferMask = dataspaceTransferSrgb := by decide
  rw [transferOf, BitVec.and_or_distrib_right, BitVec.and_assoc, hgone, BitVec.and_zero, BitVec.zero_or, hcover]
  decide

theorem getHdrType_none_iff (info : LayerInfo) :
    getHdrType info = .none ↔ transferOf info.dataspace ≠ 7 ∧ transferOf info.dataspace ≠ 8 := by
  unfold getHdrType
  constructor
  · intro h
    split at h
    · split at h <;> cases h
    · rename_i h7
      split at h
      · cases h
      · rename_i h8
        exact ⟨h7, h8⟩
  · rintro ⟨h7, h8⟩
    rw [if_neg h7, if_neg h8]

theorem refineTransfer_cases (osVersion : Int) (dataspace : U32) : refineTransfer osVersion dataspace = dataspace ∨
      (transferOf dataspace ≠ 7 ∧ transferOf dataspace ≠ 8) ∧ transferOf (refineTransfer osVersion dataspace) = 2 := by
  simp only [refineTransfer]
  split
  · exact .inl rfl
  · rename_i hkept
    split
    · exact .inl rfl
    · refine .inr ⟨⟨fun h7 => ?_, fun h8 => ?_⟩, transferOf_srgb dataspace⟩
      · exact hkept (.inr (.inr (.inl h7)))
      · exact hkept (.inr (.inr (.inr h8)))

theorem getHdrType_refined (p : Platform) (info : LayerInfo) : getHdrType (refined p info) = getHdrType info := by
  rcases refineTransfer_cases p.osVersion info.dataspace with hsame | ⟨hsdr, hsrgb⟩
  · simp only [refined, hsame]
  · have hbefore := (getHdrType_none_iff info).mpr hsdr
    have hafter : getHdrType (refined p info) = .none := by
      rw [getHdrType_none_iff, refined, hsrgb]
      decide
    rw [hbefore, hafter]

def wcgLists (p : Platform) (table : WcgTable) (target : TargetInfo) (layerIndex : Nat) (dataspace : U32) :
    Option Lists := do
  let (_, nodes) ← ((table.lookup (layerIndex : Int)).getD {}).coefNodes p target dataspace
  let lists ← ({} : Lists).queueAll nodes
  some (lists.pushGroups p.groupOrder)

section
variable {p : Platform} {d : Documents} {table : WcgTable} {target : TargetInfo} {layerIndex : Nat}

theorem wcgLists_congr {a b : U32} (h : a &&& dataspaceMask = b &&& dataspaceMask) :
    wcgLists p table target layerIndex a = wcgLists p table target layerIndex b := by
  simp only [wcgLists, WcgModule.coefNodes, h]

theorem lists_wcgCoefBuildup (p : Platform) (table : WcgTable) (target : TargetInfo) {layer : Layer}
    (h : layer.lists = {}) :
    (wcgCoefBuildup p table target layer).map Layer.lists =
      wcgLists p table target layer.layerIndex layer.dataspace := by
  simp only [wcgCoefBuildup, wcgLists, Layer.queue, Option.bind_eq_bind, Option.map_bind, h]
  congr 1
  funext found
  simp only [Function.comp_apply, Option.map_bind]
  rfl

theorem need_wcgLists {dataspace : U32} {built : Lists}
    (h : wcgLists p table target layerIndex dataspace = some built) : built.need = [] := by
  obtain ⟨⟨active, nodes⟩, -, h⟩ := unbind h
  obtain ⟨lists, hlists, h⟩ := unbind h
  cases h
  exact need_queueAll hlists

end

namespace Lists

inductive From (built : Lists) : Lists → Prop where
  | queued : From built built
  | cleaned : From built built.cleanDuplicate
  | moved : From built built.transfer
  | cleanedMoved : From built built.cleanDuplicate.transfer

variable {built lists : Lists}

theorem cleanDuplicate_cleanDuplicate (lists : Lists) : lists.cleanDuplicate.cleanDuplicate = lists.cleanDuplicate := by
  simp only [cleanDuplicate]
  congr 1
  exact List.pwFilter_idem

theorem cleanDuplicate_transfer (lists : Lists) : lists.transfer.cleanDuplicate = lists.transfer := rfl

theorem transfer_transfer (lists : Lists) : lists.transfer.transfer = lists.transfer := by
  simp only [transfer, append_nil]

theorem From.fetch (h : From built lists) : From built lists.cleanDuplicate := by
  cases h with
  | queued => exact .cleaned
  | cleaned =>
    rw [cleanDuplicate_cleanDuplicate]
    exact .cleaned
  | moved =>
    rw [cleanDuplicate_transfer]
    exact .moved
  | cleanedMoved =>
    rw [cleanDuplicate_transfer]
    exact .cleanedMoved

theorem From.skip (h : From built lists) : From built lists.transfer := by
  cases h with
  | queued => exact .moved
  | cleaned => exact .cleanedMoved
  | moved =>
    rw [transfer_transfer]
    exact .moved
  | cleanedMoved =>
    rw [transfer_transfer]
    exact .cleanedMoved

theorem nodes_transfer (hneed : lists.need = []) :
    lists.transfer.shallNodes ++ lists.transfer.needNodes = lists.shallNodes := by
  simp only [transfer, shallNodes, needNodes, hneed, List.nil_append, filterMap_nil]
  rfl

theorem From.nodes (hneed : built.need = []) (h : From built lists) :
    lists.shallNodes ++ lists.needNodes = built.shallNodes ∨
      lists.shallNodes ++ lists.needNodes = built.cleanDuplicate.shallNodes := by
  have hempty : built.needNodes = [] := by rw [needNodes, hneed, filterMap_nil]
  cases h with
  | queued => exact .inl (by rw [hempty, append_nil])
  | cleaned =>
    have hcleaned : built.cleanDuplicate.needNodes = [] := hempty
    exact .inr (by rw [hcleaned, append_nil])
  | moved => exact .inl (nodes_transfer hneed)
  | cleanedMoved =>
    have hcleaned : built.cleanDuplicate.need = [] := hneed
    exact .inr (nodes_transfer hcleaned)

def OnePerRegisters (lists : Lists) : Prop :=
  ∀ a ∈ lists.shallNodes, ∀ b ∈ lists.shallNodes, a.header.byteOffset = b.header.byteOffset →
    a.header.length = b.header.length → a.groupId = b.groupId → a = b

theorem exists_cleaned {r : Ref} (hr : r ∈ lists.shall) :
    ∃ r' ∈ lists.cleanDuplicate.shall, lists.registers r = lists.registers r' := by
  by_contra hnone
  have hall : ∀ r' ∈ lists.cleanDuplicate.shall, lists.registers r ≠ lists.registers r' :=
    fun r' hr' heq => hnone ⟨r', hr', heq⟩
  have hself := (List.forall_mem_pwFilter ?_ r lists.shall).mp hall r hr
  · exact hself rfl
  · intro x y z hxz
    by_cases hxy : lists.registers x = lists.registers y
    · exact .inr (hxy ▸ hxz)
    · exact .inl hxy

theorem mem_cleaned_iff (h : lists.OnePerRegisters) (n : DatNode) :
    n ∈ lists.cleanDuplicate.shallNodes ↔ n ∈ lists.shallNodes := by
  constructor
  · intro hn
    obtain ⟨r, hr, hderef⟩ := mem_filterMap.mp hn
    exact mem_filterMap.mpr ⟨r, List.pwFilter_subset _ hr, hderef⟩
  · intro hn
    obtain ⟨r, hr, hderef⟩ := mem_filterMap.mp hn
    obtain ⟨r', hr', hregs⟩ := exists_cleaned hr
    -- the entry that is left has the registers of `n`, hence is `n`
    simp only [registers, hderef, Option.map_some] at hregs
    obtain ⟨n', hderef', hkey⟩ := Option.map_eq_some_iff.mp hregs.symm
    have hn' : n' ∈ lists.shallNodes := mem_filterMap.mpr ⟨r', List.pwFilter_subset _ hr', hderef'⟩
    simp only [Prod.mk.injEq] at hkey
    have heq : n' = n := h n' hn' n hn hkey.1 hkey.2.1 hkey.2.2
    exact mem_filterMap.mpr ⟨r', hr', heq ▸ hderef'⟩

end Lists

def Layer.Current (p : Platform) (s : Impl) (layer : Layer) : Prop :=
  layer.targetChanged = false → layer.active → transferOf layer.dataspace ≠ 7 →
    transferOf layer.dataspace ≠ 8 → ∃ target built, s.target = some target ∧
      wcgLists p s.wcg target layer.layerIndex layer.dataspace = some built ∧ built.From layer.lists

section
variable {p : Platform} {d : Documents} {s s' : Impl} {layer layer' : Layer} {info : LayerInfo}

theorem current_of_hdr (htype : getHdrType info ≠ .none)
    (hdspace : layer.dataspace = (refined p info).dataspace) : layer.Current p s := by
  intro _ _ h7 h8
  rw [hdspace] at h7 h8
  have hnone := (getHdrType_none_iff (refined p info)).mpr ⟨h7, h8⟩
  rw [getHdrType_refined] at hnone
  exact absurd hnone htype

theorem LayerStep.current (hstep : LayerStep p d s layer layer') (h : layer.Current p s) : layer'.Current p s := by
  cases hstep with
  | marked targetChanged state logLevel hmarked =>
    intro hkept hact h7 h8
    rcases hmarked with rfl | rfl
    · exact h hkept hact h7 h8
    · cases hkept
  | skipped info _ =>
    intro hkept hact h7 h8
    obtain ⟨target, built, htarget, hbuilt, hfrom⟩ := h hkept hact h7 h8
    exact ⟨target, built, htarget, hbuilt, hfrom.skip⟩
  | tuned info reloaded built state htype _ hbuilt =>
    obtain ⟨active, source, lists, heq⟩ := (Requeued.tune hbuilt).frame
    refine current_of_hdr htype ?_
    rw [heq]
    rfl
  | rebuilt info built state hbuilt =>
    obtain ⟨active, source, lists, heq⟩ := (Requeued.coefBuildup hbuilt).frame
    by_cases htype : getHdrType info = .none
    · intro _ _ _ _
      rw [htype] at hbuilt
      obtain ⟨target, based, htarget, hbased, hfmt⟩ := coefBuildup_eq hbuilt
      have hempty : (layer.save p s.targetLuminance (refined p info)).lists = {} := rfl
      have hlists := lists_wcgCoefBuildup p s.wcg target hempty
      rw [hbased] at hlists
      cases hfmt
      have hidx := congrArg Layer.layerIndex heq
      have hdspace := congrArg Layer.dataspace heq
      refine ⟨target, based.lists, htarget, ?_, .queued⟩
      dsimp only at hidx hdspace ⊢
      rw [hidx, hdspace]
      exact hlists.symm
    · refine current_of_hdr htype ?_
      rw [heq]
      rfl
  | fetched layer' parcel hfetched =>
    rw [fetched_eq hfetched]
    intro hkept hact h7 h8
    obtain ⟨target, built, htarget, hbuilt, hfrom⟩ := h hkept hact h7 h8
    exact ⟨target, built, htarget, hbuilt, hfrom.fetch⟩

theorem current_step {call : Call} (h : ∀ (i : Nat) layer, s.layers[i]? = some layer → layer.Current p s)
    (hnext : step p d s call = some s') {i : Nat} (hlayer' : s'.layers[i]? = some layer') : layer'.Current p s' := by
  obtain ⟨layer, hlayer, hstep⟩ := step_layersStep hnext i layer' hlayer'
  have hcur := hstep.current (h i layer hlayer)
  have hcontext := step_context hnext
  rcases hcontext.target with htarget | hmarked
  · simp only [Layer.Current, htarget, hcontext.wcg]
    exact hcur
  · intro hkept
    rw [hmarked layer' (List.mem_of_getElem? hlayer')] at hkept
    cases hkept

theorem current_run {calls : List Call} (h : run p d calls = some s) {i : Nat} (hlayer : s.layers[i]? = some layer) :
    layer.Current p s := by
  refine run_keeps (P := fun s => ∀ (i : Nat) layer, s.layers[i]? = some layer → layer.Current p s) ?_ ?_ h i layer
    hlayer
  · intro s hs i layer hlayer _ hact
    rw [create_layer hs hlayer] at hact
    cases hact
  · intro s s' call hs hnext i layer' hlayer'
    exact current_step hs hnext hlayer'

theorem changed_eq_false (h : layer.changed p info = false) :
    layer.targetChanged = false ∧ layer.active ∧ getHdrType info = .none ∧
      info.dataspace &&& dataspaceMask = layer.dataspace &&& dataspaceMask := by
  simp only [Layer.changed, Bool.or_eq_false_iff, Bool.not_eq_false', bne_eq_false_iff_eq] at h
  obtain ⟨⟨⟨⟨⟨⟨⟨⟨⟨htarget, hact⟩, -⟩, -⟩, -⟩, -⟩, htype⟩, hdspace⟩, -⟩, -⟩ := h
  exact ⟨htarget, hact, htype, hdspace⟩

end

def freshLists (p : Platform) (s : Impl) (info : LayerInfo) (layer : Layer) : Option Lists := do
  let target ← s.target
  let built ← wcgCoefBuildup p s.wcg target (layer.save p s.targetLuminance info)
  some built.lists

/-- What a layer holds when a rebuild is skipped is what a rebuild would give, up to nodes that
`clean_duplicate` takes for superseded; and never does a layer fill both lists. -/
theorem skipRebuild_sound {p : Platform} {d : Documents} {calls : List Call} {s : Impl} (h : run p d calls = some s) :
    (∀ (i : Nat) layer, s.layers[i]? = some layer → layer.lists.shall = [] ∨ layer.lists.need = []) ∧
    ∀ l info layer, s.state = .buildUpReady → s.layer? s.hwId l = some layer →
      layer.changed p (refined p info) = false →
      ∃ s' held fresh, s.setLayerInfo p d l info = some (s', .no) ∧ s'.layers[l]? = some held ∧
        freshLists p s (refined p info) layer = some fresh ∧
        (held.lists.shallNodes ++ held.lists.needNodes = fresh.shallNodes ++ fresh.needNodes ∨
          held.lists.shallNodes ++ held.lists.needNodes =
            fresh.cleanDuplicate.shallNodes ++ fresh.cleanDuplicate.needNodes) ∧
        (fresh.OnePerRegisters → ∀ n, n ∈ held.lists.shallNodes ++ held.lists.needNodes ↔
          n ∈ fresh.shallNodes ++ fresh.needNodes) := by
  refine ⟨fun i layer hlayer => (regular_run h hlayer).exclusive, ?_⟩
  intro l info layer hready hlayer hsame
  obtain ⟨-, hidx⟩ := layer?_eq hlayer
  obtain ⟨htarget, hact, htype, hdspace⟩ := changed_eq_false hsame
  obtain ⟨h7, h8⟩ := (getHdrType_none_iff _).mp htype
  rw [transferOf_congr hdspace] at h7 h8
  obtain ⟨target, fresh, htargetInfo, hfresh, hfrom⟩ := current_run h hidx htarget hact h7 h8
  have hneed := need_wcgLists hfresh
  have hnodes := hfrom.skip.nodes hneed
  have hfreshNeed : fresh.needNodes = [] := by rw [Lists.needNodes, hneed, filterMap_nil]
  have hcleanNeed : fresh.cleanDuplicate.needNodes = [] := hfreshNeed
  let held : Layer := { layer.transfer with state := .buildUpReady }
  refine ⟨s.setLayer l held, held, fresh, ?_, ?_, ?_, ?_, ?_⟩
  · simp only [Impl.setLayerInfo, hready, hlayer, Option.bind_eq_bind, Option.bind_some, hsame]
    rfl
  · simp only [Impl.setLayer, List.getElem?_set_self (List.getElem?_eq_some_iff.mp hidx).1]
  · have hempty : (layer.save p s.targetLuminance (refined p info)).lists = {} := rfl
    have hlists := lists_wcgCoefBuildup p s.wcg target hempty
    have hsaved : wcgLists p s.wcg target layer.layerIndex (refined p info).dataspace = some fresh := by
      rw [wcgLists_congr hdspace, hfresh]
    obtain ⟨built, hbuilt, hbuiltLists⟩ := Option.map_eq_some_iff.mp (hlists.trans hsaved)
    simp only [freshLists, htargetInfo, hbuilt, hbuiltLists, Option.bind_eq_bind, Option.bind_some]
  · rw [hfreshNeed, hcleanNeed, append_nil, append_nil]
    exact hnodes
  · intro hone n
    rw [hfreshNeed, append_nil]
    have hheld : held.lists = layer.lists.transfer := rfl
    rw [hheld]
    rcases hnodes with hnodes | hnodes
    · rw [hnodes]
    · rw [hnodes, Lists.mem_cleaned_iff hone]

/-- Two switches are set, the second one in the register at `offset`. -/
def switchDocuments (offset : U32) : Documents where
  hw := [⟨[0], [
    ("low", { numNodes := 1, numNodesPerReg := 1, bitOffsets := [0], masks := [1], regOffset := 4, regNum := 1 }),
    ("high",
      { numNodes := 1, numNodesPerReg := 1, bitOffsets := [1], masks := [1], regOffset := offset, regNum := 1 })]⟩]
  wcg := [⟨[0], [⟨.modEn true, "low", [1]⟩, ⟨.modEn true, "high", [1]⟩], []⟩]

def wideInfo : LayerInfo := { dataspace := 0x008A0000 }

def switchCalls : List Call :=
  [.setTargetInfo srgbTarget, .initHdrCoefBuildup .dpu, .setLayerInfo 0 wideInfo, .getHdrCoefData .dpu 0]

theorem skipRebuild_sound_apart : ∃ s layer, run plainPlatform (switchDocuments 8) switchCalls = some s ∧
    s.layers[0]? = some layer ∧ (layer.lists.shall = [] ∨ layer.lists.need = []) ∧
    ∃ s' held fresh, s.setLayerInfo plainPlatform (switchDocuments 8) 0 wideInfo = some (s', .no) ∧
      s'.layers[0]? = some held ∧ freshLists plainPlatform s (refined plainPlatform wideInfo) layer = some fresh ∧
      (held.lists.shallNodes ++ held.lists.needNodes = fresh.shallNodes ++ fresh.needNodes ∨
        held.lists.shallNodes ++ held.lists.needNodes =
          fresh.cleanDuplicate.shallNodes ++ fresh.cleanDuplicate.needNodes) ∧
      ∀ n, n ∈ held.lists.shallNodes ++ held.lists.needNodes ↔ n ∈ fresh.shallNodes ++ fresh.needNodes := by
  have hrun : run plainPlatform (switchDocuments 8) switchCalls = some _ := rfl
  obtain ⟨hexclusive, hskip⟩ := skipRebuild_sound hrun
  obtain ⟨s', held, fresh, hcall, hheld, hfresh, hnodes, hsame⟩ := hskip 0 wideInfo _ rfl rfl (by decide)
  have hone : fresh.OnePerRegisters := by
    cases hfresh
    unfold Lists.OnePerRegisters
    decide
  exact ⟨_, _, hrun, rfl, hexclusive 0 _ rfl, s', held, fresh, hcall, hheld, hfresh, hnodes, hsame hone⟩

theorem overlap_not_same_nodes : ∃ s layer s' held fresh, run plainPlatform (switchDocuments 4) switchCalls = some s ∧
    s.layer? s.hwId 0 = some layer ∧ layer.changed plainPlatform (refined plainPlatform wideInfo) = false ∧
    s.setLayerInfo plainPlatform (switchDocuments 4) 0 wideInfo = some (s', .no) ∧ s'.layers[0]? = some held ∧
    freshLists plainPlatform s (refined plainPlatform wideInfo) layer = some fresh ∧
    ¬∀ n, n ∈ held.lists.shallNodes ++ held.lists.needNodes ↔ n ∈ fresh.shallNodes ++ fresh.needNodes := by
  refine ⟨_, _, _, _, _, rfl, rfl, by decide, rfl, rfl, rfl, ?_⟩
  intro h
  have hlow := (h ⟨⟨4, 1, hdrLutMagic⟩, some [some 1], -1⟩).mpr (by decide)
  revert hlow
  decide

end ExynosHal.Hdr
