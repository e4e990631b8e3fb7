import ExynosHal.Hdr.Queue

/-! # What a call can do

A call leaves a layer with other flags only, moves its list over, rebuilds it or cleans its list while
fetching.
-/

namespace ExynosHal.Hdr
open Library.Run
open Option (map_eq_some_iff)

structure Requeued (layer built : Layer) : Prop where
  frame : ∃ active sourceLuminance lists, built = { layer with active, sourceLuminance, lists }
  need : built.lists.need = layer.lists.need
  resolves : layer.lists.Resolves → built.lists.Resolves

theorem Requeued.trans {a b c : Layer} (h : Requeued a b) (h' : Requeued b c) : Requeued a c := by
  obtain ⟨⟨active, source, lists, rfl⟩, hneed, hresolves⟩ := h
  obtain ⟨⟨active', source', lists', rfl⟩, hneed', hresolves'⟩ := h'
  exact ⟨⟨active', source', lists', rfl⟩, hneed'.trans hneed, fun hlists => hresolves' (hresolves hlists)⟩

theorem Requeued.set (layer : Layer) (active : Bool) (sourceLuminance : U32) :
    Requeued layer { layer with active, sourceLuminance } :=
  ⟨⟨active, sourceLuminance, layer.lists, rfl⟩, rfl, id⟩

theorem need_queueAll {lists lists' : Lists} {nodes : List DatNode} (h : lists.queueAll nodes = some lists') :
    lists'.need = lists.need := by
  refine foldlM_keeps (P := fun next => next.need = lists.need) ?_ rfl h
  intro current next node _ hcur hnext
  rcases Lists.queueAndGroup_cases hnext with ⟨-, rfl⟩ | ⟨image, merged, -, -, rfl⟩ | ⟨-, -, rfl⟩
  all_goals exact hcur

section
variable {p : Platform} {d : Documents} {layer built : Layer} {nodes : List DatNode}

theorem Layer.queue_eq (h : layer.queue p nodes = some built) : ∃ lists, layer.lists.queueAll nodes = some lists ∧
      built = { layer with lists := lists.pushGroups p.groupOrder } := by
  obtain ⟨lists, hlists, h⟩ := unbind h
  exact ⟨lists, hlists, (Option.some.inj h).symm⟩

theorem Requeued.queue (h : layer.queue p nodes = some built) : Requeued layer built := by
  obtain ⟨lists, hlists, rfl⟩ := Layer.queue_eq h
  have hneed := need_queueAll hlists
  refine ⟨⟨layer.active, layer.sourceLuminance, _, rfl⟩, hneed, fun hresolves => ?_⟩
  exact (hresolves.queueAll hlists).pushGroups p.groupOrder_perm

variable {target : TargetInfo}

theorem wcgCoefBuildup_eq {table : WcgTable} (h : wcgCoefBuildup p table target layer = some built) :
    ∃ active nodes, ((table.lookup (layer.layerIndex : Int)).getD {}).coefNodes p target layer.dataspace =
      some (active, nodes) ∧ ({ layer with active } : Layer).queue p nodes = some built := by
  obtain ⟨⟨active, nodes⟩, hnodes, h⟩ := unbind h
  exact ⟨active, nodes, hnodes, h⟩

variable {table : LutTable}

theorem hdr10CoefBuildup_eq {override : U32} {built : Layer × Bool}
    (h : hdr10CoefBuildup p d override table layer = some built) :
    ∃ source nodes, hdr10Nodes p d table layer source = some nodes ∧
      ({ layer with sourceLuminance := source } : Layer).queue p nodes = some built.1 := by
  obtain ⟨nodes, hnodes, h⟩ := unbind h
  obtain ⟨result, hres, h⟩ := unbind h
  cases h
  exact ⟨_, nodes, hnodes, hres⟩

theorem hdr10pCoefBuildup_eq {built : Layer × Bool} (h : hdr10pCoefBuildup p d table layer = some built) :
    ∃ source nodes, hdr10pNodes p d table layer source = some nodes ∧
      ({ layer with sourceLuminance := source } : Layer).queue p nodes = some built.1 := by
  obtain ⟨nodes, hnodes, h⟩ := unbind h
  obtain ⟨result, hres, h⟩ := unbind h
  cases h
  exact ⟨_, nodes, hnodes, hres⟩

theorem hlgCoefBuildup_cases {built : Layer × Bool} (h : hlgCoefBuildup p d table layer = some built) :
    built = ({ layer with sourceLuminance := 1000 }, false) ∨
    ∃ first rest nodes, table.lookup (layer.layerIndex : Int) = some (first :: rest) ∧
      hlgNodes p d layer first = some nodes ∧
      ({ layer with sourceLuminance := 1000 } : Layer).queue p nodes = some built.1 := by
  simp only [hlgCoefBuildup] at h
  split at h
  · rename_i first rest htable
    obtain ⟨nodes, hnodes, h⟩ := unbind h
    obtain ⟨result, hres, h⟩ := unbind h
    cases h
    exact .inr ⟨first, rest, nodes, htable, hnodes, hres⟩
  · exact .inl (Option.some.inj h).symm

theorem tuneCoefBuildup_cases {built : Layer × Bool} (h : tuneCoefBuildup p table layer = some built) :
    built = (layer, false) ∨
    ∃ first rest, table.lookup (layer.layerIndex : Int) = some (first :: rest) ∧
      layer.queue p first.coefPacked = some built.1 := by
  simp only [tuneCoefBuildup] at h
  split at h
  · rename_i first rest htable
    obtain ⟨result, hres, h⟩ := unbind h
    cases h
    exact .inr ⟨first, rest, htable, hres⟩
  · exact .inl (Option.some.inj h).symm

theorem Requeued.wcg {table : WcgTable} (h : wcgCoefBuildup p table target layer = some built) :
    Requeued layer built := by
  obtain ⟨active, nodes, -, hqueue⟩ := wcgCoefBuildup_eq h
  exact (Requeued.set layer active layer.sourceLuminance).trans (Requeued.queue hqueue)

theorem Requeued.tune {built : Layer × Bool} (h : tuneCoefBuildup p table layer = some built) :
    Requeued layer built.1 := by
  rcases tuneCoefBuildup_cases h with rfl | ⟨first, rest, -, hqueue⟩
  · exact Requeued.set layer layer.active layer.sourceLuminance
  · exact Requeued.queue hqueue

end

variable {p : Platform} {d : Documents} {s : Impl} {hdrType : LayerHdrType} {layer : Layer} {built : Layer × Bool}

theorem coefBuildup_eq (h : s.coefBuildup p d hdrType layer = some built) :
    ∃ target based, s.target = some target ∧ wcgCoefBuildup p s.wcg target layer = some based ∧
      s.formatBuildup p d hdrType based = some built := by
  obtain ⟨target, htarget, h⟩ := unbind h
  obtain ⟨based, hbased, h⟩ := unbind h
  exact ⟨target, based, htarget, hbased, h⟩

theorem Requeued.coefBuildup (h : s.coefBuildup p d hdrType layer = some built) : Requeued layer built.1 := by
  obtain ⟨target, based, -, hbased, h⟩ := coefBuildup_eq h
  refine (Requeued.wcg hbased).trans ?_
  cases hdrType with
  | none =>
    cases h
    exact Requeued.set based based.active based.sourceLuminance
  | hdr10 =>
    obtain ⟨source, nodes, -, hqueue⟩ := hdr10CoefBuildup_eq h
    exact (Requeued.set based based.active source).trans (Requeued.queue hqueue)
  | hdr10p =>
    obtain ⟨source, nodes, -, hqueue⟩ := hdr10pCoefBuildup_eq h
    exact (Requeued.set based based.active source).trans (Requeued.queue hqueue)
  | hlg =>
    rcases hlgCoefBuildup_cases h with rfl | ⟨first, rest, nodes, -, -, hqueue⟩
    · exact Requeued.set based based.active 1000
    · exact (Requeued.set based based.active 1000).trans (Requeued.queue hqueue)

inductive LayerStep (p : Platform) (d : Documents) (s : Impl) (layer : Layer) : Layer → Prop where
  | marked (targetChanged : Bool) (state : PerLayerState) (logLevel : Int)
      (h : targetChanged = layer.targetChanged ∨ targetChanged) :
      LayerStep p d s layer { layer with targetChanged, state, logLevel }
  | skipped (info : LayerInfo) (h : layer.changed p (Impl.refined p info) = false) :
      LayerStep p d s layer { layer.transfer with state := .buildUpReady }
  | tuned (info : LayerInfo) (reloaded : Impl) (built : Layer × Bool) (state : PerLayerState)
      (htype : getHdrType info ≠ .none) (hreload : s.reloadTune d = some reloaded)
      (h : tuneCoefBuildup p reloaded.tune (layer.save p s.targetLuminance (Impl.refined p info)) = some built) :
      LayerStep p d s layer { built.1 with state }
  | rebuilt (info : LayerInfo) (built : Layer × Bool) (state : PerLayerState)
      (h : s.coefBuildup p d (getHdrType info) (layer.save p s.targetLuminance (Impl.refined p info)) = some built) :
      LayerStep p d s layer { built.1 with state }
  | fetched (layer' : Layer) (parcel : Option (List Word)) (h : layer.getHdrCoefData = some (layer', parcel)) :
      LayerStep p d s layer layer'

section
variable {p : Platform} {d : Documents} {s s' : Impl}

theorem LayerStep.same (layer : Layer) : LayerStep p d s layer layer :=
  .marked layer.targetChanged layer.state layer.logLevel (.inl rfl)

def LayersStep (p : Platform) (d : Documents) (s s' : Impl) : Prop :=
  ∀ (i : Nat) (layer' : Layer), s'.layers[i]? = some layer' → ∃ layer, s.layers[i]? = some layer ∧
    LayerStep p d s layer layer'

theorem layersStep_of_eq (h : s'.layers = s.layers) : LayersStep p d s s' := by
  intro i layer' hlayer'
  rw [h] at hlayer'
  exact ⟨layer', hlayer', LayerStep.same layer'⟩

variable {f : Layer → Layer} {i : Nat} {layer' : Layer}

theorem getElem?_layers_map (h : s'.layers = s.layers.map f)
    (hlayer' : s'.layers[i]? = some layer') : ∃ layer, s.layers[i]? = some layer ∧ layer' = f layer := by
  rw [h, List.getElem?_map, map_eq_some_iff] at hlayer'
  obtain ⟨layer, hlayer, rfl⟩ := hlayer'
  exact ⟨layer, hlayer, rfl⟩

variable {l : Nat} {new : Layer}

theorem getElem?_layers_set (h : s'.layers = s.layers.set l new)
    (hlayer' : s'.layers[i]? = some layer') : l = i ∧ layer' = new ∨ l ≠ i ∧ s.layers[i]? = some layer' := by
  rw [h, List.getElem?_set] at hlayer'
  split at hlayer'
  · rename_i hl
    exact .inl ⟨hl, (Option.some.inj (Option.ite_none_right_eq_some.mp hlayer').2).symm⟩
  · rename_i hl
    exact .inr ⟨hl, hlayer'⟩

theorem layersStep_map (hf : ∀ layer, LayerStep p d s layer (f layer))
    (h : s'.layers = s.layers.map f) : LayersStep p d s s' := by
  intro i layer' hlayer'
  obtain ⟨layer, hlayer, rfl⟩ := getElem?_layers_map h hlayer'
  exact ⟨layer, hlayer, hf layer⟩

variable {layer : Layer}

theorem layersStep_set (hlayer : s.layers[l]? = some layer)
    (hnew : LayerStep p d s layer new) (h : s'.layers = s.layers.set l new) : LayersStep p d s s' := by
  intro i layer' hlayer'
  rcases getElem?_layers_set h hlayer' with ⟨rfl, rfl⟩ | ⟨-, hother⟩
  · exact ⟨layer, hlayer, hnew⟩
  · exact ⟨layer', hother, LayerStep.same layer'⟩

variable {hwId : HdrHwId}

theorem layer?_eq (h : s.layer? hwId l = some layer) : hwId = .dpu ∧ s.layers[l]? = some layer := by
  cases hwId with
  | dpu => exact ⟨rfl, h⟩
  | g2d => cases h
  | max => cases h

theorem finishLayer_layers (l : Nat) (built : Layer × Bool) :
    ∃ state, (s.finishLayer l built).1 = s.setLayer l { built.1 with state } := by
  simp only [Impl.finishLayer]
  split
  · exact ⟨.buildUpReady, rfl⟩
  · exact ⟨.init, rfl⟩

variable {info : LayerInfo}

def Rebuilt (p : Platform) (d : Documents) (s : Impl) (l : Nat) (info : LayerInfo) (layer : Layer) (s' : Impl) : Prop :=
  let saved := layer.save p s.targetLuminance (Impl.refined p info)
  (∃ reloaded built state, getHdrType info ≠ .none ∧ s.reloadTune d = some reloaded ∧
    tuneCoefBuildup p reloaded.tune saved = some built ∧ s' = reloaded.setLayer l { built.1 with state }) ∨
  ∃ built state, s.coefBuildup p d (getHdrType info) saved = some built ∧ s' = s.setLayer l { built.1 with state }

theorem setLayerInfo_cases {err : HdrErr} (h : s.setLayerInfo p d l info = some (s', err)) :
    (s.state ≠ .buildUpReady ∧ s' = s) ∨ ∃ layer, s.state = .buildUpReady ∧ s.layer? s.hwId l = some layer ∧
      (layer.changed p (Impl.refined p info) = false ∧
      s' = s.setLayer l { layer.transfer with state := .buildUpReady } ∨
       layer.changed p (Impl.refined p info) = true ∧ Rebuilt p d s l info layer s') := by
  unfold Impl.setLayerInfo at h
  split at h
  · rename_i hready
    obtain ⟨layer, hlayer, h⟩ := unbind h
    refine .inr ⟨layer, hready, hlayer, ?_⟩
    dsimp only at h
    split at h
    · rename_i hchanged
      refine .inr ⟨hchanged, ?_⟩
      simp only [Impl.rebuild] at h
      split at h
      · rename_i htype
        obtain ⟨reloaded, hreloaded, h⟩ := unbind h
        obtain ⟨built, hbuilt, h⟩ := unbind h
        obtain ⟨state, hstate⟩ := finishLayer_layers (s := reloaded) l built
        have hs' := congrArg Prod.fst (Option.some.inj h)
        exact .inl ⟨reloaded, built, state, htype.1, hreloaded, hbuilt, hs'.symm.trans hstate⟩
      · obtain ⟨built, hbuilt, h⟩ := unbind h
        obtain ⟨state, hstate⟩ := finishLayer_layers (s := s) l built
        have hs' := congrArg Prod.fst (Option.some.inj h)
        exact .inr ⟨built, state, hbuilt, hs'.symm.trans hstate⟩
    · rename_i hsame
      cases h
      exact .inl ⟨by simpa using hsame, rfl⟩
  · rename_i hobj
    cases h
    exact .inl ⟨by rw [hobj]; nofun, rfl⟩
  · rename_i htarget
    cases h
    exact .inl ⟨by rw [htarget]; nofun, rfl⟩

theorem reloadTune_eq {reloaded : Impl} (h : s.reloadTune d = some reloaded) :
    ∃ tune tuneReload, reloaded = { s with tune, tuneReload } ∧ (tune = s.tune ∨ parseTune d s.tune = some tune) := by
  unfold Impl.reloadTune at h
  split at h
  · obtain ⟨tune, htune, h⟩ := unbind h
    exact ⟨tune, false, (Option.some.inj h).symm, .inr htune⟩
  · exact ⟨s.tune, s.tuneReload, (Option.some.inj h).symm, .inl rfl⟩

theorem setLayerInfo_rebuilt (h : Rebuilt p d s l info layer s') :
    ∃ built : Layer, built.layerChanged ∧ built.lists.need = [] ∧ s'.layers = s.layers.set l built := by
  rcases h with ⟨reloaded, built, state, -, hreload, hbuilt, rfl⟩ | ⟨built, state, hbuilt, rfl⟩
  · obtain ⟨tune, tuneReload, rfl, -⟩ := reloadTune_eq hreload
    obtain ⟨⟨active, source, lists, heq⟩, hneed, -⟩ := Requeued.tune hbuilt
    refine ⟨{ built.1 with state }, ?_, hneed, rfl⟩
    rw [heq]
    rfl
  · obtain ⟨⟨active, source, lists, heq⟩, hneed, -⟩ := Requeued.coefBuildup hbuilt
    refine ⟨{ built.1 with state }, ?_, hneed, rfl⟩
    rw [heq]
    rfl

theorem getHdrCoefData_cases {result : Impl × HdrErr × Option (List Word)} (h : s.getHdrCoefData hwId l = some result) :
    result = (s, .inval, none) ∨ ∃ layer layer' parcel, s.layers[l]? = some layer ∧
      layer.getHdrCoefData = some (layer', parcel) ∧ result = (s.setLayer l layer', .no, parcel) := by
  simp only [Impl.getHdrCoefData] at h
  split at h
  · obtain ⟨layer, hlayer, h⟩ := unbind h
    split at h
    · obtain ⟨⟨layer', parcel⟩, hfetched, h⟩ := unbind h
      exact .inr ⟨layer, layer', parcel, (layer?_eq hlayer).2, hfetched, (Option.some.inj h).symm⟩
    · exact .inl (Option.some.inj h).symm
  · exact .inl (Option.some.inj h).symm
  · exact .inl (Option.some.inj h).symm

theorem setTargetInfo_cases {target : TargetInfo} (h : s.setTargetInfo p d target = some s') :
    (s.state ≠ .objReady ∧ s' = { s.contextSetTargetInfo target with state := .targetReady }) ∨
    (s.state = .objReady ∧ ∃ hdr10 hdr10p hlg, parseHdr10 p d target s.hdr10 = some hdr10 ∧
      parseHdr10p p d target s.hdr10p = some hdr10p ∧ parseHlg d target s.hlg = some hlg ∧
      s' = { s.contextSetTargetInfo target with hdr10, hdr10p, hlg, state := .targetReady }) := by
  have hstate : (s.contextSetTargetInfo target).state = s.state := rfl
  simp only [Impl.setTargetInfo, hstate] at h
  split at h
  · rename_i hobj
    obtain ⟨hdr10, h10, h⟩ := unbind h
    obtain ⟨hdr10p, h10p, h⟩ := unbind h
    obtain ⟨hlg, hhlg, h⟩ := unbind h
    exact .inr ⟨hobj, hdr10, hdr10p, hlg, h10, h10p, hhlg, (Option.some.inj h).symm⟩
  iterate 2
    rename_i hready
    refine .inl ⟨?_, (Option.some.inj h).symm⟩
    rw [hready]
    nofun

theorem setHDRlayer_eq {hasHdr : Bool} (h : s.setHDRlayer p hasHdr = some s') :
    ∃ targetLuminance, s' = { s with hasHdrLayer := hasHdr, targetLuminance } := by
  unfold Impl.setHDRlayer at h
  split at h
  · obtain ⟨target, -, h⟩ := unbind h
    exact ⟨_, (Option.some.inj h).symm⟩
  · exact ⟨_, (Option.some.inj h).symm⟩

theorem initHdrCoefBuildup_cases (h : s.initHdrCoefBuildup hwId = some s') :
    s' = s ∨ s' = { s with state := .buildUpReady, hwId } ∨
    s' = { s with
      state := .buildUpReady
      hwId
      layers := s.layers.map fun layer => { layer with state := .init } } := by
  unfold Impl.initHdrCoefBuildup at h
  split at h
  · exact .inl (Option.some.inj h).symm
  all_goals
    split at h
    · exact .inr (.inr (Option.some.inj h).symm)
    · exact .inr (.inl (Option.some.inj h).symm)
    · cases h

theorem setLogLevel_eq (s : Impl) (logLevel : Int) :
    ∃ tuneMode tuneReload targetLuminance sourceLuminance logLevel', s.setLogLevel logLevel = { s with
        tuneMode, tuneReload, targetLuminance, sourceLuminance
        logLevel := logLevel'
        layers := s.layers.map fun layer => { layer with logLevel := logLevel' } } := by
  simp only [Impl.setLogLevel]
  split
  · exact ⟨_, _, _, _, _, rfl⟩
  split
  · exact ⟨_, _, _, _, _, rfl⟩
  split
  · exact ⟨_, _, _, _, _, rfl⟩
  split <;> exact ⟨_, _, _, _, _, rfl⟩

variable {call : Call}

theorem step_layersStep (h : step p d s call = some s') : LayersStep p d s s' := by
  cases call with
  | setTargetInfo target =>
    refine layersStep_map (fun layer => .marked true layer.state layer.logLevel (.inr rfl)) ?_
    rcases setTargetInfo_cases h with ⟨-, rfl⟩ | ⟨-, _, _, _, -, -, -, rfl⟩
    all_goals rfl
  | setHDRlayer hasHdr =>
    obtain ⟨luminance, rfl⟩ := setHDRlayer_eq h
    exact layersStep_of_eq rfl
  | setLogLevel logLevel =>
    cases h
    obtain ⟨_, _, _, _, logLevel', heq⟩ := setLogLevel_eq s logLevel
    rw [heq]
    exact layersStep_map (fun layer => .marked layer.targetChanged layer.state logLevel' (.inl rfl)) rfl
  | initHdrCoefBuildup hwId =>
    rcases initHdrCoefBuildup_cases h with rfl | rfl | rfl
    · exact layersStep_of_eq rfl
    · exact layersStep_of_eq rfl
    · exact layersStep_map (fun layer => .marked layer.targetChanged .init layer.logLevel (.inl rfl)) rfl
  | setLayerInfo l info =>
    obtain ⟨⟨s', err⟩, hcall, rfl⟩ := map_eq_some_iff.mp h
    rcases setLayerInfo_cases hcall with ⟨-, rfl⟩ | ⟨layer, -, hfound, ⟨hsame, rfl⟩ | ⟨-, hbuilt⟩⟩
    · exact layersStep_of_eq rfl
    · exact layersStep_set (layer?_eq hfound).2 (.skipped info hsame) rfl
    · have hlayer := (layer?_eq hfound).2
      rcases hbuilt with ⟨reloaded, built, state, htype, hreload, hbuilt, rfl⟩ | ⟨built, state, hbuilt, rfl⟩
      · refine layersStep_set hlayer (.tuned info reloaded built state htype hreload hbuilt) ?_
        obtain ⟨tune, tuneReload, rfl, -⟩ := reloadTune_eq hreload
        rfl
      · exact layersStep_set hlayer (.rebuilt info built state hbuilt) rfl
  | getHdrCoefData hwId l =>
    obtain ⟨result, hcall, rfl⟩ := map_eq_some_iff.mp h
    rcases getHdrCoefData_cases hcall with rfl | ⟨layer, layer', parcel, hlayer, hfetched, rfl⟩
    · exact layersStep_of_eq rfl
    · exact layersStep_set hlayer (.fetched layer' parcel hfetched) rfl

structure ContextStep (p : Platform) (d : Documents) (s : Impl) (call : Call) (s' : Impl) : Prop where
  wcg : s'.wcg = s.wcg
  target : s'.target = s.target ∨ ∀ layer ∈ s'.layers, layer.targetChanged
  tables : s'.hdr10 = s.hdr10 ∧ s'.hdr10p = s.hdr10p ∧ s'.hlg = s.hlg ∨
    ∃ target, call = .setTargetInfo target ∧ s.state = .objReady ∧ parseHdr10 p d target s.hdr10 = some s'.hdr10 ∧
      parseHdr10p p d target s.hdr10p = some s'.hdr10p ∧ parseHlg d target s.hlg = some s'.hlg
  tune : s'.tune = s.tune ∨ parseTune d s.tune = some s'.tune

theorem ContextStep.same (h : s'.wcg = s.wcg ∧ s'.target = s.target ∧ s'.hdr10 = s.hdr10 ∧
    s'.hdr10p = s.hdr10p ∧ s'.hlg = s.hlg ∧ s'.tune = s.tune) : ContextStep p d s call s' := by
  obtain ⟨hwcg, htarget, h10, h10p, hhlg, htune⟩ := h
  exact ⟨hwcg, .inl htarget, .inl ⟨h10, h10p, hhlg⟩, .inl htune⟩

theorem step_context (h : step p d s call = some s') : ContextStep p d s call s' := by
  cases call with
  | setTargetInfo target =>
    have hmarked : ∀ layer ∈ (s.contextSetTargetInfo target).layers, layer.targetChanged := by
      intro layer hlayer
      obtain ⟨old, -, rfl⟩ := List.mem_map.mp hlayer
      rfl
    rcases setTargetInfo_cases h with ⟨-, rfl⟩ | ⟨hobj, hdr10, hdr10p, hlg, h10, h10p, hhlg, rfl⟩
    · exact ⟨rfl, .inr hmarked, .inl ⟨rfl, rfl, rfl⟩, .inl rfl⟩
    · exact ⟨rfl, .inr hmarked, .inr ⟨target, rfl, hobj, h10, h10p, hhlg⟩, .inl rfl⟩
  | setHDRlayer hasHdr =>
    obtain ⟨luminance, rfl⟩ := setHDRlayer_eq h
    exact .same ⟨rfl, rfl, rfl, rfl, rfl, rfl⟩
  | setLogLevel logLevel =>
    cases h
    obtain ⟨_, _, _, _, _, heq⟩ := setLogLevel_eq s logLevel
    rw [heq]
    exact .same ⟨rfl, rfl, rfl, rfl, rfl, rfl⟩
  | initHdrCoefBuildup hwId =>
    rcases initHdrCoefBuildup_cases h with rfl | rfl | rfl
    all_goals exact .same ⟨rfl, rfl, rfl, rfl, rfl, rfl⟩
  | setLayerInfo l info =>
    obtain ⟨⟨s', err⟩, hcall, rfl⟩ := map_eq_some_iff.mp h
    rcases setLayerInfo_cases hcall with
      ⟨-, rfl⟩ | ⟨layer, -, -, ⟨-, rfl⟩ | ⟨-, ⟨reloaded, _, _, -, hreload, -, rfl⟩ | ⟨_, _, -, rfl⟩⟩⟩
    · exact .same ⟨rfl, rfl, rfl, rfl, rfl, rfl⟩
    · exact .same ⟨rfl, rfl, rfl, rfl, rfl, rfl⟩
    · obtain ⟨tune, tuneReload, rfl, htune⟩ := reloadTune_eq hreload
      exact ⟨rfl, .inl rfl, .inl ⟨rfl, rfl, rfl⟩, htune⟩
    · exact .same ⟨rfl, rfl, rfl, rfl, rfl, rfl⟩
  | getHdrCoefData hwId l =>
    obtain ⟨result, hcall, rfl⟩ := map_eq_some_iff.mp h
    rcases getHdrCoefData_cases hcall with rfl | ⟨layer, layer', parcel, -, -, rfl⟩
    all_goals exact .same ⟨rfl, rfl, rfl, rfl, rfl, rfl⟩

end

section
variable {p : Platform} {d : Documents} {s : Impl} {layer layer' : Layer}

theorem fetched_eq {parcel : Option (List Word)} (h : layer.getHdrCoefData = some (layer', parcel)) :
    layer' = { layer with lists := layer.lists.cleanDuplicate } := by
  simp only [Layer.getHdrCoefData] at h
  split at h
  · obtain ⟨words, -, h⟩ := unbind h
    exact (congrArg Prod.fst (Option.some.inj h)).symm
  · exact (congrArg Prod.fst (Option.some.inj h)).symm

structure Layer.Regular (i : Nat) (layer : Layer) : Prop where
  index : layer.layerIndex = i
  exclusive : layer.lists.shall = [] ∨ layer.lists.need = []
  resolves : layer.lists.Resolves

variable {i : Nat}

theorem Layer.Regular.requeued {info : LayerInfo} {luminance : TargetLuminance} {built : Layer}
    {state : PerLayerState} (h : layer.Regular i) (hbuilt : Requeued (layer.save p luminance info) built) :
    ({ built with state } : Layer).Regular i := by
  obtain ⟨⟨active, source, lists, rfl⟩, hneed, hresolves⟩ := hbuilt
  exact ⟨h.index, .inr hneed, hresolves Lists.Resolves.empty⟩

theorem LayerStep.regular (hstep : LayerStep p d s layer layer') (h : layer.Regular i) : layer'.Regular i := by
  cases hstep with
  | marked targetChanged state logLevel _ => exact ⟨h.index, h.exclusive, h.resolves⟩
  | skipped info _ => exact ⟨h.index, .inl rfl, h.resolves.transfer⟩
  | tuned info reloaded built state _ _ hbuilt => exact h.requeued (Requeued.tune hbuilt)
  | rebuilt info built state hbuilt => exact h.requeued (Requeued.coefBuildup hbuilt)
  | fetched layer' parcel hfetched =>
    rw [fetched_eq hfetched]
    refine ⟨h.index, ?_, h.resolves.cleanDuplicate⟩
    rcases h.exclusive with hshall | hneed
    · left
      simp only [Lists.cleanDuplicate, hshall, List.pwFilter_nil]
    · exact .inr hneed

end

section
variable {p : Platform} {d : Documents} {s : Impl} {calls : List Call}

theorem run_keeps {P : Impl → Prop} (hcreate : ∀ s, Impl.create d = some s → P s)
    (hstep : ∀ s s' call, P s → step p d s call = some s' → P s') (h : run p d calls = some s) : P s := by
  obtain ⟨s₀, hs₀, hcalls⟩ := unbind h
  exact foldlM_keeps (fun s s' call _ hs hnext => hstep s s' call hs hnext) (hcreate s₀ hs₀) hcalls

theorem create_eq (h : Impl.create d = some s) :
    ∃ wcg tune, parseWcgMods d.hw d.wcg = some wcg ∧ parseTune d [] = some tune ∧
      s = { layers := (List.range d.hw.getLayerNum).map fun i => { layerIndex := i }, wcg, tune } := by
  obtain ⟨wcg, hwcg, h⟩ := unbind h
  obtain ⟨tune, htune, h⟩ := unbind h
  exact ⟨wcg, tune, hwcg, htune, (Option.some.inj h).symm⟩

variable {i : Nat} {layer : Layer}

theorem create_layer (h : Impl.create d = some s) (hlayer : s.layers[i]? = some layer) :
    layer = { layerIndex := i } := by
  obtain ⟨wcg, tune, -, -, rfl⟩ := create_eq h
  rw [List.getElem?_map, map_eq_some_iff] at hlayer
  obtain ⟨j, hj, rfl⟩ := hlayer
  obtain ⟨-, rfl⟩ := List.getElem?_eq_some_iff.mp hj
  rw [List.getElem_range]

theorem regular_run (h : run p d calls = some s) (hlayer : s.layers[i]? = some layer) : layer.Regular i := by
  refine run_keeps (P := fun s => ∀ (i : Nat) layer, s.layers[i]? = some layer → layer.Regular i) ?_ ?_ h i layer hlayer
  · intro s hs i layer hlayer
    rw [create_layer hs hlayer]
    exact ⟨rfl, .inl rfl, Lists.Resolves.empty⟩
  · intro s s' call hs hnext i layer' hlayer'
    obtain ⟨layer, hlayer, hstep⟩ := step_layersStep hnext i layer' hlayer'
    exact hstep.regular (hs i layer hlayer)

end

end ExynosHal.Hdr
