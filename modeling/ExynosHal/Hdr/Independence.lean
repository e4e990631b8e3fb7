import ExynosHal.Hdr.Reload
import ExynosHal.Hdr.Sound
import ExynosHal.Hdr.LastWins
import ExynosHal.Hdr.WcgTables
import ExynosHal.Hdr.Updates
import ExynosHal.Hdr.SkipRebuild

/-! # Parcels and the past

Two runs that agree in the target, the settings and the overrides, but not in what came before.
-/

namespace ExynosHal.Hdr
open Library.Run
open Option (bind_eq_bind bind_eq_some_iff isSome_iff_exists map_eq_some_iff)

structure SameSettings (s s' : Impl) : Prop where
  target : s'.target = s.target
  hasHdrLayer : s'.hasHdrLayer = s.hasHdrLayer
  tuneMode : s'.tuneMode = s.tuneMode
  logLevel : s'.logLevel = s.logLevel
  sourceLuminance : s'.sourceLuminance = s.sourceLuminance
  command : s'.targetLuminance.command = s.targetLuminance.command

def Impl.showLayer (p : Platform) (d : Documents) (s : Impl) (hwId : HdrHwId) (l : Nat) (info : LayerInfo) :
    Option (HdrErr × Option (List Word)) := do
  let s ← s.initHdrCoefBuildup hwId
  let (s, _) ← s.setLayerInfo p d l info
  let (_, err, parcel) ← s.getHdrCoefData hwId l
  some (err, parcel)

def Impl.pluginLuminance (p : Platform) (s : Impl) : U32 :=
  match s.hasHdrLayer, p.metaIf, s.target with
  | true, some metaIf, some target => (metaIf.getTargetLuminance target.hdrCapa s.targetLuminance.default).getD 0
  | _, _, _ => 0

def SameDocument (d : Documents) (target target' : TargetInfo) : LayerHdrType → Prop
  | .none => True
  | .hdr10 => hdr10Doc d target' = hdr10Doc d target
  | .hdr10p => hdr10pDoc d target' = hdr10pDoc d target
  | .hlg => hlgDoc d target' = hlgDoc d target

def HwDoc.Filled (hw : HwDoc) : Prop :=
  ∀ layer name, ∀ sub ∈ hw.subModule? layer name, sub.regNum.toNat ≤ sub.packedRegs

def DatNode.Written (n : DatNode) : Prop := ∀ data ∈ n.data, ∀ w ∈ data, w.isSome

section
variable {hw : HwDoc}

theorem HwDoc.Filled.packNew (h : hw.Filled) {layer : Int} {name : String} {lut : List U32} {n : DatNode}
    (hpacked : hw.packNew layer name lut = some n) : n.Written := by
  rcases packNew_known hpacked with rfl | ⟨sub, hsub, hlut⟩
  · nofun
  · obtain ⟨hhdr, -, hwords, -⟩ := packNew_spec hsub hlut hpacked
    have halloc : n.Allocated := by
      obtain ⟨⟨ret, packed⟩, hpack, heq⟩ := unbind hpacked
      cases heq
      exact DatNode.Allocated.new.pack hpack
    intro data hdata w hw
    obtain ⟨i, hi, rfl⟩ := List.mem_iff_getElem.mp hw
    have hlen : data.length = n.header.length.toNat % 2 ^ 30 := by
      unfold DatNode.Allocated at halloc
      rw [hdata] at halloc
      exact halloc
    have hfilled := h layer name sub hsub
    have hword : (n.word i).isSome := by
      rw [hwords]
      rw [hhdr] at hlen
      have hle := Nat.mod_le sub.regNum.toNat (2 ^ 30)
      simp only at hlen
      omega
    rw [DatNode.word, hdata] at hword
    simpa [List.getElem?_eq_getElem hi] using hword

theorem isSome_orWord {a b : Word} (ha : a.isSome) (hb : b.isSome) : (DatNode.orWord a b).isSome := by
  obtain ⟨a, rfl⟩ := isSome_iff_exists.mp ha
  obtain ⟨b, rfl⟩ := isSome_iff_exists.mp hb
  rfl

theorem DatNode.Written.merge {a b c : DatNode} (ha : a.Written) (hb : b.Written) (h : a.merge b = some c) :
    c.Written := by
  unfold DatNode.merge at h
  split at h
  · split at h
    · cases h
      exact ha
    · rename_i data hdata
      obtain ⟨opData, hopData, h⟩ := unbind h
      obtain ⟨-, h⟩ := Option.ite_none_right_eq_some.mp h
      cases h
      rintro _ ⟨⟩ w hw
      obtain ⟨i, hi, rfl⟩ := List.mem_iff_getElem.mp hw
      rw [List.getElem_zipWith]
      exact isSome_orWord (ha data hdata _ (List.getElem_mem _)) (hb opData hopData _ (List.getElem_mem _))
  · cases h
    exact ha

theorem carried_written (h : hw.Filled) : Carried hw fun _ => DatNode.Written where
  packed _ _ _ _ _ hpacked := h.packNew hpacked
  merged _ _ _ _ ha hb hmerged := ha.merge hb hmerged

theorem yields_written (h : hw.Filled) (doc : LutDoc) : doc.Yields hw fun _ => DatNode.Written :=
  fun _ _ _ _ _ _ _ _ hpacked => h.packNew hpacked

theorem parseWcgMods_written (h : hw.Filled) {elements : List WcgElement} {table : WcgTable}
    (hinit : parseWcgMods hw elements = some table) : table.EachFor fun _ => DatNode.Written := by
  intro layer module key n hmodule hn
  obtain ⟨m, -, hfilled⟩ := filledBy_of_lookup hinit hmodule
  rw [hfilled.lookup] at hn
  obtain ⟨e, -, hn⟩ := unbind hn
  obtain ⟨other, -, hpacked⟩ := unbind hn
  exact h.packNew hpacked

theorem written_run {p : Platform} {d : Documents} {calls : List Call} {s : Impl} (hfilled : d.hw.Filled)
    (h : run p d calls = some s) : s.EachFor fun _ => DatNode.Written := by
  refine run_keeps (P := fun s => s.EachFor fun _ => DatNode.Written) ?_ ?_ h
  · intro s hs
    exact each_create (fun table htable => parseWcgMods_written hfilled htable) (yields_written hfilled _) hs
  · intro s s' call hs hnext
    exact each_step (carried_written hfilled) (yields_written hfilled _) hs
      (loadsYielding_of_forall (yields_written hfilled)) hnext

theorem isSome_writeNodes {nodes : List DatNode} {written parcel : List Word} (hwritten : ∀ w ∈ written, w.isSome)
    (hnodes : ∀ n ∈ nodes, n.Written) (h : writeNodes written nodes = some parcel) : ∀ w ∈ parcel, w.isSome := by
  refine foldlM_keeps (P := fun written : List Word => ∀ w ∈ written, w.isSome) ?_ hwritten h
  intro written next n hn hwritten hnext
  obtain ⟨words, hwords, hnext⟩ := unbind hnext
  obtain ⟨-, hnext⟩ := Option.ite_none_right_eq_some.mp hnext
  cases hnext
  obtain ⟨data, hdata, hwords⟩ := unbind hwords
  obtain ⟨-, hwords⟩ := Option.ite_none_right_eq_some.mp hwords
  cases hwords
  intro w hw
  simp only [List.mem_append, List.mem_cons, List.not_mem_nil, or_false] at hw
  rcases hw with hw | (rfl | rfl | rfl) | hw
  · exact hwritten w hw
  · rfl
  · rfl
  · rfl
  · exact hnodes n hn data hdata w hw

end

structure InStep (s : Impl) : Prop where
  logLevel : ∀ (i : Nat) layer, s.layers[i]? = some layer → layer.logLevel = s.logLevel
  default : s.targetLuminance.default =
    (s.target.map fun target => if target.maxLuminance = 0 then 500 else target.maxLuminance).getD 0

section
variable {p : Platform} {d : Documents} {s s' : Impl}

theorem InStep.map (hs : InStep s) {f : Layer → Layer} (hlayers : s'.layers = s.layers.map f)
    (hf : ∀ layer, (f layer).logLevel = layer.logLevel) (hlogLvl : s'.logLevel = s.logLevel) (i : Nat) (layer' : Layer)
    (hlayer' : s'.layers[i]? = some layer') : layer'.logLevel = s'.logLevel := by
  obtain ⟨layer, hlayer, rfl⟩ := getElem?_layers_map hlayers hlayer'
  rw [hf, hs.logLevel i layer hlayer, hlogLvl]

theorem InStep.set (hs : InStep s) {l : Nat} {layer : Layer} (new : Layer) (hlayer : s.layers[l]? = some layer)
    (hnew : new.logLevel = layer.logLevel) (hlayers : s'.layers = s.layers.set l new)
    (hsame : s'.logLevel = s.logLevel ∧ s'.target = s.target ∧ s'.targetLuminance = s.targetLuminance) : InStep s' := by
  obtain ⟨hlogLvl, htarget, hlum⟩ := hsame
  refine ⟨fun i layer' hlayer' => ?_, ?_⟩
  · rw [hlogLvl]
    rcases getElem?_layers_set hlayers hlayer' with ⟨rfl, rfl⟩ | ⟨-, hother⟩
    · rw [hnew, hs.logLevel l layer hlayer]
    · exact hs.logLevel i layer' hother
  · rw [htarget, hlum]
    exact hs.default

theorem setLogLevel_default (s : Impl) (logLevel : Int) :
    (s.setLogLevel logLevel).targetLuminance.default = s.targetLuminance.default := by
  simp only [Impl.setLogLevel]
  split
  · rfl
  split
  · rfl
  split
  · rfl
  split <;> rfl

theorem setHDRlayer_default {hasHdr : Bool} (h : s.setHDRlayer p hasHdr = some s') :
    s'.targetLuminance.default = s.targetLuminance.default := by
  unfold Impl.setHDRlayer at h
  split at h
  · obtain ⟨target, -, h⟩ := unbind h
    cases h
    rfl
  · cases h
    rfl

theorem InStep.step {call : Call} (hs : InStep s) (h : step p d s call = some s') : InStep s' := by
  cases call with
  | setTargetInfo target =>
    have hafter : s'.layers = s.layers.map (fun layer => { layer with targetChanged := true }) ∧
        s'.logLevel = s.logLevel ∧ s'.target = some target ∧
        s'.targetLuminance.default = if target.maxLuminance = 0 then 500 else target.maxLuminance := by
      rcases setTargetInfo_cases h with ⟨-, rfl⟩ | ⟨-, _, _, _, -, -, -, rfl⟩
      all_goals exact ⟨rfl, rfl, rfl, rfl⟩
    obtain ⟨hlayers, hlogLvl, htarget, hdefault⟩ := hafter
    refine ⟨hs.map hlayers (fun _ => rfl) hlogLvl, ?_⟩
    rw [htarget]
    exact hdefault
  | setHDRlayer hasHdr =>
    have hdefault := setHDRlayer_default h
    obtain ⟨luminance, rfl⟩ := setHDRlayer_eq h
    exact ⟨hs.logLevel, hdefault.trans hs.default⟩
  | setLogLevel logLevel =>
    cases h
    have hdefault := setLogLevel_default s logLevel
    obtain ⟨_, _, _, _, logLevel', heq⟩ := setLogLevel_eq s logLevel
    rw [heq] at hdefault ⊢
    refine ⟨fun i layer' hlayer' => ?_, hdefault.trans hs.default⟩
    obtain ⟨layer, -, rfl⟩ := getElem?_layers_map (s := s) rfl hlayer'
    rfl
  | initHdrCoefBuildup hwId =>
    rcases initHdrCoefBuildup_cases h with rfl | rfl | rfl
    · exact hs
    · exact ⟨hs.logLevel, hs.default⟩
    · exact ⟨hs.map rfl (fun _ => rfl) rfl, hs.default⟩
  | setLayerInfo l info =>
    obtain ⟨⟨s', err⟩, hcall, rfl⟩ := map_eq_some_iff.mp h
    rcases setLayerInfo_cases hcall with
      ⟨-, rfl⟩ | ⟨layer, -, hfound, ⟨-, rfl⟩ | ⟨-, ⟨reloaded, built, state, -, hreload, hbuilt, rfl⟩ | ⟨built, state,
        hbuilt, rfl⟩⟩⟩
    · exact hs
    · exact hs.set { layer.transfer with state := .buildUpReady } (layer?_eq hfound).2 rfl rfl ⟨rfl, rfl, rfl⟩
    · obtain ⟨tune, tuneReload, rfl, -⟩ := reloadTune_eq hreload
      obtain ⟨active, source, lists, heq⟩ := (Requeued.tune hbuilt).frame
      refine hs.set { built.1 with state } (layer?_eq hfound).2 ?_ rfl ⟨rfl, rfl, rfl⟩
      rw [heq]
      rfl
    · obtain ⟨active, source, lists, heq⟩ := (Requeued.coefBuildup hbuilt).frame
      refine hs.set { built.1 with state } (layer?_eq hfound).2 ?_ rfl ⟨rfl, rfl, rfl⟩
      rw [heq]
      rfl
  | getHdrCoefData hwId l =>
    obtain ⟨result, hcall, rfl⟩ := map_eq_some_iff.mp h
    rcases getHdrCoefData_cases hcall with rfl | ⟨layer, cleaned, parcel, hlayer, hfetched, rfl⟩
    · exact hs
    · refine hs.set cleaned hlayer ?_ rfl ⟨rfl, rfl, rfl⟩
      rw [fetched_eq hfetched]

theorem inStep_run {calls : List Call} (h : run p d calls = some s) : InStep s := by
  refine run_keeps (P := InStep) ?_ ?_ h
  · intro s hs
    refine ⟨fun i layer hlayer => ?_, ?_⟩
    · rw [create_layer hs hlayer]
      obtain ⟨wcg, tune, -, -, rfl⟩ := create_eq hs
      rfl
    · obtain ⟨wcg, tune, -, -, rfl⟩ := create_eq hs
      rfl
  · intro s s' call hs hnext
    exact hs.step hnext

end

section
variable {p : Platform} {d : Documents} {layer : Layer} (active : Bool) (dynMeta : DynMeta) (source : U32)

theorem queue_past (layer : Layer) (nodes : List DatNode) :
    ({ layer with dynMeta, sourceLuminance := source } : Layer).queue p nodes =
      (layer.queue p nodes).map fun built => { built with dynMeta, sourceLuminance := source } := by
  simp only [Layer.queue]
  cases layer.lists.queueAll nodes <;> rfl

theorem wcgCoefBuildup_past (table : WcgTable) (target : TargetInfo) :
    wcgCoefBuildup p table target { layer with active, dynMeta, sourceLuminance := source } =
      (wcgCoefBuildup p table target layer).map fun built => { built with dynMeta, sourceLuminance := source } := by
  simp only [wcgCoefBuildup]
  cases ((table.lookup (layer.layerIndex : Int)).getD {}).coefNodes p target layer.dataspace with
  | none => rfl
  | some result => exact queue_past dynMeta source { layer with active := result.1 } result.2

theorem queue_sourced (layer : Layer) (nodes : List DatNode) :
    (({ layer with dynMeta, sourceLuminance := source } : Layer).queue p nodes).bind (fun built => some (built, true)) =
      ((({ layer with sourceLuminance := source } : Layer).queue p nodes).bind fun built => some (built, true)).map
        fun built => ({ built.1 with dynMeta }, built.2) := by
  simp only [Layer.queue]
  cases layer.lists.queueAll nodes <;> rfl

theorem hdr10CoefBuildup_past (ov : U32) (table : LutTable) :
    hdr10CoefBuildup p d ov table { layer with dynMeta, sourceLuminance := source } =
      (hdr10CoefBuildup p d ov table layer).map fun built => ({ built.1 with dynMeta }, built.2) := by
  have hnodes : hdr10Nodes p d table { layer with dynMeta, sourceLuminance := source } (hdr10SourceLuminance ov layer) =
      hdr10Nodes p d table layer (hdr10SourceLuminance ov layer) := rfl
  show (hdr10Nodes p d table { layer with dynMeta, sourceLuminance := source } (hdr10SourceLuminance ov layer)).bind _ =
    _
  rw [hnodes, hdr10CoefBuildup]
  cases hdr10Nodes p d table layer (hdr10SourceLuminance ov layer) with
  | none => rfl
  | some nodes => exact queue_sourced dynMeta _ layer nodes

variable (table : LutTable)

theorem hlgCoefBuildup_past : hlgCoefBuildup p d table { layer with dynMeta, sourceLuminance := source } =
      (hlgCoefBuildup p d table layer).map fun built => ({ built.1 with dynMeta }, built.2) := by
  simp only [hlgCoefBuildup]
  split
  · rename_i first rest htable
    have hnodes : hlgNodes p d { layer with dynMeta, sourceLuminance := source } first = hlgNodes p d layer first := rfl
    rw [hnodes]
    cases hlgNodes p d layer first with
    | none => rfl
    | some nodes => exact queue_sourced dynMeta _ layer nodes
  · rfl

theorem tuneCoefBuildup_past : tuneCoefBuildup p table { layer with dynMeta, sourceLuminance := source } =
      (tuneCoefBuildup p table layer).map fun built =>
        ({ built.1 with dynMeta, sourceLuminance := source }, built.2) := by
  simp only [tuneCoefBuildup]
  split
  · rename_i first rest htable
    have hqueue := queue_past (p := p) dynMeta source layer first.coefPacked
    rw [hqueue]
    cases layer.queue p first.coefPacked <;> rfl
  · rfl

def Layer.Alike (a b : Layer) : Prop := ∃ dynMeta sourceLuminance, b = { a with dynMeta, sourceLuminance }

theorem coefBuildup_past {s : Impl} {hdrType : LayerHdrType} (hdyn : hdrType = .hdr10p → dynMeta = layer.dynMeta)
    {built built' : Layer × Bool} (h : s.coefBuildup p d hdrType layer = some built)
    (h' : s.coefBuildup p d hdrType { layer with active, dynMeta, sourceLuminance := source } = some built') :
    built.1.Alike built'.1 ∧ built'.2 = built.2 := by
  obtain ⟨target, based, htarget, hbased, h⟩ := coefBuildup_eq h
  obtain ⟨target', based', htarget', hbased', h'⟩ := coefBuildup_eq h'
  rw [htarget] at htarget'
  cases htarget'
  rw [wcgCoefBuildup_past, hbased, Option.map_some] at hbased'
  cases hbased'
  cases hdrType with
  | none =>
    cases h
    cases h'
    exact ⟨⟨dynMeta, source, rfl⟩, rfl⟩
  | hdr10 =>
    have heq : _ = some built' := (hdr10CoefBuildup_past dynMeta source s.sourceLuminance s.hdr10).symm.trans h'
    rw [show hdr10CoefBuildup p d s.sourceLuminance s.hdr10 based = some built from h] at heq
    cases heq
    exact ⟨⟨dynMeta, _, rfl⟩, rfl⟩
  | hdr10p =>
    have hkept : based.dynMeta = layer.dynMeta := by
      obtain ⟨lumActive, lum, lists, rfl⟩ := (Requeued.wcg hbased).frame
      rfl
    rw [hdyn rfl, ← hkept] at h'
    have heq : s.formatBuildup p d .hdr10p { based with dynMeta := based.dynMeta, sourceLuminance := source } =
        s.formatBuildup p d .hdr10p based := rfl
    rw [heq, h] at h'
    cases h'
    exact ⟨⟨_, _, rfl⟩, rfl⟩
  | hlg =>
    have heq : _ = some built' := (hlgCoefBuildup_past dynMeta source s.hlg).symm.trans h'
    rw [show hlgCoefBuildup p d s.hlg based = some built from h] at heq
    cases heq
    exact ⟨⟨dynMeta, _, rfl⟩, rfl⟩

theorem Layer.Alike.getHdrCoefData {a b : Layer} (h : a.Alike b) :
    b.getHdrCoefData.map Prod.snd = a.getHdrCoefData.map Prod.snd := by
  obtain ⟨dynMeta, source, rfl⟩ := h
  simp only [Layer.getHdrCoefData]
  have hhdr : ∀ total shall need,
      coefHeader { a with dynMeta, sourceLuminance := source, lists := a.lists.cleanDuplicate }
      total shall need = coefHeader { a with lists := a.lists.cleanDuplicate } total shall need := fun _ _ _ => rfl
  split
  · simp only [hhdr, Option.map_bind, bind_eq_bind]
    rfl
  · rfl

end

section
variable {p : Platform} {d : Documents} {s : Impl} {hwId : HdrHwId} {l : Nat} {info : LayerInfo}

def Impl.reloadedTune (d : Documents) (s : Impl) : Option LutTable :=
  if s.tuneReload then parseTune d s.tune else some s.tune

theorem reloadTune_reloadedTune {reloaded : Impl} (h : s.reloadTune d = some reloaded) :
    s.reloadedTune d = some reloaded.tune ∧ reloaded.state = s.state ∧ reloaded.layers = s.layers := by
  unfold Impl.reloadTune at h
  rw [Impl.reloadedTune]
  split at h
  · rename_i hreload
    obtain ⟨tune, htune, h⟩ := unbind h
    cases h
    rw [if_pos hreload]
    exact ⟨htune, rfl, rfl⟩
  · rename_i hkept
    cases h
    rw [if_neg hkept]
    exact ⟨rfl, rfl, rfl⟩

def Impl.rebuiltLayer (p : Platform) (d : Documents) (s : Impl) (info : LayerInfo) (layer : Layer) :
    Option (Layer × Bool) :=
  let saved := ({ layer with state := .init } : Layer).save p s.targetLuminance (Impl.refined p info)
  if getHdrType info ≠ .none ∧ s.tuneMode = true then
    (s.reloadedTune d).bind fun tune => tuneCoefBuildup p tune saved
  else s.coefBuildup p d (getHdrType info) saved

def shownOf (built : Layer × Bool) : Option (HdrErr × Option (List Word)) :=
  if built.2 then (built.1.getHdrCoefData.map Prod.snd).map fun parcel => (.no, parcel) else some (.inval, none)

theorem getHdrCoefData_finishLayer (hready : s.state = .buildUpReady) (hl : l < s.layers.length)
    (built : Layer × Bool) : ((s.finishLayer l built).1.getHdrCoefData .dpu l).map Prod.snd = shownOf built := by
  obtain ⟨built, ok⟩ := built
  cases ok with
  | false =>
    simp [Impl.finishLayer, Impl.getHdrCoefData, Impl.setLayer, hready, Impl.layer?, hl, shownOf]
  | true =>
    have halike : built.getHdrCoefData.map Prod.snd =
        ({ built with state := .buildUpReady } : Layer).getHdrCoefData.map Prod.snd := by
      simp only [Layer.getHdrCoefData]
      split
      · simp only [Option.map_bind, bind_eq_bind]
        rfl
      · rfl
    simp only [Impl.finishLayer, Impl.getHdrCoefData, Impl.setLayer, hready, Impl.layer?, List.getElem?_set_self hl,
      shownOf, halike, if_true, bind_eq_bind, Option.bind_some]
    cases ({ built with state := .buildUpReady } : Layer).getHdrCoefData <;> rfl

theorem initHdrCoefBuildup_ready {t : Impl} {layer : Layer} (ht : s.initHdrCoefBuildup hwId = some t)
    (hready : t.state = .buildUpReady) (hlayer : t.layer? t.hwId l = some layer) :
    hwId = .dpu ∧ t = { s with
      state := .buildUpReady
      hwId := .dpu
      layers := s.layers.map fun layer => { layer with state := .init } } := by
  unfold Impl.initHdrCoefBuildup at ht
  split at ht
  · rename_i hobj
    cases ht
    rw [hobj] at hready
    cases hready
  all_goals
    split at ht
    · cases ht
      exact ⟨rfl, rfl⟩
    · cases ht
      cases hlayer
    · cases ht

theorem showLayer_rebuilt {r : HdrErr × Option (List Word)} (h : s.showLayer p d hwId l info = some r)
    (hrebuilds : ∀ t ∈ s.initHdrCoefBuildup hwId, rebuilds p t l info) :
    ∃ layer built, s.layers[l]? = some layer ∧ s.rebuiltLayer p d info layer = some built ∧ shownOf built = some r := by
  obtain ⟨t, ht, h⟩ := unbind h
  obtain ⟨⟨u, err⟩, hu, h⟩ := unbind h
  obtain ⟨⟨v, result⟩, hv, h⟩ := unbind h
  cases h
  have hpath := hrebuilds t ht
  simp only [rebuilds, decide_eq_true_eq] at hpath
  obtain ⟨hready, hany⟩ := hpath
  obtain ⟨layer, hlayer, hchanged⟩ : ∃ layer, t.layer? t.hwId l = some layer ∧
      layer.changed p (Impl.refined p info) := by
    cases hlayer : t.layer? t.hwId l with
    | none =>
      rw [hlayer] at hany
      cases hany
    | some layer =>
      rw [hlayer] at hany
      exact ⟨layer, rfl, hany⟩
  obtain ⟨rfl, rfl⟩ := initHdrCoefBuildup_ready ht hready hlayer
  obtain ⟨layer, hold, rfl⟩ := getElem?_layers_map (s := s) rfl (layer?_eq hlayer).2
  have hl : l < (s.layers.map fun layer => ({ layer with state := .init } : Layer)).length := by
    rw [List.length_map]
    exact (List.getElem?_eq_some_iff.mp hold).1
  refine ⟨layer, ?_⟩
  simp only [Impl.setLayerInfo, hlayer, bind_eq_bind, Option.bind_some, if_pos hchanged, Impl.rebuild] at hu
  split at hu
  · rename_i htune
    obtain ⟨reloaded, hreloaded, hu⟩ := unbind hu
    obtain ⟨built, hbuilt, hu⟩ := unbind hu
    obtain ⟨hreloadedTune, hstate, hlayers⟩ := reloadTune_reloadedTune hreloaded
    refine ⟨built, hold, ?_, ?_⟩
    · rw [Impl.rebuiltLayer, if_pos htune]
      exact bind_eq_some_iff.mpr ⟨reloaded.tune, hreloadedTune, hbuilt⟩
    · rw [← getHdrCoefData_finishLayer hstate (by rw [hlayers]; exact hl), Option.some.inj hu, hv]
      rfl
  · rename_i htune
    obtain ⟨built, hbuilt, hu⟩ := unbind hu
    refine ⟨built, hold, ?_, ?_⟩
    · rw [Impl.rebuiltLayer, if_neg htune]
      exact hbuilt
    · rw [← getHdrCoefData_finishLayer hready hl, Option.some.inj hu, hv]
      rfl

end

structure PastForgotten (p : Platform) (d : Documents) (calls calls' : List Call) (s s' : Impl) (l : Nat)
    (info : LayerInfo) : Prop where
  filled : d.hw.Filled
  document : s.tuneMode = false → ∀ first ∈ firstTarget calls, ∀ first' ∈ firstTarget calls',
    SameDocument d first first' (getHdrType info)
  dynamic : getHdrType info = .hdr10p → s.tuneMode = false → info.dynamicLen = p.sizeofDynamicInfo
  active : getHdrType info ≠ .none → s.tuneMode →
    ∀ layer ∈ s.layers[l]?, ∀ layer' ∈ s'.layers[l]?, layer'.active = layer.active
  plugin : getHdrType info ≠ .none → gamutOf info.dataspace = 6 → s.targetLuminance.command = 0 →
    s.targetLuminance.interface = s.pluginLuminance p ∧ s'.targetLuminance.interface = s'.pluginLuminance p

section
variable {p : Platform} {d : Documents} {calls calls' : List Call} {s s' : Impl} {hwId : HdrHwId} {l : Nat}
  {info : LayerInfo}

theorem refined_of_hdr (htype : getHdrType info ≠ .none) : Impl.refined p info = info := by
  rcases refineTransfer_cases p.osVersion info.dataspace with hsame | ⟨hsdr, -⟩
  · rw [Impl.refined, hsame]
  · exact absurd ((getHdrType_none_iff info).mpr hsdr) htype

theorem setTargetLuminance_eq (hstep : InStep s) (hstep' : InStep s') (hsame : SameSettings s s')
    (hplugin : getHdrType info ≠ .none → gamutOf info.dataspace = 6 → s.targetLuminance.command = 0 →
      s.targetLuminance.interface = s.pluginLuminance p ∧ s'.targetLuminance.interface = s'.pluginLuminance p) :
    Layer.setTargetLuminance s'.targetLuminance (Impl.refined p info) =
      Layer.setTargetLuminance s.targetLuminance (Impl.refined p info) := by
  have hdefault : s'.targetLuminance.default = s.targetLuminance.default := by
    rw [hstep.default, hstep'.default, hsame.target]
  have hlum : s'.pluginLuminance p = s.pluginLuminance p := by
    rw [Impl.pluginLuminance, Impl.pluginLuminance, hsame.hasHdrLayer, hsame.target, hdefault]
  simp only [Layer.setTargetLuminance, hsame.command, hdefault, getHdrType_refined]
  split
  · rfl
  · rename_i hcmd
    by_cases htype : getHdrType info = .none
    · rw [if_neg (fun h => h.2.1 htype), if_neg (fun h => h.2.1 htype)]
    · rw [refined_of_hdr htype]
      by_cases hgamut : gamutOf info.dataspace = 6
      · obtain ⟨hfresh, hfresh'⟩ := hplugin htype hgamut (not_not.mp hcmd)
        rw [hfresh, hfresh', hlum]
      · rw [if_neg (fun h => hgamut h.2.2), if_neg (fun h => hgamut h.2.2)]

variable {layer layer' : Layer}

theorem save_past {luminance luminance' : TargetLuminance}
    (hidx : layer'.layerIndex = layer.layerIndex) (hlogLvl : layer'.logLevel = layer.logLevel)
    (htarget : Layer.setTargetLuminance luminance' info = Layer.setTargetLuminance luminance info) :
    ({ layer' with state := .init } : Layer).save p luminance' info =
      { ({ layer with state := .init } : Layer).save p luminance info with
          active := layer'.active
          dynMeta := Layer.dynamicMeta p (Layer.setTargetLuminance luminance info) info layer'.dynMeta
          sourceLuminance := layer'.sourceLuminance } := by
  simp only [Layer.save, hidx, hlogLvl, htarget]

theorem ready_of_rebuilds {t : Impl} (ht : s.initHdrCoefBuildup hwId = some t) (hrebuilds : rebuilds p t l info) :
    s.state ≠ .objReady := by
  intro hobj
  simp only [Impl.initHdrCoefBuildup, hobj] at ht
  cases ht
  simp [rebuilds, hobj] at hrebuilds

theorem loaded_some (hrun : run p d calls = some s) (hready : s.state ≠ .objReady) :
    ∃ first ∈ firstTarget calls, parseHdr10 p d first [] = some s.hdr10 ∧ parseHdr10p p d first [] = some s.hdr10p ∧
      parseHlg d first [] = some s.hlg := by
  have hloaded := loaded_run hrun
  cases hfst : firstTarget calls with
  | none =>
    rw [hfst] at hloaded
    exact absurd hloaded.1 hready
  | some first =>
    rw [hfst] at hloaded
    exact ⟨first, rfl, hloaded.2⟩

theorem coefBuildup_sameDocument (hrun : run p d calls = some s) (hrun' : run p d calls' = some s')
    (hready : s.state ≠ .objReady) (hready' : s'.state ≠ .objReady) (hsame : SameSettings s s') {hdrType : LayerHdrType}
    (hdocument : ∀ first ∈ firstTarget calls, ∀ first' ∈ firstTarget calls', SameDocument d first first' hdrType)
    (layer : Layer) : s'.coefBuildup p d hdrType layer = s.coefBuildup p d hdrType layer := by
  obtain ⟨first, hfst, h10, h10p, hhlg⟩ := loaded_some hrun hready
  obtain ⟨first', hfst', h10', h10p', hhlg'⟩ := loaded_some hrun' hready'
  have hdoc := hdocument first hfst first' hfst'
  have hwcg : s'.wcg = s.wcg := Option.some.inj ((wcg_run hrun').symm.trans (wcg_run hrun))
  have hfmt : ∀ based, s'.formatBuildup p d hdrType based = s.formatBuildup p d hdrType based := by
    intro based
    cases hdrType with
    | none => rfl
    | hdr10 =>
      have htable : s'.hdr10 = s.hdr10 := by
        rw [parseHdr10, show hdr10Doc d first' = hdr10Doc d first from hdoc] at h10'
        exact Option.some.inj (h10'.symm.trans h10)
      simp only [Impl.formatBuildup, htable, hsame.sourceLuminance]
    | hdr10p =>
      have htable : s'.hdr10p = s.hdr10p := by
        rw [parseHdr10p, show hdr10pDoc d first' = hdr10pDoc d first from hdoc] at h10p'
        exact Option.some.inj (h10p'.symm.trans h10p)
      simp only [Impl.formatBuildup, htable]
    | hlg =>
      have htable : s'.hlg = s.hlg := by
        rw [parseHlg, show hlgDoc d first' = hlgDoc d first from hdoc] at hhlg'
        exact Option.some.inj (hhlg'.symm.trans hhlg)
      simp only [Impl.formatBuildup, htable]
  simp only [Impl.coefBuildup, hsame.target, hwcg, hfmt]

theorem reloadedTune_lookup (hrun : run p d calls = some s) {table : LutTable} (h : s.reloadedTune d = some table)
    (layer : Int) : table.lookup layer = tuned d.hw d.tune.modules layer := by
  have htune := tune_run hrun layer
  unfold Impl.reloadedTune at h
  split at h
  · rw [parseMods_assign_lookup h layer, htune, Option.or_self]
  · cases h
    exact htune

theorem tuneCoefBuildup_congr {table table' : LutTable}
    (h : table'.lookup (layer.layerIndex : Int) = table.lookup (layer.layerIndex : Int)) :
    tuneCoefBuildup p table' layer = tuneCoefBuildup p table layer := by
  simp only [tuneCoefBuildup, h]

theorem dynamicMeta_replaced (htype : getHdrType info = .hdr10p) (hlen : info.dynamicLen = p.sizeofDynamicInfo)
    (luminance : U32) (old old' : DynMeta) :
    Layer.dynamicMeta p luminance info old' = Layer.dynamicMeta p luminance info old := by
  have hgiven : info.dynamicMetadata.isSome := by
    by_contra hnone
    simp only [getHdrType, if_neg hnone] at htype
    split at htype
    · cases htype
    · split at htype <;> cases htype
  obtain ⟨given, hgiven⟩ := isSome_iff_exists.mp hgiven
  simp only [Layer.dynamicMeta, hgiven, if_pos hlen]

theorem rebuiltLayer_alike (hrun : run p d calls = some s) (hrun' : run p d calls' = some s')
    (hready : s.state ≠ .objReady)
    (hready' : s'.state ≠ .objReady) (hsame : SameSettings s s') (hpast : PastForgotten p d calls calls' s s' l info)
      (hlayer : s.layers[l]? = some layer) (hlayer' : s'.layers[l]? = some layer')
    {built built' : Layer × Bool} (hbuilt : s.rebuiltLayer p d info layer = some built)
    (hbuilt' : s'.rebuiltLayer p d info layer' = some built') : built.1.Alike built'.1 ∧ built'.2 = built.2 := by
  have hidx : layer'.layerIndex = layer.layerIndex := by
    rw [(regular_run hrun hlayer).index, (regular_run hrun' hlayer').index]
  have hlogLvl : layer'.logLevel = layer.logLevel := by
    rw [(inStep_run hrun).logLevel l layer hlayer, (inStep_run hrun').logLevel l layer' hlayer', hsame.logLevel]
  have htarget := setTargetLuminance_eq (inStep_run hrun) (inStep_run hrun') hsame hpast.plugin
  simp only [Impl.rebuiltLayer] at hbuilt hbuilt'
  rw [save_past hidx hlogLvl htarget, hsame.tuneMode] at hbuilt'
  by_cases htune : getHdrType info ≠ .none ∧ s.tuneMode
  · rw [if_pos htune] at hbuilt hbuilt'
    obtain ⟨table, htable, hbuilt⟩ := unbind hbuilt
    obtain ⟨table', htable', hbuilt'⟩ := unbind hbuilt'
    have hact := hpast.active htune.1 htune.2 layer hlayer layer' hlayer'
    have htables : ∀ index, table'.lookup index = table.lookup index := by
      intro index
      rw [reloadedTune_lookup hrun htable, reloadedTune_lookup hrun' htable']
    rw [tuneCoefBuildup_congr (htables _), hact] at hbuilt'
    generalize hsaved : ({ layer with state := .init } : Layer).save p s.targetLuminance (Impl.refined p info) = saved
      at hbuilt hbuilt'
    have hact : saved.active = layer.active := by rw [← hsaved]; rfl
    rw [← hact] at hbuilt'
    have heq : _ = some built' := (tuneCoefBuildup_past _ layer'.sourceLuminance table).symm.trans hbuilt'
    rw [hbuilt] at heq
    cases heq
    exact ⟨⟨_, _, rfl⟩, rfl⟩
  · rw [if_neg htune] at hbuilt hbuilt'
    have hdocument : ∀ first ∈ firstTarget calls, ∀ first' ∈ firstTarget calls',
        SameDocument d first first' (getHdrType info) := by
      cases hmode : s.tuneMode with
      | false => exact hpast.document hmode
      | true =>
        have htype : getHdrType info = .none := by
          by_contra htype
          exact htune ⟨htype, hmode⟩
        rw [htype]
        exact fun _ _ _ _ => trivial
    rw [coefBuildup_sameDocument hrun hrun' hready hready' hsame hdocument] at hbuilt'
    refine coefBuildup_past _ _ _ (fun htype => ?_) hbuilt hbuilt'
    have hnot : getHdrType info ≠ .none := by rw [htype]; nofun
    have hmode : s.tuneMode = false := by
      rw [← Bool.not_eq_true]
      exact fun hmode => htune ⟨hnot, hmode⟩
    rw [refined_of_hdr hnot]
    exact dynamicMeta_replaced htype (hpast.dynamic htype hmode) _ _ _

variable {built : Layer × Bool}

theorem written_rebuiltLayer (hfilled : d.hw.Filled) (hrun : run p d calls = some s)
    (h : s.rebuiltLayer p d info layer = some built) : built.1.lists.Each DatNode.Written := by
  have hcarried := carried_written hfilled
  have heach := written_run hfilled hrun
  simp only [Impl.rebuiltLayer] at h
  split at h
  · obtain ⟨table, htable, h⟩ := unbind h
    have hread : table.EachFor fun _ => DatNode.Written := by
      unfold Impl.reloadedTune at htable
      split at htable
      · exact parseTune_each (yields_written hfilled _) heach.tune htable
      · cases htable
        exact heach.tune
    exact tuneCoefBuildup_each hcarried _ hread (Lists.Each.empty _) h
  · exact coefBuildup_each hcarried _ heach (Lists.Each.empty _) h

theorem isSome_shownOf (hwritten : built.1.lists.Each DatNode.Written) {err : HdrErr}
    {parcel : List Word} (h : shownOf built = some (err, some parcel)) : ∀ w ∈ parcel, w.isSome := by
  unfold shownOf at h
  split at h
  · obtain ⟨written, hfetched, h⟩ := map_eq_some_iff.mp h
    cases h
    obtain ⟨⟨fetched, written⟩, hfetched, rfl⟩ := map_eq_some_iff.mp hfetched
    simp only [Layer.getHdrCoefData] at hfetched
    split at hfetched
    · obtain ⟨words, hwords, hfetched⟩ := unbind hfetched
      cases hfetched
      refine isSome_writeNodes ?_ (fun n hn => hwritten.cleanDuplicate.nodes hn) hwords
      intro w hw
      simp only [coefHeader, List.mem_cons, List.not_mem_nil, or_false] at hw
      rcases hw with rfl | rfl | rfl | rfl
      all_goals rfl
    · cases hfetched
  · cases h

end

/-- Two runs over the same documents, after which the caller's choices are the same and nothing else of the past is in
force, show a layer that both rebuild in the same parcel, all of whose words are determined. -/
theorem showLayer_forgets {p : Platform} {d : Documents} {calls calls' : List Call} {s s' : Impl} {hwId : HdrHwId}
    {l : Nat} {info : LayerInfo} {r r' : HdrErr × Option (List Word)} (hrun : run p d calls = some s)
    (hrun' : run p d calls' = some s') (hsame : SameSettings s s')
    (hpast : PastForgotten p d calls calls' s s' l info)
    (hrebuilds : ∀ t ∈ s.initHdrCoefBuildup hwId, rebuilds p t l info)
    (hrebuilds' : ∀ t ∈ s'.initHdrCoefBuildup hwId, rebuilds p t l info)
    (hshown : s.showLayer p d hwId l info = some r) (hshown' : s'.showLayer p d hwId l info = some r') :
    r' = r ∧ ∀ parcel ∈ r.2, ∀ w ∈ parcel, w.isSome := by
  obtain ⟨t, ht, -⟩ := unbind hshown
  obtain ⟨t', ht', -⟩ := unbind hshown'
  obtain ⟨layer, built, hlayer, hbuilt, hr⟩ := showLayer_rebuilt hshown hrebuilds
  obtain ⟨layer', built', hlayer', hbuilt', hr'⟩ := showLayer_rebuilt hshown' hrebuilds'
  obtain ⟨halike, hok⟩ := rebuiltLayer_alike hrun hrun' (ready_of_rebuilds ht (hrebuilds t ht))
    (ready_of_rebuilds ht' (hrebuilds' t' ht')) hsame hpast hlayer hlayer' hbuilt hbuilt'
  constructor
  · have hequal : shownOf built' = shownOf built := by rw [shownOf, shownOf, hok, halike.getHdrCoefData]
    rw [hr, hr'] at hequal
    exact Option.some.inj hequal
  · obtain ⟨err, parcel⟩ := r
    rintro parcel rfl
    exact isSome_shownOf (written_rebuiltLayer hpast.filled hrun hbuilt) hr

def twoDisplays : Documents where
  hw := [⟨[0], [("curve", { numNodes := 1, numNodesPerReg := 1, bitOffsets := [0], masks := [0xFFFF], regNum := 1 })]⟩]
  hlgInfo := [⟨.inner, 0, 0, "inner"⟩, ⟨.outer, 0, 0, "outer"⟩]
  hlgFile := fun name => some [⟨[0], [⟨0, [("curve", [if name = "inner" then 1 else 2])]⟩]⟩]

def displayTarget (hdrCapa : HdrCapa) : TargetInfo := ⟨0x00810000, 0, 500, .bpc8, hdrCapa⟩

theorem twoDisplays_filled : twoDisplays.hw.Filled := by
  intro layer name sub hsub
  obtain ⟨m, hm, hsub⟩ := unbind hsub
  rw [List.mem_singleton.mp (List.mem_of_find?_eq_some hm)] at hsub
  have hsub : sub = _ := congrArg Prod.snd (List.mem_singleton.mp (mem_of_lookup_table hsub))
  rw [hsub]
  decide

theorem showLayer_forgets_sameDisplay : ∃ s s' r,
    run plainPlatform twoDisplays [.setTargetInfo (displayTarget .outer)] = some s ∧
    run plainPlatform twoDisplays [.setTargetInfo (displayTarget .outer), .initHdrCoefBuildup .dpu,
      .setLayerInfo 0 bt2020Info, .getHdrCoefData .dpu 0, .setTargetInfo (displayTarget .outer)] = some s' ∧
    s.showLayer plainPlatform twoDisplays .dpu 0 bt2020Hlg = some r ∧
    s'.showLayer plainPlatform twoDisplays .dpu 0 bt2020Hlg = some r ∧ ∃ parcel ∈ r.2, ∀ w ∈ parcel, w.isSome := by
  have hrun : run plainPlatform twoDisplays [.setTargetInfo (displayTarget .outer)] = some _ := rfl
  have hrun' : run plainPlatform twoDisplays [.setTargetInfo (displayTarget .outer), .initHdrCoefBuildup .dpu,
      .setLayerInfo 0 bt2020Info, .getHdrCoefData .dpu 0, .setTargetInfo (displayTarget .outer)] = some _ := rfl
  obtain ⟨hequal, hwords⟩ :=
    @showLayer_forgets _ _ _ _ _ _ .dpu 0 bt2020Hlg _ _ hrun hrun' ⟨rfl, rfl, rfl, rfl, rfl, rfl⟩
    ⟨twoDisplays_filled, fun _ _ hfst _ hfst' => by cases hfst; cases hfst'; rfl, nofun, fun _ => nofun,
      fun _ _ _ => ⟨rfl, rfl⟩⟩
    (by rintro _ ⟨⟩; rfl) (by rintro _ ⟨⟩; rfl) rfl rfl
  exact ⟨_, _, _, hrun, hrun', rfl, rfl, _, rfl, hwords _ rfl⟩

theorem not_showLayer_forgets_otherDisplay :
    ¬∀ (p : Platform) (d : Documents) (calls calls' : List Call) (s s' : Impl) (hwId : HdrHwId) (l : Nat)
      (info : LayerInfo) (r r' : HdrErr × Option (List Word)), run p d calls = some s → run p d calls' = some s' →
      SameSettings s s' → (∀ t ∈ s.initHdrCoefBuildup hwId, rebuilds p t l info) →
      (∀ t ∈ s'.initHdrCoefBuildup hwId, rebuilds p t l info) → s.showLayer p d hwId l info = some r →
      s'.showLayer p d hwId l info = some r' → r' = r := by
  intro h
  have hequal := h plainPlatform twoDisplays
    [.setTargetInfo (displayTarget .inner), .setTargetInfo (displayTarget .outer)]
      [.setTargetInfo (displayTarget .outer)]
    _ _ .dpu 0 bt2020Hlg _ _ rfl rfl ⟨rfl, rfl, rfl, rfl, rfl, rfl⟩ (by rintro _ ⟨⟩; rfl) (by rintro _ ⟨⟩; rfl) rfl rfl
  exact absurd hequal (by decide)

end ExynosHal.Hdr
