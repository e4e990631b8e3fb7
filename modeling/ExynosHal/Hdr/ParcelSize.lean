import ExynosHal.Hdr.Parcel
import ExynosHal.Hdr.LastWins
import ExynosHal.Hdr.WcgTables

/-! # The size of the parcels

`getHdrCoefSize` counts every submodule of a layer once and doubles the largest sum.
-/

namespace ExynosHal.Hdr
open Library.Run
open List (filterMap_nil map_replicate mem_dedup mem_of_find?_eq_some mem_singleton)
open DatNode (registers)

def SubModule.coefSize (sub : SubModule) : Option U32 :=
  if sub.numNodesPerReg = 0 then none
  else
    let regs := sub.numNodes.tdiv sub.numNodesPerReg + 1
    if regs < 2 ^ 31 then some (12 + 4 * BitVec.ofInt 32 regs) else none

def HwModule.members (m : HwModule) : List SubModule :=
  (m.subModules.map Prod.fst).dedup.filterMap fun name => m.subModules.lookup name

def HwModule.coefSize (m : HwModule) : Option Int := do
  let sizes ← m.members.mapM SubModule.coefSize
  some (sizes.foldl (· + ·) 16).toInt

namespace HwDoc

def module? (hw : HwDoc) (layer : Int) : Option HwModule := hw.find? fun m => decide (layer ∈ m.ids)

def layerModules (hw : HwDoc) : List HwModule := (hw.flatMap HwModule.ids).dedup.filterMap hw.module?

def getHdrCoefSize (hw : HwDoc) : Option Int := do
  let sizes ← hw.layerModules.mapM HwModule.coefSize
  let coefSize := sizes.foldl max (-1)
  if coefSize * 2 < 2 ^ 31 then some (coefSize * 2) else none

structure WellFormed (hw : HwDoc) : Prop where
  numNodes : ∀ layer name, ∀ sub ∈ hw.subModule? layer name, 1 ≤ sub.numNodes
  perReg : ∀ layer name, ∀ sub ∈ hw.subModule? layer name, 1 ≤ sub.numNodesPerReg
  regNum : ∀ layer name, ∀ sub ∈ hw.subModule? layer name, sub.regNum.toNat = sub.regs
  group : ∀ layer name other, ∀ sub ∈ hw.subModule? layer name, ∀ sub' ∈ hw.subModule? layer other,
    0 ≤ sub.groupId → sub.groupId = sub'.groupId → sub.regOffset = sub'.regOffset ∧ sub.regNum = sub'.regNum

end HwDoc

def ParcelsFit (d : Documents) (s : Impl) : Prop :=
  ∀ hwId l s' err parcel, s.getHdrCoefData hwId l = some (s', err, some parcel) →
    ∃ size, d.hw.getHdrCoefSize = some size ∧ ((4 * parcel.length : Nat) : Int) ≤ size

def HwModule.bytes (m : HwModule) : Nat := (m.members.map fun sub => 12 + 4 * (sub.numNodes.toNat / sub.perReg + 1)).sum

/-- The advertised size is an `int`. -/
def HwDoc.SizeFits (hw : HwDoc) : Prop := ∀ m ∈ hw.layerModules, (16 + m.bytes) * 2 < 2 ^ 31

def OwnRegisters (hw : HwDoc) (m : WcgElement) (layer : Int) : Prop := ∀ e ∈ m.entries, ∀ earlier sub,
    (m.layers.takeWhile (· ≠ layer)).find? (fun other => hw.hasSubMod other e.subModName) = some earlier →
    hw.subModule? earlier e.subModName = some sub →
    ∃ name own, hw.subModule? layer name = some own ∧ own.registers = sub.registers

def twiceAtMost (p : Platform) (s : Impl) : Call → Bool
  | .setLayerInfo l info =>
    s.state ≠ .buildUpReady ∨ (s.layer? s.hwId l).all fun layer =>
      layer.changed p (Impl.refined p info) ∨ layer.lists.shallNodes.all fun n =>
        (layer.lists.shallNodes.map registers).count n.registers ≤ 2
  | _ => true

section
variable {hw : HwDoc} {m : HwModule} {layer : Int}

theorem HwDoc.subModule?_eq (h : hw.module? layer = some m) (name : String) :
    hw.subModule? layer name = m.subModules.lookup name := by
  rw [module?] at h
  rw [subModule?, h]
  rfl

variable {sub : SubModule}

theorem HwModule.mem_members : sub ∈ m.members ↔ ∃ name, m.subModules.lookup name = some sub := by
  simp only [members, List.mem_filterMap, mem_dedup]
  constructor
  · rintro ⟨name, -, hsub⟩
    exact ⟨name, hsub⟩
  · rintro ⟨name, hsub⟩
    exact ⟨name, List.mem_map_of_mem (mem_of_lookup_table hsub), hsub⟩

theorem HwDoc.mem_layerModules : m ∈ hw.layerModules ↔ ∃ layer, hw.module? layer = some m := by
  simp only [layerModules, List.mem_filterMap, mem_dedup]
  constructor
  · rintro ⟨layer, -, hm⟩
    exact ⟨layer, hm⟩
  · rintro ⟨layer, hm⟩
    have hlisted : layer ∈ m.ids := by simpa using List.find?_some hm
    exact ⟨layer, List.mem_flatMap.mpr ⟨m, mem_of_find?_eq_some hm, hlisted⟩, hm⟩

theorem HwDoc.WellFormed.member (h : hw.WellFormed) (hm : m ∈ hw.layerModules)
    (hsub : sub ∈ m.members) : 1 ≤ sub.numNodes ∧ 1 ≤ sub.numNodesPerReg ∧ sub.regNum.toNat = sub.regs := by
  obtain ⟨layer, hlayer⟩ := mem_layerModules.mp hm
  obtain ⟨name, hname⟩ := HwModule.mem_members.mp hsub
  have hfound : sub ∈ hw.subModule? layer name := by
    rw [subModule?_eq hlayer, hname]
    rfl
  exact ⟨h.numNodes layer name sub hfound, h.perReg layer name sub hfound, h.regNum layer name sub hfound⟩

theorem SubModule.coefSize_eq (hnodes : 1 ≤ sub.numNodes) (hper : 1 ≤ sub.numNodesPerReg)
    (hfits : 12 + 4 * (sub.numNodes.toNat / sub.perReg + 1) < 2 ^ 31) :
    ∃ size : U32, sub.coefSize = some size ∧ size.toNat = 12 + 4 * (sub.numNodes.toNat / sub.perReg + 1) := by
  have hdiv : sub.numNodes.tdiv sub.numNodesPerReg = ((sub.numNodes.toNat / sub.perReg : Nat) : Int) := by
    rw [Int.tdiv_eq_ediv_of_nonneg (by omega), perReg, Int.natCast_ediv, Int.toNat_of_nonneg (by omega),
      Int.toNat_of_nonneg (by omega)]
  generalize sub.numNodes.toNat / sub.perReg = regs at hdiv hfits
  refine ⟨12 + 4 * BitVec.ofInt 32 (regs + 1), ?_, ?_⟩
  · rw [coefSize, if_neg (by omega), hdiv]
    exact if_pos (by omega)
  · have hregs : (BitVec.ofInt 32 (regs + 1)).toNat = regs + 1 := by
      rw [BitVec.toNat_ofInt]
      omega
    have hwords : (12 : U32).toNat = 12 ∧ (4 : U32).toNat = 4 := ⟨rfl, rfl⟩
    rw [BitVec.toNat_add, BitVec.toNat_mul, hregs, hwords.1, hwords.2]
    omega

theorem mapM_coefSize {subs : List SubModule} (hsubs : ∀ sub ∈ subs, 1 ≤ sub.numNodes ∧ 1 ≤ sub.numNodesPerReg)
    (start : U32)
    (hfits : start.toNat + (subs.map fun sub => 12 + 4 * (sub.numNodes.toNat / sub.perReg + 1)).sum < 2 ^ 31) :
    ∃ sizes, subs.mapM SubModule.coefSize = some sizes ∧ (sizes.foldl (· + ·) start).toNat =
      start.toNat + (subs.map fun sub => 12 + 4 * (sub.numNodes.toNat / sub.perReg + 1)).sum := by
  induction subs generalizing start with
  | nil => exact ⟨[], rfl, rfl⟩
  | cons sub subs ih =>
    obtain ⟨⟨hnodes, hper⟩, hrest⟩ := List.forall_mem_cons.mp hsubs
    rw [List.map_cons, List.sum_cons] at hfits ⊢
    obtain ⟨size, hsize, htoNat⟩ := SubModule.coefSize_eq hnodes hper (by omega)
    have hnext : (start + size).toNat = start.toNat + (12 + 4 * (sub.numNodes.toNat / sub.perReg + 1)) := by
      rw [BitVec.toNat_add, htoNat]
      omega
    obtain ⟨sizes, hsizes, hsum⟩ := ih hrest (start + size) (by omega)
    refine ⟨size :: sizes, ?_, ?_⟩
    · rw [List.mapM_cons, hsize, hsizes]
      rfl
    · rw [List.foldl_cons, hsum, hnext]
      omega

theorem HwModule.coefSize_eq (hsubs : ∀ sub ∈ m.members, 1 ≤ sub.numNodes ∧ 1 ≤ sub.numNodesPerReg)
    (hfits : (16 + m.bytes) * 2 < 2 ^ 31) : m.coefSize = some ((16 + m.bytes : Nat) : Int) := by
  obtain ⟨sizes, hsizes, hsum⟩ := mapM_coefSize hsubs 16 (show 16 + m.bytes < 2 ^ 31 by omega)
  have htoNat : (sizes.foldl (· + ·) (16 : U32)).toNat = 16 + m.bytes := hsum
  rw [coefSize, hsizes]
  simp only [Option.bind_eq_bind, Option.bind_some]
  rw [BitVec.toInt_eq_toNat_of_lt (by omega), htoNat]

theorem HwDoc.WellFormed.getHdrCoefSize (h : hw.WellFormed) (hfits : hw.SizeFits) :
    ∃ size, hw.getHdrCoefSize = some size ∧ ∀ m ∈ hw.layerModules, (((16 + m.bytes) * 2 : Nat) : Int) ≤ size := by
  have hsizes : hw.layerModules.mapM HwModule.coefSize =
      some (hw.layerModules.map fun m => ((16 + m.bytes : Nat) : Int)) := by
    refine mapM_eq_some_map fun m hm => HwModule.coefSize_eq (fun sub hsub => ?_) (hfits m hm)
    obtain ⟨hnodes, hper, -⟩ := h.member hm hsub
    exact ⟨hnodes, hper⟩
  have hmax : (-1 :: hw.layerModules.map fun m => ((16 + m.bytes : Nat) : Int)).max? = some _ := List.max?_cons'
  obtain ⟨hmem, hle⟩ := List.max?_eq_some_iff.mp hmax
  generalize hcoefSize : (hw.layerModules.map fun m => ((16 + m.bytes : Nat) : Int)).foldl max (-1) =
    coefSize at hmem hle
  have hlt : coefSize * 2 < 2 ^ 31 := by
    rcases List.mem_cons.mp hmem with hnone | hmem
    · omega
    · obtain ⟨m, hm, heq⟩ := List.mem_map.mp hmem
      have hm := hfits m hm
      omega
  refine ⟨coefSize * 2, ?_, fun m hm => ?_⟩
  · rw [HwDoc.getHdrCoefSize, hsizes]
    simp only [Option.bind_eq_bind, Option.bind_some, hcoefSize]
    exact if_pos hlt
  · have hm := hle _ (List.mem_cons_of_mem _ (List.mem_map_of_mem hm))
    push_cast at hm ⊢
    omega

end

def HwDoc.Own (hw : HwDoc) (layer : Int) (n : DatNode) : Prop :=
  n.data = none ∨ ∃ name sub, hw.subModule? layer name = some sub ∧ n.registers = sub.registers

section
variable {hw : HwDoc} {name : String}

theorem HwDoc.own_of_packNew {lut : List U32} {n : DatNode} (h : hw.packNew layer name lut = some n) :
    n.data = none ∨ ∃ sub, hw.subModule? layer name = some sub ∧ n.registers = sub.registers := by
  rcases packNew_known h with rfl | ⟨sub, hsub, hlut⟩
  · exact .inl rfl
  · obtain ⟨hhdr, hgroupId, -⟩ := packNew_spec hsub hlut h
    exact .inr ⟨sub, hsub, by rw [registers, hhdr, hgroupId]; rfl⟩

theorem DatNode.merge_registers {a b c : DatNode} (h : a.merge b = some c) :
    c.registers = a.registers ∧ (a.data = none → c.data = none) := by
  unfold merge at h
  split at h
  · split at h
    · cases h
      exact ⟨rfl, id⟩
    · rename_i data hdata
      obtain ⟨opData, -, h⟩ := unbind h
      obtain ⟨-, h⟩ := Option.ite_none_right_eq_some.mp h
      cases h
      refine ⟨rfl, fun hnone => ?_⟩
      rw [hdata] at hnone
      cases hnone
  · cases h
    exact ⟨rfl, id⟩

theorem carried_own : Carried hw hw.Own where
  packed layer name lut n _ hpacked := by
    rcases HwDoc.own_of_packNew hpacked with hnone | ⟨sub, hsub, heq⟩
    · exact .inl hnone
    · exact .inr ⟨name, sub, hsub, heq⟩
  merged layer a b c ha _ hmerged := by
    obtain ⟨hregs, hdata⟩ := DatNode.merge_registers hmerged
    rcases ha with hnone | ⟨name, sub, hsub, heq⟩
    · exact .inl (hdata hnone)
    · exact .inr ⟨name, sub, hsub, hregs.trans heq⟩

theorem yields_own (doc : LutDoc) : doc.Yields hw hw.Own := by
  intro m _ node _ v _ _ n hpacked
  rcases HwDoc.own_of_packNew hpacked with hnone | ⟨sub, hsub, heq⟩
  · exact .inl hnone
  · exact .inr ⟨v.1, sub, hsub, heq⟩

theorem parseWcgMods_own {elements : List WcgElement} {table : WcgTable} (hinit : parseWcgMods hw elements = some table)
    (hown : ∀ m layer, FirstListed elements m layer → OwnRegisters hw m layer) : table.EachFor hw.Own := by
  intro layer module key n hmodule hn
  obtain ⟨m, hlisted, hfilled⟩ := filledBy_of_lookup hinit hmodule
  rw [hfilled.lookup] at hn
  obtain ⟨e, hfst, hn⟩ := unbind hn
  obtain ⟨other, hother, hpacked⟩ := unbind hn
  rcases HwDoc.own_of_packNew hpacked with hnone | ⟨sub, hsub, heq⟩
  · exact .inl hnone
  · rw [List.find?_append] at hother
    rcases Option.or_eq_some_iff.mp hother with hearlier | ⟨-, hlast⟩
    · obtain ⟨name, own, hname, hregs⟩ :=
        hown m layer hlisted e (mem_of_find?_eq_some hfst) other sub hearlier hsub
      exact .inr ⟨name, own, hname, heq.trans hregs.symm⟩
    · rw [mem_singleton.mp (mem_of_find?_eq_some hlast)] at hsub
      exact .inr ⟨e.subModName, sub, hsub, heq⟩

end

section
variable {nodes : List DatNode} {written parcel : List Word}

def AtMost (copies : Nat) (nodes : List DatNode) : Prop :=
  ∀ n ∈ nodes, (nodes.map registers).count n.registers ≤ copies

theorem AtMost.byteCount_le {copies : Nat} (subs : List SubModule) (h : AtMost copies nodes)
    (hown : ∀ n ∈ nodes, ∃ sub ∈ subs, n.registers = sub.registers) :
    byteCount nodes ≤ copies * (subs.map fun sub => 12 + 4 * sub.regNum.toNat).sum := by
  let weight (registers : U32 × U32 × Int) : Nat := 12 + 4 * registers.2.1.toNat
  have hsub : (nodes.map registers).Subperm (List.replicate copies (subs.map SubModule.registers)).flatten := by
    rw [List.subperm_ext_iff]
    intro registers hmem
    obtain ⟨n, hn, rfl⟩ := List.mem_map.mp hmem
    obtain ⟨sub, hsub, heq⟩ := hown n hn
    have hone : 1 ≤ (subs.map SubModule.registers).count n.registers := by
      rw [heq]
      exact List.one_le_count_iff.mpr (List.mem_map_of_mem hsub)
    rw [List.count_flatten, map_replicate, List.sum_replicate, smul_eq_mul]
    exact (h n hn).trans (Nat.le_mul_of_pos_right copies hone)
  obtain ⟨part, hperm, hpart⟩ := hsub
  calc byteCount nodes = ((nodes.map registers).map weight).sum := by rw [List.map_map]; rfl
    _ = (part.map weight).sum := (hperm.map weight).sum_eq.symm
    _ ≤ ((List.replicate copies (subs.map SubModule.registers)).flatten.map weight).sum :=
      (hpart.map weight).sum_le_sum fun _ _ => Nat.zero_le _
    _ = copies * (subs.map fun sub => 12 + 4 * sub.regNum.toNat).sum := by
      rw [List.map_flatten, map_replicate, List.sum_flatten, map_replicate, List.sum_replicate, smul_eq_mul,
        List.map_map]
      rfl

theorem DatNode.length_serialize {n : DatNode} {words : List Word} (h : n.serialize = some words) :
    4 * words.length ≤ 12 + 4 * n.header.length.toNat ∧ n.data ≠ none := by
  obtain ⟨data, hdata, h⟩ := unbind h
  obtain ⟨hsize, h⟩ := Option.ite_none_right_eq_some.mp h
  cases h
  refine ⟨?_, by rw [hdata]; nofun⟩
  have hwords : (12 : U32).toNat = 12 ∧ (4 : U32).toNat = 4 := ⟨rfl, rfl⟩
  simp only [DatNode.size, BitVec.toNat_add, BitVec.toNat_mul, hwords] at hsize
  simp only [List.length_append, List.length_cons, List.length_nil]
  omega

theorem length_writeNodes (h : writeNodes written nodes = some parcel) :
    4 * parcel.length ≤ 4 * written.length + byteCount nodes ∧ ∀ n ∈ nodes, n.data ≠ none := by
  induction nodes generalizing written with
  | nil =>
    cases h
    exact ⟨Nat.le_add_right _ _, nofun⟩
  | cons n nodes ih =>
    rw [writeNodes, List.foldlM_cons] at h
    obtain ⟨next, hnext, h⟩ := unbind h
    obtain ⟨words, hwords, hnext⟩ := unbind hnext
    obtain ⟨-, hnext⟩ := Option.ite_none_right_eq_some.mp hnext
    cases hnext
    obtain ⟨hlen, hdata⟩ := DatNode.length_serialize hwords
    obtain ⟨hrest, hrestData⟩ := ih h
    rw [List.length_append] at hrest
    rw [byteCount_cons]
    exact ⟨by omega, List.forall_mem_cons.mpr ⟨hdata, hrestData⟩⟩

theorem atMost_cleanDuplicate (lists : Lists) : AtMost 1 lists.cleanDuplicate.shallNodes := by
  have hnodup : (lists.cleanDuplicate.shallNodes.map registers).Nodup := by
    have heq : lists.cleanDuplicate.shallNodes.map registers =
        (lists.cleanDuplicate.shall.map lists.registers).filterMap id := by
      rw [Lists.shallNodes, List.map_filterMap, List.filterMap_map]
      rfl
    rw [heq]
    refine (Lists.registers_nodup lists).filterMap ?_
    intro a b registers ha hb
    exact ha.trans hb.symm
  exact fun n _ => List.nodup_iff_count_le_one.mp hnodup n.registers

end

section
variable {p : Platform} {d : Documents} {s s' : Impl}

inductive NeedStep (p : Platform) (s : Impl) (call : Call) (i : Nat) (layer layer' : Layer) : Prop where
  | kept (h : layer'.lists.needNodes = layer.lists.needNodes)
  | emptied (h : layer'.lists.need = [])
  | moved (info : LayerInfo) (hcall : call = .setLayerInfo i info) (hready : s.state = .buildUpReady)
      (hfound : s.layer? s.hwId i = some layer) (hsame : layer.changed p (Impl.refined p info) = false)
      (h : layer'.lists = layer.lists.transfer)

theorem step_need {call : Call} (h : step p d s call = some s') (i : Nat) {layer' : Layer}
    (hlayer' : s'.layers[i]? = some layer') :
    ∃ layer, s.layers[i]? = some layer ∧ NeedStep p s call i layer layer' := by
  have hmap : ∀ f : Layer → Layer, (∀ layer, (f layer).lists = layer.lists) → s'.layers = s.layers.map f →
      ∃ layer, s.layers[i]? = some layer ∧ NeedStep p s call i layer layer' := by
    intro f hf hlayers
    obtain ⟨layer, hlayer, rfl⟩ := getElem?_layers_map hlayers hlayer'
    exact ⟨layer, hlayer, .kept (by rw [hf])⟩
  have hsame : s'.layers = s.layers → ∃ layer, s.layers[i]? = some layer ∧ NeedStep p s call i layer layer' :=
    fun hlayers => hmap id (fun _ => rfl) (by rw [hlayers, List.map_id])
  cases call with
  | setTargetInfo target =>
    refine hmap (fun layer => { layer with targetChanged := true }) (fun _ => rfl) ?_
    rcases setTargetInfo_cases h with ⟨-, rfl⟩ | ⟨-, _, _, _, -, -, -, rfl⟩
    all_goals rfl
  | setHDRlayer hasHdr =>
    obtain ⟨luminance, rfl⟩ := setHDRlayer_eq h
    exact hsame rfl
  | setLogLevel logLevel =>
    cases h
    obtain ⟨_, _, _, _, logLevel', heq⟩ := setLogLevel_eq s logLevel
    exact hmap (fun layer => { layer with logLevel := logLevel' }) (fun _ => rfl) (by rw [heq])
  | initHdrCoefBuildup hwId =>
    rcases initHdrCoefBuildup_cases h with rfl | rfl | rfl
    · exact hsame rfl
    · exact hsame rfl
    · exact hmap (fun layer => { layer with state := .init }) (fun _ => rfl) rfl
  | setLayerInfo l info =>
    obtain ⟨⟨s', err⟩, hcall, rfl⟩ := Option.map_eq_some_iff.mp h
    rcases setLayerInfo_cases hcall with ⟨-, rfl⟩ | ⟨layer, hready, hfound, ⟨hskip, rfl⟩ | ⟨-, hrebuilt⟩⟩
    · exact hsame rfl
    · rcases getElem?_layers_set (s := s) rfl hlayer' with ⟨rfl, rfl⟩ | ⟨-, hother⟩
      · exact ⟨layer, (layer?_eq hfound).2, .moved info rfl hready hfound hskip rfl⟩
      · exact ⟨layer', hother, .kept rfl⟩
    · obtain ⟨built, -, hneed, hlayers⟩ := setLayerInfo_rebuilt hrebuilt
      rcases getElem?_layers_set hlayers hlayer' with ⟨rfl, rfl⟩ | ⟨-, hother⟩
      · exact ⟨layer, (layer?_eq hfound).2, .emptied hneed⟩
      · exact ⟨layer', hother, .kept rfl⟩
  | getHdrCoefData hwId l =>
    obtain ⟨result, hcall, rfl⟩ := Option.map_eq_some_iff.mp h
    rcases getHdrCoefData_cases hcall with rfl | ⟨layer, cleaned, parcel, hlayer, hfetched, rfl⟩
    · exact hsame rfl
    · rcases getElem?_layers_set (s := s) rfl hlayer' with ⟨rfl, rfl⟩ | ⟨-, hother⟩
      · refine ⟨layer, hlayer, .kept ?_⟩
        rw [fetched_eq hfetched]
        rfl
      · exact ⟨layer', hother, .kept rfl⟩

def NeedsTwice (s : Impl) : Prop :=
  ∀ (i : Nat) layer, s.layers[i]? = some layer → layer.Regular i ∧ AtMost 2 layer.lists.needNodes

theorem NeedsTwice.step {call : Call} (hs : NeedsTwice s) (hcall : twiceAtMost p s call)
    (h : step p d s call = some s') : NeedsTwice s' := by
  intro i layer' hlayer'
  constructor
  · obtain ⟨layer, hlayer, hstep⟩ := step_layersStep h i layer' hlayer'
    exact hstep.regular (hs i layer hlayer).1
  · obtain ⟨layer, hlayer, hstep⟩ := step_need h i hlayer'
    cases hstep with
    | kept hneed =>
      rw [hneed]
      exact (hs i layer hlayer).2
    | emptied hneed =>
      rw [Lists.needNodes, hneed]
      nofun
    | moved info hcallEq hready hfound hsame hlists =>
      subst hcallEq
      have hmoved : layer'.lists.needNodes = layer.lists.needNodes ++ layer.lists.shallNodes := by
        rw [hlists]
        exact List.filterMap_append
      rw [hmoved]
      rcases (hs i layer hlayer).1.exclusive with hshall | hneed
      · rw [Lists.shallNodes, hshall, filterMap_nil, List.append_nil]
        exact (hs i layer hlayer).2
      · rw [Lists.needNodes, hneed, filterMap_nil, List.nil_append]
        simpa [twiceAtMost, hready, hfound, hsame, AtMost] using hcall

theorem own_run {calls : List Call} (hown : ∀ m layer, FirstListed d.wcg m layer → OwnRegisters d.hw m layer)
    (h : run p d calls = some s) : s.EachFor d.hw.Own := by
  refine run_keeps (P := fun s => s.EachFor d.hw.Own) ?_ ?_ h
  · intro s hs
    exact each_create (fun table htable => parseWcgMods_own htable hown) (yields_own _) hs
  · intro s s' call hs hnext
    exact each_step carried_own (yields_own _) hs (loadsYielding_of_forall yields_own) hnext

theorem layerModules_of_layer {calls : List Call} (h : run p d calls = some s) {l : Nat} {layer : Layer}
    (hlayer : s.layers[l]? = some layer) : ∃ m, m ∈ d.hw.layerModules := by
  refine run_keeps (P := fun s => ∀ (i : Nat) layer, s.layers[i]? = some layer → ∃ m, m ∈ d.hw.layerModules) ?_ ?_ h l
    layer
    hlayer
  · intro s hs i layer hlayer
    obtain ⟨wcg, tune, -, -, rfl⟩ := create_eq hs
    have hidx := (List.getElem?_eq_some_iff.mp hlayer).1
    rw [List.length_map, List.length_range, HwDoc.getLayerNum] at hidx
    obtain ⟨layer, hlisted⟩ := List.exists_mem_of_length_pos (Nat.zero_lt_of_lt hidx)
    obtain ⟨m, hm, hid⟩ := List.mem_flatMap.mp (mem_dedup.mp hlisted)
    obtain ⟨first, hfst⟩ : ∃ first, d.hw.module? layer = some first := by
      rw [← Option.isSome_iff_exists, HwDoc.module?, List.find?_isSome]
      exact ⟨m, hm, by simpa using hid⟩
    exact ⟨first, HwDoc.mem_layerModules.mpr ⟨layer, hfst⟩⟩
  · intro s s' call hs hnext i layer' hlayer'
    obtain ⟨layer, hlayer, -⟩ := step_layersStep hnext i layer' hlayer'
    exact hs i layer hlayer

theorem sum_regNum_le (hwf : d.hw.WellFormed) {m : HwModule} (hm : m ∈ d.hw.layerModules) :
    (m.members.map fun sub => 12 + 4 * sub.regNum.toNat).sum ≤ m.bytes := by
  refine List.sum_le_sum fun sub hsub => ?_
  obtain ⟨-, hper, hregNum⟩ := hwf.member hm hsub
  have hround := SubModule.div_round_up (k := sub.perReg) (by unfold SubModule.perReg; omega) sub.numNodes.toNat
  rw [hregNum, SubModule.regs, hround]
  split <;> omega

theorem length_parcel_le (hwf : d.hw.WellFormed) {l : Nat} {layer layer' : Layer} {parcel : List Word}
    (hregular : layer.Regular l) (hneed : AtMost 2 layer.lists.needNodes) (heach : layer.lists.Each (d.hw.Own l))
    (h : layer.getHdrCoefData = some (layer', some parcel)) :
    4 * parcel.length ≤ 16 ∨ ∃ m ∈ d.hw.layerModules, 4 * parcel.length ≤ 16 + 2 * m.bytes := by
  unfold Layer.getHdrCoefData at h
  dsimp only at h
  split at h
  · obtain ⟨written, hwritten, h⟩ := unbind h
    cases h
    obtain ⟨hlen, hdata⟩ := length_writeNodes hwritten
    have hnodes : ∀ n ∈ layer.lists.cleanDuplicate.shallNodes ++ layer.lists.cleanDuplicate.needNodes,
        ∃ name sub, d.hw.subModule? l name = some sub ∧ n.registers = sub.registers :=
      fun n hn => (heach.cleanDuplicate.nodes hn).resolve_left (hdata n hn)
    have htwice : AtMost 2 (layer.lists.cleanDuplicate.shallNodes ++ layer.lists.cleanDuplicate.needNodes) := by
      rcases hregular.exclusive with hshall | hempty
      · have hnone : layer.lists.cleanDuplicate.shallNodes = [] := by
          simp only [Lists.shallNodes, Lists.cleanDuplicate, hshall, List.pwFilter_nil, filterMap_nil]
        rw [hnone, List.nil_append]
        exact hneed
      · have hnone : layer.lists.cleanDuplicate.needNodes = [] := by
          simp only [Lists.needNodes, Lists.cleanDuplicate, hempty, filterMap_nil]
        rw [hnone, List.append_nil]
        exact fun n hn => (atMost_cleanDuplicate layer.lists n hn).trans (by decide)
    generalize layer.lists.cleanDuplicate.shallNodes ++ layer.lists.cleanDuplicate.needNodes =
      nodes at hlen hnodes htwice
    cases hm : d.hw.module? l with
    | none =>
      -- The layer has no module, so it can hold no node.
      have hempty : nodes = [] := by
        refine List.eq_nil_iff_forall_not_mem.mpr fun n hn => ?_
        obtain ⟨name, sub, hsub, -⟩ := hnodes n hn
        rw [HwDoc.module?] at hm
        rw [HwDoc.subModule?, hm] at hsub
        cases hsub
      rw [hempty] at hlen
      exact .inl hlen
    | some m =>
      have hmem := HwDoc.mem_layerModules.mpr ⟨_, hm⟩
      refine .inr ⟨m, hmem, ?_⟩
      have hbytes := htwice.byteCount_le m.members fun n hn => by
        obtain ⟨name, sub, hsub, heq⟩ := hnodes n hn
        rw [HwDoc.subModule?_eq hm] at hsub
        exact ⟨sub, HwModule.mem_members.mpr ⟨name, hsub⟩, heq⟩
      have hsum := sum_regNum_le hwf hmem
      refine hlen.trans ?_
      simp only [coefHeader, List.length_cons, List.length_nil]
      omega
  · cases h

end

/-- In every run in which a layer is found unchanged only while it has no register more than twice to update, the
parcels fit, given that the size is an `int` and no layer takes over registers that it does not have. -/
theorem parcelsFit_run {p : Platform} {d : Documents} {calls : List Call} {s : Impl} (hwf : d.hw.WellFormed)
    (hsize : d.hw.SizeFits) (hown : ∀ m layer, FirstListed d.wcg m layer → OwnRegisters d.hw m layer)
    (hrun : run p d calls = some s)
    (htwice : ∀ s₀ ∈ Impl.create d, EachDefinedStep (step p d) (fun s call => twiceAtMost p s call) s₀ calls) :
    ParcelsFit d s := by
  obtain ⟨size, hgetSize, hcovers⟩ := hwf.getHdrCoefSize hsize
  obtain ⟨s₀, hcreate, hcalls⟩ := unbind hrun
  have hcreated : NeedsTwice s₀ := by
    intro i layer hlayer
    rw [create_layer hcreate hlayer]
    exact ⟨⟨rfl, .inl rfl, Lists.Resolves.empty⟩, nofun⟩
  have hneeds : NeedsTwice s := foldlM_keeps_of_eachDefinedStep (P := NeedsTwice)
    (fun _ _ _ hs hcall hnext => hs.step hcall hnext) hcreated (htwice s₀ hcreate) hcalls
  intro hwId l s' err parcel hcall
  refine ⟨size, hgetSize, ?_⟩
  rcases getHdrCoefData_cases hcall with hnone | ⟨layer, layer', fetched, hlayer, hfetched, heq⟩
  · cases hnone
  · obtain ⟨rfl⟩ : some parcel = fetched := congrArg (fun result => result.2.2) heq
    obtain ⟨hregular, hneed⟩ := hneeds l layer hlayer
    have heach := (own_run hown hrun).layers l layer hlayer
    rw [hregular.index] at heach
    rcases length_parcel_le hwf hregular hneed heach hfetched with hhdr | ⟨m, hm, hlen⟩
    · obtain ⟨m, hm⟩ := layerModules_of_layer hrun hlayer
      have hm := hcovers m hm
      omega
    · have hm := hcovers m hm
      omega

structure Documents.ListsMatch (d : Documents) : Prop where
  wcg : ∀ m ∈ d.wcg, ∀ layer ∈ m.layers, ∀ e ∈ m.entries, ∀ sub ∈ d.hw.subModule? layer e.subModName,
    (e.values.length : Int) = sub.numNodes
  hdr10 : ∀ name, ∀ doc ∈ d.hdr10File name, doc.Fits d.hw
  hdr10p : ∀ name, ∀ doc ∈ d.hdr10pFile name, doc.Fits d.hw
  hlg : ∀ name, ∀ doc ∈ d.hlgFile name, doc.Fits d.hw
  tune : d.tune.Fits d.hw

def fourTables : Documents where
  hw := [⟨[0], [("enable", { numNodes := 1, numNodesPerReg := 1, bitOffsets := [0], masks := [1], regNum := 1 })]⟩]
  wcg := [⟨[0], [⟨.modEn true, "enable", [1]⟩, ⟨.eotf 2, "enable", [1]⟩, ⟨.oetf 2, "enable", [1]⟩,
    ⟨.gm 6 1, "enable", [1]⟩], []⟩]

theorem fourTables_subModule? {sub : SubModule} (h : fourTables.hw.subModule? layer name = some sub) :
    sub = { numNodes := 1, numNodesPerReg := 1, bitOffsets := [0], masks := [1], regNum := 1 } := by
  obtain ⟨m, hm, hsub⟩ := unbind h
  rw [mem_singleton.mp (mem_of_find?_eq_some hm)] at hsub
  have hsub := mem_of_lookup_table hsub
  exact congrArg Prod.snd (mem_singleton.mp hsub)

theorem fourTables_wellFormed : fourTables.hw.WellFormed where
  numNodes layer name sub h := by rw [fourTables_subModule? h]
  perReg layer name sub h := by rw [fourTables_subModule? h]
  regNum layer name sub h := by rw [fourTables_subModule? h]; rfl
  group layer name other sub h sub' h' _ _ := by
    rw [fourTables_subModule? h, fourTables_subModule? h']
    exact ⟨rfl, rfl⟩

theorem parcelsFit_run_fetchedFirst : ∃ s s' parcel, run plainPlatform fourTables
      [.setTargetInfo srgbTarget, .initHdrCoefBuildup .dpu, .setLayerInfo 0 bt2020Info, .getHdrCoefData .dpu 0,
        .setLayerInfo 0 bt2020Info] = some s ∧
    s.getHdrCoefData .dpu 0 = some (s', .no, some parcel) ∧ 4 * parcel.length = 32 ∧ ParcelsFit fourTables s := by
  have hrun : run plainPlatform fourTables [.setTargetInfo srgbTarget, .initHdrCoefBuildup .dpu,
    .setLayerInfo 0 bt2020Info, .getHdrCoefData .dpu 0, .setLayerInfo 0 bt2020Info] = some _ := rfl
  have hsize : fourTables.hw.SizeFits := by
    unfold HwDoc.SizeFits
    decide
  have hown : ∀ m layer, FirstListed fourTables.wcg m layer → OwnRegisters fourTables.hw m layer := by
    intro m layer hlisted e _ earlier sub hearlier _
    obtain ⟨rfl, hlayer⟩ := firstListed_singleton hlisted
    rw [mem_singleton.mp hlayer] at hearlier
    cases hearlier
  refine ⟨_, _, _, hrun, rfl, rfl, parcelsFit_run fourTables_wellFormed hsize hown hrun ?_⟩
  rintro s₀ hs₀
  cases hs₀
  decide

theorem not_parcelsFit_fourTables : fourTables.hw.WellFormed ∧ fourTables.ListsMatch ∧
    ∃ s, run plainPlatform fourTables showTwice = some s ∧ ¬ParcelsFit fourTables s := by
  refine ⟨fourTables_wellFormed, ⟨?_, nofun, nofun, nofun, nofun⟩, _, rfl, fun h => ?_⟩
  · intro m hm layer _ e he sub hsub
    rw [fourTables_subModule? hsub]
    rw [mem_singleton.mp hm] at he
    clear hsub
    revert e
    decide
  · obtain ⟨size, hsize, hle⟩ := h .dpu 0 _ _ _ rfl
    cases hsize
    exact absurd hle (by decide)

end ExynosHal.Hdr
