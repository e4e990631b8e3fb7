import ExynosHal.Hdr.Sound
import ExynosHal.Hdr.Updates

/-! # Parcels can be walked

As long as the documents that are loaded fit the hardware document, every node a layer holds is sound.
The lists of a layer that was built in tune mode point into the tune table, and a run is followed here together
with the layers whose nodes another layer's reload of that table has assigned over or freed.
-/

namespace ExynosHal.Hdr
open Library.Run
open Function (update)
open Option (bind_eq_bind bind_some)

structure Impl.Sound (s : Impl) : Prop where
  wcg : s.wcg.Each DatNode.Sound
  hdr10 : s.hdr10.Each DatNode.Sound
  hdr10p : s.hdr10p.Each DatNode.Sound
  hlg : s.hlg.Each DatNode.Sound
  tune : s.tune.Each DatNode.Sound
  layers : ∀ (i : Nat) layer, s.layers[i]? = some layer → layer.lists.Each DatNode.Sound

def LoadsFitting (d : Documents) (s : Impl) : Call → Prop
  | .setTargetInfo target => s.state = .objReady →
      (∀ doc ∈ hdr10Doc d target, doc.Fits d.hw) ∧ (∀ doc ∈ hdr10pDoc d target, doc.Fits d.hw) ∧
        ∀ doc ∈ hlgDoc d target, doc.Fits d.hw
  | _ => True

def DatNode.image (n : DatNode) : List Word :=
  [some n.header.byteOffset, some n.header.length, some n.header.magic] ++ n.data.getD []

def byteCount (nodes : List DatNode) : Nat := (nodes.map fun n => 12 + 4 * n.header.length.toNat).sum

def walk : Nat → List Word → Option (List (LutHeader × List Word) × List Word)
  | 0, rest => some ([], rest)
  | count + 1, some byteOffset :: some length :: some magic :: rest =>
    if length.toNat ≤ rest.length then do
      let (visited, left) ← walk count (rest.drop length.toNat)
      some ((⟨byteOffset, length, magic⟩, rest.take length.toNat) :: visited, left)
    else none
  | _ + 1, _ => none

section
variable {nodes : List DatNode} {n : DatNode}

theorem byteCount_cons (n : DatNode) (nodes : List DatNode) :
    byteCount (n :: nodes) = 12 + 4 * n.header.length.toNat + byteCount nodes := by
  simp only [byteCount, List.map_cons, List.sum_cons]

theorem le_byteCount (hn : n ∈ nodes) : 12 + 4 * n.header.length.toNat ≤ byteCount nodes :=
  List.single_le_sum (fun _ _ => Nat.zero_le _) _ (List.mem_map_of_mem hn)

theorem DatNode.Sound.length_data (h : n.Sound) (hshort : n.header.length.toNat < 2 ^ 29) :
    (n.data.getD []).length = n.header.length.toNat := by
  obtain ⟨data, hdata, hlen⟩ := h.data (by omega)
  rw [hdata, Option.getD_some, hlen]

theorem DatNode.toNat_size (hshort : n.header.length.toNat < 2 ^ 29) :
    n.size.toNat = 12 + 4 * n.header.length.toNat := by
  have hwords : (12 : U32).toNat = 12 ∧ (4 : U32).toNat = 4 := ⟨rfl, rfl⟩
  simp only [DatNode.size, BitVec.toNat_add, BitVec.toNat_mul, hwords]
  omega

theorem DatNode.Sound.serialize (h : n.Sound) (hshort : n.header.length.toNat < 2 ^ 29) :
    n.serialize = some n.image := by
  obtain ⟨data, hdata, hlen⟩ := h.data (by omega)
  simp only [DatNode.serialize, hdata, bind_eq_bind, bind_some, DatNode.toNat_size hshort, hlen,
    if_pos, DatNode.image, Option.getD_some]

theorem DatNode.Sound.length_image (h : n.Sound) (hshort : n.header.length.toNat < 2 ^ 29) :
    4 * n.image.length = 12 + 4 * n.header.length.toNat := by
  rw [DatNode.image, List.length_append, h.length_data hshort]
  simp only [List.length_cons, List.length_nil]
  omega

theorem writeNodes_eq {written : List Word} (hnodes : ∀ n ∈ nodes, n.Sound)
    (hlimit : 4 * written.length + byteCount nodes < 2 ^ 31) :
    writeNodes written nodes = some (written ++ nodes.flatMap DatNode.image) := by
  induction nodes generalizing written with
  | nil => simp only [writeNodes, List.foldlM_nil, List.flatMap_nil, List.append_nil, Option.pure_def]
  | cons n nodes ih =>
    obtain ⟨hn, hrest⟩ := List.forall_mem_cons.mp hnodes
    rw [byteCount_cons] at hlimit
    have hshort : n.header.length.toNat < 2 ^ 29 := by omega
    have himage := hn.length_image hshort
    have hroom : 4 * written.length < 2 ^ 31 := by omega
    have htail : 4 * (written ++ n.image).length + byteCount nodes < 2 ^ 31 := by
      rw [List.length_append]
      omega
    simp only [writeNodes, List.foldlM_cons, hn.serialize hshort, bind_eq_bind, bind_some, if_pos hroom]
    rw [List.flatMap_cons, ← List.append_assoc]
    exact ih hrest htail

theorem length_flatMap_image (hnodes : ∀ n ∈ nodes, n.Sound) (hlimit : byteCount nodes < 2 ^ 31) :
    4 * (nodes.flatMap DatNode.image).length = byteCount nodes := by
  induction nodes with
  | nil => rfl
  | cons n nodes ih =>
    obtain ⟨hn, hrest⟩ := List.forall_mem_cons.mp hnodes
    rw [byteCount_cons] at hlimit ⊢
    have himage := hn.length_image (by omega)
    have htail := ih hrest (by omega)
    rw [List.flatMap_cons, List.length_append]
    omega

theorem walk_eq (hnodes : ∀ n ∈ nodes, n.Sound) (hlimit : byteCount nodes < 2 ^ 31) :
    walk nodes.length (nodes.flatMap DatNode.image) = some (nodes.map fun n => (n.header, n.data.getD []), []) := by
  induction nodes with
  | nil => rfl
  | cons n nodes ih =>
    obtain ⟨hn, hrest⟩ := List.forall_mem_cons.mp hnodes
    rw [byteCount_cons] at hlimit
    have hdata := hn.length_data (by omega)
    have htail := ih hrest (by omega)
    have hfits : n.header.length.toNat ≤ (n.data.getD [] ++ nodes.flatMap DatNode.image).length := by
      rw [List.length_append, hdata]
      exact Nat.le_add_right _ _
    rw [List.flatMap_cons, DatNode.image, List.length_cons, List.map_cons]
    simp only [List.cons_append, List.nil_append, walk, if_pos hfits]
    rw [← hdata, List.drop_left, List.take_left, htail]
    rfl

theorem toNat_totalBytesize (hlimit : 16 + byteCount nodes < 2 ^ 31) :
    (totalBytesize nodes).toNat = 16 + byteCount nodes := by
  have hfold : ∀ total : U32, total.toNat + byteCount nodes < 2 ^ 31 →
      (nodes.foldl (fun total node => total + node.size) total).toNat = total.toNat + byteCount nodes := by
    clear hlimit
    induction nodes with
    | nil =>
      intro total _
      rfl
    | cons n nodes ih =>
      intro total htotal
      rw [byteCount_cons] at htotal ⊢
      have hsize := DatNode.toNat_size (n := n) (by omega)
      have hnext : (total + n.size).toNat = total.toNat + (12 + 4 * n.header.length.toNat) := by
        rw [BitVec.toNat_add, hsize]
        omega
      rw [List.foldl_cons, ih (total + n.size) (by omega), hnext]
      omega
  exact hfold 16 hlimit

theorem toNat_halves {shall need : Nat} (hshall : shall < 2 ^ 16) (hneed : need < 2 ^ 16) :
    ((BitVec.ofNat 16 shall).setWidth 32 <<< (16 * 0) ||| (BitVec.ofNat 16 need).setWidth 32 <<< (16 * 1)).toNat =
      shall + 2 ^ 16 * need := by
  have hlow : ((BitVec.ofNat 16 shall).setWidth 32 <<< (16 * 0)).toNat = shall := by
    simp only [BitVec.toNat_shiftLeft, BitVec.toNat_setWidth, BitVec.toNat_ofNat, Nat.mul_zero, Nat.shiftLeft_zero]
    omega
  have hhigh : ((BitVec.ofNat 16 need).setWidth 32 <<< (16 * 1)).toNat = need <<< 16 := by
    simp only [BitVec.toNat_shiftLeft, BitVec.toNat_setWidth, BitVec.toNat_ofNat, Nat.mul_one, Nat.shiftLeft_eq]
    omega
  rw [BitVec.toNat_or, Nat.or_comm, hlow, hhigh, ← Nat.shiftLeft_add_eq_or_of_lt hshall, Nat.shiftLeft_eq]
  omega

end

def Walkable (lists : Lists) (parcel : List Word) : Prop :=
  ∃ total info lut num body, parcel = some total :: info :: lut :: some num :: body ∧ total.toNat = 4 * parcel.length ∧
    num.toNat % 2 ^ 16 = lists.shall.length ∧ num.toNat / 2 ^ 16 = lists.need.length ∧
    walk (num.toNat % 2 ^ 16 + num.toNat / 2 ^ 16) body =
      some ((lists.shallNodes ++ lists.needNodes).map fun n => (n.header, n.data.getD []), []) ∧
    ∀ n ∈ lists.shallNodes ++ lists.needNodes, n.header.magic = hdrLutMagic ∧ n.data.isSome

def Lists.WithinLimits (lists : Lists) : Prop := lists.shall.length < 2 ^ 16 ∧ lists.need.length < 2 ^ 16 ∧
    16 + byteCount (lists.shallNodes ++ lists.needNodes) < 2 ^ 31

theorem walkable_parcel {layer : Layer} (hsound : layer.lists.Each DatNode.Sound) (hresolves : layer.lists.Resolves)
    (hlimits : layer.lists.cleanDuplicate.WithinLimits) (hchanged : layer.layerChanged = true) :
    ∃ parcel, layer.getHdrCoefData = some ({ layer with lists := layer.lists.cleanDuplicate }, some parcel) ∧
      Walkable layer.lists.cleanDuplicate parcel := by
  obtain ⟨hshall, hneed, hbytes⟩ := hlimits
  have hnodes : ∀ n ∈ layer.lists.cleanDuplicate.shallNodes ++ layer.lists.cleanDuplicate.needNodes, n.Sound :=
    fun n hn => hsound.cleanDuplicate.nodes hn
  have hshallLen := hresolves.cleanDuplicate.length_shallNodes
  have hneedLen := hresolves.cleanDuplicate.length_needNodes
  generalize hlists : layer.lists.cleanDuplicate = lists at *
  have hhdr : ∃ info lut num, coefHeader { layer with lists }
      (totalBytesize (lists.shallNodes ++ lists.needNodes)) lists.shallNodes.length lists.needNodes.length =
        [some (totalBytesize (lists.shallNodes ++ lists.needNodes)), info, lut, some num] ∧
      num.toNat = lists.shall.length + 2 ^ 16 * lists.need.length := by
    refine ⟨_, _, _, rfl, ?_⟩
    rw [hshallLen, hneedLen]
    exact toNat_halves hshall hneed
  have hcnt : lists.shall.length + lists.need.length = (lists.shallNodes ++ lists.needNodes).length := by
    rw [List.length_append, hshallLen, hneedLen]
  obtain ⟨info, lut, num, hhdr, hnum⟩ := hhdr
  generalize hall : lists.shallNodes ++ lists.needNodes = nodes at *
  have hwritten : writeNodes [some (totalBytesize nodes), info, lut, some num] nodes = _ :=
    writeNodes_eq hnodes (by simpa using hbytes)
  have hlen := length_flatMap_image hnodes (by omega)
  have hlow : num.toNat % 2 ^ 16 = lists.shall.length := by omega
  have hhigh : num.toNat / 2 ^ 16 = lists.need.length := by omega
  refine ⟨_, ?_, totalBytesize nodes, info, lut, num, nodes.flatMap DatNode.image, rfl, ?_, hlow, hhigh, ?_, ?_⟩
  · simp only [Layer.getHdrCoefData, hlists, hall, if_pos hchanged, hhdr, hwritten, bind_eq_bind,
      bind_some, List.cons_append, List.nil_append]
  · rw [toNat_totalBytesize hbytes]
    simp only [List.length_cons]
    omega
  · rw [hlow, hhigh, hcnt, hall]
    exact walk_eq hnodes (by omega)
  · rw [hall]
    intro n hn
    have hshort := le_byteCount hn
    obtain ⟨data, hdata, -⟩ := (hnodes n hn).data (by omega)
    exact ⟨(hnodes n hn).magic, by rw [hdata, Option.isSome_some]⟩

theorem loadsYielding_of_loadsFitting {d : Documents} {s : Impl} {call : Call} (h : LoadsFitting d s call) :
    LoadsYielding d (fun _ => DatNode.Sound) s call := by
  cases call with
  | setTargetInfo target =>
    intro hobj
    obtain ⟨hdr10, hdr10p, hlg⟩ := h hobj
    exact ⟨fun doc hdoc => (hdr10 doc hdoc).yields, fun doc hdoc => (hdr10p doc hdoc).yields,
      fun doc hdoc => (hlg doc hdoc).yields⟩
  | _ => trivial

theorem sound_run {p : Platform} {d : Documents} {calls : List Call} {s : Impl} (h : run p d calls = some s)
    (htune : d.tune.Fits d.hw) (hloads : ∀ s₀ ∈ Impl.create d, EachDefinedStep (step p d) (LoadsFitting d) s₀ calls) :
    s.Sound := by
  obtain ⟨s₀, hcreate, hcalls⟩ := unbind h
  have hwcg : ∀ table, parseWcgMods d.hw d.wcg = some table → table.EachFor fun _ => DatNode.Sound := by
    intro table htable layer module key n hmodule hn
    exact parseWcgMods_sound htable _ (mem_of_lookup_table hmodule) _ (mem_of_lookup_table hn)
  have heach : s.EachFor fun _ => DatNode.Sound :=
    foldlM_keeps_of_eachDefinedStep (P := Impl.EachFor fun _ => DatNode.Sound)
      (fun _ _ _ hs hload hnext => each_step carried_sound htune.yields hs (loadsYielding_of_loadsFitting hload) hnext)
      (each_create hwcg htune.yields hcreate) (hloads s₀ hcreate) hcalls
  exact ⟨parseWcgMods_sound (wcg_run h), heach.hdr10, heach.hdr10p, heach.hlg, heach.tune, heach.layers⟩

/-- `some true` for a layer with pointers into the tune table, `some false` after a reload for another layer. -/
abbrev TuneRefs := Nat → Option Bool

def trackTune (p : Platform) (s : Impl) (refs : TuneRefs) : Call → TuneRefs
  | .setLayerInfo l info =>
    if rebuilds p s l info then
      if getHdrType info ≠ .none ∧ s.tuneMode then
        update (fun i => (refs i).map fun kept => kept && !s.tuneReload) l (some true)
      else update refs l none
    else refs
  | _ => refs

/-- Whether a reload keeps the nodes that are pointed to is left open in C++, so reading them is undefined. -/
def fetch (t : Impl × TuneRefs) (hwId : HdrHwId) (l : Nat) : Option (Impl × HdrErr × Option (List Word)) :=
  if t.2 l = some false then none else t.1.getHdrCoefData hwId l

def trackedStep (p : Platform) (d : Documents) (t : Impl × TuneRefs) (call : Call) : Option (Impl × TuneRefs) :=
  (match call with
    | .getHdrCoefData hwId l => (fetch t hwId l).map Prod.fst
    | call => step p d t.1 call).map fun s => (s, trackTune p t.1 t.2 call)

def trackedRun (p : Platform) (d : Documents) (calls : List Call) : Option (Impl × TuneRefs) := do
  let s ← Impl.create d
  calls.foldlM (trackedStep p d) (s, fun _ => none)

section
variable {p : Platform} {d : Documents} {calls : List Call} {t t' : Impl × TuneRefs}

theorem trackedStep_step {call : Call} (h : trackedStep p d t call = some t') : step p d t.1 call = some t'.1 := by
  obtain ⟨s, hs, rfl⟩ := Option.map_eq_some_iff.mp h
  cases call with
  | getHdrCoefData hwId l =>
    obtain ⟨result, hresult, rfl⟩ := Option.map_eq_some_iff.mp hs
    simp only [step, (Option.ite_none_left_eq_some.mp hresult).2, Option.map_some]
  | _ => exact hs

theorem trackedRun_run (h : trackedRun p d calls = some t) : run p d calls = some t.1 := by
  obtain ⟨s, hcreate, hcalls⟩ := unbind h
  refine Option.bind_eq_some_iff.mpr ⟨s, hcreate, ?_⟩
  generalize (fun _ => none : TuneRefs) = refs at hcalls
  clear h hcreate
  induction calls generalizing s refs with
  | nil =>
    cases hcalls
    rfl
  | cons call calls ih =>
    obtain ⟨next, hnext, hcalls⟩ := unbind hcalls
    exact Option.bind_eq_some_iff.mpr ⟨next.1, trackedStep_step hnext, ih next.1 next.2 hcalls⟩

/-- In a run that loads only documents that fit, a parcel can be walked whenever one is due. -/
theorem parcel_walkable (h : trackedRun p d calls = some t)
    (htune : d.tune.Fits d.hw) (hloads : ∀ s₀ ∈ Impl.create d, EachDefinedStep (step p d) (LoadsFitting d) s₀ calls)
    (hwId : HdrHwId) (l : Nat) {layer : Layer} (hkept : t.2 l ≠ some false) (hready : t.1.state = .buildUpReady)
    (hlayer : t.1.layer? hwId l = some layer) (hlayerReady : layer.state = .buildUpReady)
    (hchanged : layer.layerChanged = true) (hlimits : layer.lists.cleanDuplicate.WithinLimits) :
    ∃ s' held parcel, fetch t hwId l = some (s', .no, some parcel) ∧ s'.layers[l]? = some held ∧
      Walkable held.lists parcel := by
  obtain ⟨-, hidx⟩ := layer?_eq hlayer
  have hrun := trackedRun_run h
  have hsound := (sound_run hrun htune hloads).layers l layer hidx
  have hregular := regular_run hrun hidx
  obtain ⟨parcel, hparcel, hwalkable⟩ := walkable_parcel hsound hregular.resolves hlimits hchanged
  let held : Layer := { layer with lists := layer.lists.cleanDuplicate }
  refine ⟨t.1.setLayer l held, held, parcel, ?_, ?_, hwalkable⟩
  · simp only [fetch, if_neg hkept, Impl.getHdrCoefData, hready, hlayer, hlayerReady, hparcel, bind_eq_bind, bind_some,
      held]
  · simp only [Impl.setLayer, List.getElem?_set_self (List.getElem?_eq_some_iff.mp hidx).1]

end

def hlgDocuments (values : List U32) : Documents where
  hw := [⟨[0], [
    ("curve", { numNodes := 2, numNodesPerReg := 2, bitOffsets := [0, 16], masks := [0xFFFF, 0xFFFF], regOffset := 8,
                regNum := 1 })]⟩]
  hlgFile := fun _ => some [⟨[0], [⟨0, [("curve", values)]⟩]⟩]

def hlgCalls : List Call := [.setTargetInfo srgbTarget, .initHdrCoefBuildup .dpu, .setLayerInfo 0 bt2020Hlg]

theorem parcel_walkable_hlg : ∃ t s' held parcel, trackedRun plainPlatform (hlgDocuments [1, 2]) hlgCalls = some t ∧
    fetch t .dpu 0 = some (s', .no, some parcel) ∧ s'.layers[0]? = some held ∧ Walkable held.lists parcel := by
  have hrun : trackedRun plainPlatform (hlgDocuments [1, 2]) hlgCalls = some _ := rfl
  have htune : (hlgDocuments [1, 2]).tune.Fits (hlgDocuments [1, 2]).hw := by nofun
  have hfits : ∀ target, ∀ doc ∈ hlgDoc (hlgDocuments [1, 2]) target, doc.Fits (hlgDocuments [1, 2]).hw := by
    rintro target _ ⟨⟩
    unfold LutDoc.Fits
    decide
  have hloads : ∀ s₀ ∈ Impl.create (hlgDocuments [1, 2]),
      EachDefinedStep (step plainPlatform (hlgDocuments [1, 2])) (LoadsFitting (hlgDocuments [1, 2])) s₀ hlgCalls :=
    fun s₀ _ => ⟨fun _ => ⟨nofun, nofun, hfits _⟩, fun s₁ _ => ⟨trivial, fun s₂ _ => ⟨trivial, fun _ _ => trivial⟩⟩⟩
  obtain ⟨s', held, parcel, hparcel, hheld, hwalkable⟩ :=
    parcel_walkable hrun htune hloads .dpu 0 (by decide) rfl rfl rfl rfl (by unfold Lists.WithinLimits; decide)
  exact ⟨_, s', held, parcel, hrun, hparcel, hheld, hwalkable⟩

theorem hlg_not_walkable : ∃ s layer n, run plainPlatform (hlgDocuments [1, 2, 3]) hlgCalls = some s ∧
    s.state = .buildUpReady ∧ s.layer? .dpu 0 = some layer ∧ layer.state = .buildUpReady ∧ layer.layerChanged ∧
    n ∈ layer.lists.shallNodes ∧ n.header.magic ≠ hdrLutMagic ∧ s.getHdrCoefData .dpu 0 = none := by
  refine ⟨_, _, {}, rfl, rfl, rfl, rfl, rfl, ?_, by decide, rfl⟩
  decide

end ExynosHal.Hdr
