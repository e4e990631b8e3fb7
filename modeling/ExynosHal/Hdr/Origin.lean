import ExynosHal.Hdr.Steps

/-! # Where the nodes of a layer come from

Whatever a layer holds has been packed for it: by a reader of the documents, or for a curve in the middle of a
build-up.
-/

namespace ExynosHal.Hdr
open Library.Run

section
variable {p : Platform} {hw : HwDoc} {layer : Int} {Q : DatNode → Prop} {nodes : List DatNode}

theorem length_firstVector {value : U32} {size : Nat} {vector : List U32}
    (h : firstVector value size = some vector) : vector.length = size := by
  unfold firstVector at h
  split at h
  · cases h
  · rename_i hsize
    cases h
    rw [List.length_cons, List.length_replicate]
    omega

variable (hpack : ∀ name lut n, hw.nodeNum layer name = some lut.length → hw.packNew layer name lut = some n → Q n)
include hpack

variable {spec : CurveSpecifier} {curve : Curve}

theorem curveNodes_each (h : curveNodes hw layer spec curve = some nodes) : ∀ n ∈ nodes, Q n := by
  obtain ⟨sizeEn, hsizeEn, h⟩ := unbind h
  obtain ⟨sizeX, hsizeX, h⟩ := unbind h
  obtain ⟨sizeY, hsizeY, h⟩ := unbind h
  obtain ⟨xBit, -, h⟩ := unbind h
  obtain ⟨yBit, -, h⟩ := unbind h
  obtain ⟨minxBit, -, h⟩ := unbind h
  obtain ⟨en, hen, h⟩ := unbind h
  obtain ⟨points, -, h⟩ := unbind h
  split at h
  · rename_i hsizes
    obtain ⟨enPacked, henPacked, h⟩ := unbind h
    obtain ⟨xPacked, hxPacked, h⟩ := unbind h
    obtain ⟨yPacked, hyPacked, h⟩ := unbind h
    cases h
    have hx : (points.toList.map Prod.fst).length = sizeX := by rw [List.length_map, Vector.length_toList]
    have hy : (points.toList.map Prod.snd ++ List.replicate (sizeY - sizeX) 0).length = sizeY := by
      rw [List.length_append, List.length_map, Vector.length_toList, List.length_replicate, Nat.add_sub_cancel' hsizes]
    intro n hn
    simp only [List.mem_cons, List.not_mem_nil, or_false] at hn
    rcases hn with rfl | rfl | rfl
    · exact hpack _ _ _ (by rw [hsizeEn, length_firstVector hen]) henPacked
    · exact hpack _ _ _ (by rw [hsizeX, hx]) hxPacked
    · exact hpack _ _ _ (by rw [hsizeY, hy]) hyPacked
  · cases h

theorem pqNodes_each {spec : PqSpecifier} {source : U32} (h : pqNodes hw layer p spec source = some nodes) :
    ∀ n ∈ nodes, Q n := by
  unfold pqNodes at h
  split at h
  · obtain ⟨sizeEn, hsizeEn, h⟩ := unbind h
    obtain ⟨modEn, hmodEn, h⟩ := unbind h
    obtain ⟨sizePqEn, hsizePqEn, h⟩ := unbind h
    obtain ⟨pqEn, hpqEn, h⟩ := unbind h
    obtain ⟨sizeCoef, hsizeCoef, h⟩ := unbind h
    obtain ⟨coefs, hcoefs, h⟩ := unbind h
    obtain ⟨sizeShift, hsizeShift, h⟩ := unbind h
    obtain ⟨shifts, hshifts, h⟩ := unbind h
    obtain ⟨modEnPacked, hmodEnPacked, h⟩ := unbind h
    obtain ⟨pqEnPacked, hpqEnPacked, h⟩ := unbind h
    obtain ⟨coefPacked, hcoefPacked, h⟩ := unbind h
    obtain ⟨shiftPacked, hshiftPacked, h⟩ := unbind h
    cases h
    intro n hn
    simp only [List.mem_cons, List.not_mem_nil, or_false] at hn
    rcases hn with rfl | rfl | rfl | rfl
    · exact hpack _ _ _ (by rw [hsizeEn, length_firstVector hmodEn]) hmodEnPacked
    · exact hpack _ _ _ (by rw [hsizePqEn, length_firstVector hpqEn]) hpqEnPacked
    · exact hpack _ _ _ (by rw [hsizeCoef, length_firstVector hcoefs]) hcoefPacked
    · exact hpack _ _ _ (by rw [hsizeShift, length_firstVector hshifts]) hshiftPacked
  · cases h
    nofun

theorem each_of_ite {c : Prop} [Decidable c]
    (h : (if c then curveNodes hw layer spec curve else some []) = some nodes) : ∀ n ∈ nodes, Q n := by
  split at h
  · exact curveNodes_each hpack h
  · cases h
    nofun

theorem eotfNodes_each {eotf : Option CurveSpecifier} {pq : PqSpecifier} {dataspace source : U32}
    (h : eotfNodes hw layer p eotf pq dataspace source = some nodes) : ∀ n ∈ nodes, Q n := by
  unfold eotfNodes at h
  split at h
  · cases h
    nofun
  · obtain ⟨spec, -, h⟩ := unbind h
    exact each_of_ite hpack h

end

def LutDoc.Yields (hw : HwDoc) (Q : Int → DatNode → Prop) (doc : LutDoc) : Prop :=
  ∀ m ∈ doc.modules, ∀ node ∈ m.2, ∀ v ∈ node.values, hw.hasSubMod m.1 v.1 →
    ∀ n, hw.packNew m.1 v.1 v.2 = some n → Q m.1 n

def LutTable.EachFor (Q : Int → DatNode → Prop) (table : LutTable) : Prop :=
  ∀ entry ∈ table, ∀ node ∈ entry.2, ∀ n ∈ node.coefPacked, Q entry.1 n

def WcgTable.EachFor (Q : Int → DatNode → Prop) (table : WcgTable) : Prop :=
  ∀ layer module key n, table.lookup layer = some module → module.data.lookup key = some n → Q layer n

section
variable {hw : HwDoc} {Q : Int → DatNode → Prop} {table : LutTable}

theorem LutTable.EachFor.lookup (h : table.EachFor Q) (layer : Int) :
    ∀ node ∈ (table.lookup layer).getD [], ∀ n ∈ node.coefPacked, Q layer n := by
  cases hlookup : table.lookup layer with
  | none => nofun
  | some nodes => exact h _ (mem_of_lookup_table hlookup)

variable {table' : LutTable} {layer : Int} {nodes : List PackedNode}

theorem insertMod_each (h : table.EachFor Q)
    (hnodes : ∀ node ∈ nodes, ∀ n ∈ node.coefPacked, Q layer n) (hstore : insertMod table layer nodes = some table') :
    table'.EachFor Q := by
  unfold insertMod at hstore
  split at hstore
  · cases hstore
    exact h
  · cases hstore
    intro entry hentry
    rcases List.mem_append.mp hentry with hentry | hentry
    · exact h entry hentry
    · cases List.mem_singleton.mp hentry
      exact hnodes

theorem assign_eq {n n' : DatNode} (h : n.assign = some n') : n' = n ∧ n.data.isSome := by
  obtain ⟨data, hdata, rfl⟩ := Option.map_eq_some_iff.mp h
  exact ⟨rfl, by rw [hdata]; rfl⟩

theorem assignCoefs_mem {old new result : List DatNode} (h : assignCoefs old new = some result) {n : DatNode}
    (hn : n ∈ result) : n ∈ new := by
  unfold assignCoefs at h
  split at h
  · obtain ⟨m, hm, hassign⟩ := exists_of_mem_mapM h hn
    obtain ⟨rfl, -⟩ := assign_eq hassign
    exact hm
  · cases h
    exact hn

theorem assignNodes_each {P : DatNode → Prop} {old new result : List PackedNode} (h : assignNodes old new = some result)
    (hnew : ∀ node ∈ new, ∀ n ∈ node.coefPacked, P n) : ∀ node ∈ result, ∀ n ∈ node.coefPacked, P n := by
  unfold assignNodes at h
  split at h
  · intro node hnode n hn
    obtain ⟨⟨o, m⟩, hmem, hassign⟩ := exists_of_mem_mapM h hnode
    obtain ⟨coefs, hcoefs, hassign⟩ := unbind hassign
    cases hassign
    exact hnew m (List.of_mem_zip hmem).2 n (assignCoefs_mem hcoefs hn)
  · cases h
    exact hnew

theorem assignMod_each (h : table.EachFor Q)
    (hnodes : ∀ node ∈ nodes, ∀ n ∈ node.coefPacked, Q layer n) (hstore : assignMod table layer nodes = some table') :
    table'.EachFor Q := by
  obtain ⟨assigned, hassigned, hstore⟩ := unbind hstore
  cases hstore
  intro entry hentry
  rcases List.mem_cons.mp hentry with rfl | hentry
  · exact assignNodes_each hassigned hnodes
  · exact h entry (List.mem_filter.mp hentry).1

theorem parseNode_each {node : LutNode} {packed : PackedNode} (h : parseNode hw layer node = some packed)
    (hyields : ∀ v ∈ node.values, hw.hasSubMod layer v.1 → ∀ n, hw.packNew layer v.1 v.2 = some n → Q layer n) :
    ∀ n ∈ packed.coefPacked, Q layer n := by
  obtain ⟨coefs, hcoefs, h⟩ := unbind h
  cases h
  intro n hn
  obtain ⟨v, hv, hpacked⟩ := exists_of_mem_mapM hcoefs hn
  obtain ⟨hmem, hhas⟩ := List.mem_filter.mp hv
  exact hyields v hmem hhas n hpacked

variable {finish : List PackedNode → List PackedNode}

theorem parseMods_each {store : LutTable → Int → List PackedNode → Option LutTable} {doc : LutDoc}
    (hfinish : ∀ nodes, (finish nodes).Perm nodes)
    (hstore : ∀ table layer nodes table', table.EachFor Q →
      (∀ node ∈ nodes, ∀ n ∈ node.coefPacked, Q layer n) → store table layer nodes = some table' → table'.EachFor Q)
    (hyields : doc.Yields hw Q) (htable : table.EachFor Q) (h : parseMods hw finish store doc table = some table') :
    table'.EachFor Q := by
  refine foldlM_keeps (P := fun table => LutTable.EachFor Q table) ?_ htable h
  intro current next m hm hcur hnext
  obtain ⟨nodes, hnodes, hnext⟩ := unbind hnext
  refine hstore current m.1 (finish nodes) next hcur ?_ hnext
  intro node hnode
  obtain ⟨given, hgiven, hparsed⟩ := exists_of_mem_mapM hnodes ((hfinish nodes).mem_iff.mp hnode)
  exact parseNode_each hparsed (hyields m hm given hgiven)

variable {d : Documents}

theorem loadTable_each {doc : Option LutDoc} (hfinish : ∀ nodes, (finish nodes).Perm nodes)
    (hyields : ∀ doc' ∈ doc, doc'.Yields d.hw Q)
    (htable : table.EachFor Q) (h : loadTable d finish doc table = some table') : table'.EachFor Q := by
  unfold loadTable at h
  split at h
  · exact parseMods_each hfinish (fun _ _ _ _ => insertMod_each) (hyields _ rfl) htable h
  · cases h
    exact htable

theorem parseTune_each (hyields : d.tune.Yields d.hw Q)
    (htable : table.EachFor Q) (h : parseTune d table = some table') : table'.EachFor Q :=
  parseMods_each (fun _ => .refl _) (fun _ _ _ _ => assignMod_each) hyields htable h

end

section
variable {p : Platform} {d : Documents} {Q : DatNode → Prop} {module : WcgModule}

theorem slotNodes_each (h : ∀ key n, module.data.lookup key = some n → Q n) {slot : WcgSlot} :
    ∀ n ∈ module.slotNodes p slot, Q n := by
  intro n hn
  obtain ⟨name, -, hlookup⟩ := List.mem_filterMap.mp hn
  exact h _ n hlookup

theorem coefNodes_each (h : ∀ key n, module.data.lookup key = some n → Q n)
    {target : TargetInfo} {dataspace : U32} {active : Bool} {nodes : List DatNode}
    (hnodes : module.coefNodes p target dataspace = some (active, nodes)) : ∀ n ∈ nodes, Q n := by
  simp only [WcgModule.coefNodes] at hnodes
  split at hnodes
  · cases hnodes
    exact slotNodes_each h
  · split at hnodes
    · cases hnodes
      intro n hn
      simp only [List.mem_append] at hn
      rcases hn with ((hn | hn) | hn) | hn
      all_goals exact slotNodes_each h n hn
    · cases hnodes

variable {nodes : List PackedNode}

theorem hdr10TableNodes_each (source : U32)
    (h : ∀ node ∈ nodes, ∀ n ∈ node.coefPacked, Q n) : ∀ n ∈ hdr10TableNodes source nodes, Q n := by
  induction nodes with
  | nil => nofun
  | cons node rest ih =>
    obtain ⟨hnode, hrest⟩ := List.forall_mem_cons.mp h
    have hhere : ∀ n ∈ (if node.maxLuminance = -1 ∨ source = node.maxLuminance then node.coefPacked else []), Q n := by
      split
      · exact hnode
      · nofun
    intro n hn
    simp only [hdr10TableNodes] at hn
    split at hn
    · exact hhere n hn
    · rcases List.mem_append.mp hn with hn | hn
      · exact hhere n hn
      · exact ih hrest n hn

theorem hdr10pTableNodes_each (source : U32)
    (h : ∀ node ∈ nodes, ∀ n ∈ node.coefPacked, Q n) : ∀ n ∈ hdr10pTableNodes source nodes, Q n := by
  unfold hdr10pTableNodes
  cases hfound : nodes.find? fun node => decide (source ≤ node.maxLuminance) with
  | none => nofun
  | some node => exact h node (List.mem_of_find?_eq_some hfound)

variable {table : LutTable} {layer : Layer} {nodes : List DatNode}
variable (hpack : ∀ name lut n, d.hw.nodeNum layer.layerIndex name = some lut.length →
  d.hw.packNew layer.layerIndex name lut = some n → Q n)
include hpack

variable {source : U32}

theorem curvesAndTable_each {spec : ModuleSpecifier} {tmNodes : CurveSpecifier → Option (List DatNode)}
    {fromTable : List DatNode} (htm : ∀ s tm, tmNodes s = some tm → ∀ n ∈ tm, Q n) (hfrom : ∀ n ∈ fromTable, Q n)
    (h : (do
      let tm ← tmNodes (← spec.tonemap)
      let pq ← pqNodes d.hw layer.layerIndex p (← spec.pq) source
      let eotf ← eotfNodes d.hw layer.layerIndex p spec.eotf (← spec.pq) layer.dataspace source
      some (tm ++ pq ++ eotf ++ fromTable)) = some nodes) : ∀ n ∈ nodes, Q n := by
  obtain ⟨tmSpec, -, h⟩ := unbind h
  obtain ⟨tm, htmNodes, h⟩ := unbind h
  obtain ⟨pqSpec, -, h⟩ := unbind h
  obtain ⟨pq, hpq, h⟩ := unbind h
  obtain ⟨pqSpec', -, h⟩ := unbind h
  obtain ⟨eotf, heotf, h⟩ := unbind h
  cases h
  intro n hn
  simp only [List.mem_append] at hn
  rcases hn with ((hn | hn) | hn) | hn
  · exact htm tmSpec tm htmNodes n hn
  · exact pqNodes_each hpack hpq n hn
  · exact eotfNodes_each hpack heotf n hn
  · exact hfrom n hn

theorem hdr10Nodes_each (htable : ∀ node ∈ (table.lookup (layer.layerIndex : Int)).getD [], ∀ n ∈ node.coefPacked, Q n)
    (h : hdr10Nodes p d table layer source = some nodes) : ∀ n ∈ nodes, Q n := by
  simp only [hdr10Nodes] at h
  split at h
  · cases h
    exact hdr10TableNodes_each source htable
  · exact curvesAndTable_each hpack (fun _ _ htm => each_of_ite hpack htm) (hdr10TableNodes_each source htable) h

theorem hdr10pNodes_each (htable : ∀ node ∈ (table.lookup (layer.layerIndex : Int)).getD [], ∀ n ∈ node.coefPacked, Q n)
    (h : hdr10pNodes p d table layer source = some nodes) : ∀ n ∈ nodes, Q n := by
  simp only [hdr10pNodes] at h
  split at h
  · cases h
    exact hdr10pTableNodes_each source htable
  · exact curvesAndTable_each hpack (fun _ _ htm => each_of_ite hpack htm) (hdr10pTableNodes_each source htable) h

theorem hlgNodes_each {first : PackedNode} (hfst : ∀ n ∈ first.coefPacked, Q n)
    (h : hlgNodes p d layer first = some nodes) : ∀ n ∈ nodes, Q n := by
  simp only [hlgNodes] at h
  split at h
  · cases h
    exact hfst
  · obtain ⟨tmSpec, -, h⟩ := unbind h
    obtain ⟨tm, htm, h⟩ := unbind h
    obtain ⟨eotfSpec, -, h⟩ := unbind h
    obtain ⟨eotf, heotf, h⟩ := unbind h
    cases h
    intro n hn
    simp only [List.mem_append] at hn
    rcases hn with (hn | hn) | hn
    · exact each_of_ite hpack htm n hn
    · exact each_of_ite hpack heotf n hn
    · exact hfst n hn

end

structure Carried (hw : HwDoc) (Q : Int → DatNode → Prop) : Prop where
  packed : ∀ layer name lut n, hw.nodeNum layer name = some lut.length → hw.packNew layer name lut = some n → Q layer n
  merged : ∀ layer a b c, Q layer a → Q layer b → a.merge b = some c → Q layer c

structure Impl.EachFor (Q : Int → DatNode → Prop) (s : Impl) : Prop where
  wcg : s.wcg.EachFor Q
  hdr10 : s.hdr10.EachFor Q
  hdr10p : s.hdr10p.EachFor Q
  hlg : s.hlg.EachFor Q
  tune : s.tune.EachFor Q
  layers : ∀ (i : Nat) layer, s.layers[i]? = some layer → layer.lists.Each (Q layer.layerIndex)

def LoadsYielding (d : Documents) (Q : Int → DatNode → Prop) (s : Impl) : Call → Prop
  | .setTargetInfo target => s.state = .objReady →
      (∀ doc ∈ hdr10Doc d target, doc.Yields d.hw Q) ∧ (∀ doc ∈ hdr10pDoc d target, doc.Yields d.hw Q) ∧
        ∀ doc ∈ hlgDoc d target, doc.Yields d.hw Q
  | _ => True

theorem loadsYielding_of_forall {d : Documents} {Q : Int → DatNode → Prop} (h : ∀ doc : LutDoc, doc.Yields d.hw Q)
    {s : Impl} {call : Call} : LoadsYielding d Q s call := by
  cases call with
  | setTargetInfo target => exact fun _ => ⟨fun doc _ => h doc, fun doc _ => h doc, fun doc _ => h doc⟩
  | _ => trivial

section
variable {p : Platform} {d : Documents} {s s' : Impl} {layer layer' built : Layer} {Q : Int → DatNode → Prop}

theorem LayerStep.layerIndex (h : LayerStep p d s layer layer') : layer'.layerIndex = layer.layerIndex := by
  cases h with
  | marked targetChanged state logLevel _ => rfl
  | skipped info _ => rfl
  | tuned info reloaded built state _ _ hbuilt =>
    obtain ⟨⟨active, source, lists, heq⟩, -, -⟩ := Requeued.tune hbuilt
    rw [heq]
    rfl
  | rebuilt info built state hbuilt =>
    obtain ⟨⟨active, source, lists, heq⟩, -, -⟩ := Requeued.coefBuildup hbuilt
    rw [heq]
    rfl
  | fetched layer' parcel hfetched =>
    rw [fetched_eq hfetched]

section
variable (hQ : Carried d.hw Q)
include hQ

theorem queue_each {i : Int} (layer : Layer) {nodes : List DatNode} (hlayer : layer.lists.Each (Q i))
    (hnodes : ∀ n ∈ nodes, Q i n) (h : layer.queue p nodes = some built) : built.lists.Each (Q i) := by
  obtain ⟨lists, hlists, rfl⟩ := Layer.queue_eq h
  exact (hlayer.queueAll (hQ.merged i) hnodes hlists).pushGroups p.groupOrder

theorem wcgCoefBuildup_each {table : WcgTable} {target : TargetInfo} (htable : table.EachFor Q)
    (hlayer : layer.lists.Each (Q layer.layerIndex)) (h : wcgCoefBuildup p table target layer = some built) :
    built.lists.Each (Q layer.layerIndex) := by
  obtain ⟨active, nodes, hnodes, hqueue⟩ := wcgCoefBuildup_eq h
  refine queue_each hQ { layer with active } hlayer (coefNodes_each ?_ hnodes) hqueue
  cases hlookup : table.lookup (layer.layerIndex : Int) with
  | none =>
    intro key n hn
    cases hn
  | some module => exact fun key n hn => htable _ module key n hlookup hn

variable {built : Layer × Bool}

theorem tuneCoefBuildup_each (layer : Layer) {table : LutTable} (htable : table.EachFor Q)
    (hlayer : layer.lists.Each (Q layer.layerIndex)) (h : tuneCoefBuildup p table layer = some built) :
    built.1.lists.Each (Q layer.layerIndex) := by
  rcases tuneCoefBuildup_cases h with rfl | ⟨first, rest, htableEq, hqueue⟩
  · exact hlayer
  · exact queue_each hQ layer hlayer (htable _ (mem_of_lookup_table htableEq) first List.mem_cons_self) hqueue

theorem coefBuildup_each (layer : Layer) {hdrType : LayerHdrType} (hs : s.EachFor Q)
    (hlayer : layer.lists.Each (Q layer.layerIndex)) (h : s.coefBuildup p d hdrType layer = some built) :
    built.1.lists.Each (Q layer.layerIndex) := by
  obtain ⟨target, based, -, hbased, h⟩ := coefBuildup_eq h
  have hbasedEach := wcgCoefBuildup_each hQ hs.wcg hlayer hbased
  have hidx : based.layerIndex = layer.layerIndex := by
    obtain ⟨⟨active, source, lists, rfl⟩, -, -⟩ := Requeued.wcg hbased
    rfl
  rw [← hidx] at hbasedEach ⊢
  have hpack := hQ.packed based.layerIndex
  cases hdrType with
  | none =>
    cases h
    exact hbasedEach
  | hdr10 =>
    obtain ⟨source, nodes, hnodes, hqueue⟩ := hdr10CoefBuildup_eq h
    exact queue_each hQ { based with sourceLuminance := source } hbasedEach
      (hdr10Nodes_each hpack (hs.hdr10.lookup _) hnodes) hqueue
  | hdr10p =>
    obtain ⟨source, nodes, hnodes, hqueue⟩ := hdr10pCoefBuildup_eq h
    exact queue_each hQ { based with sourceLuminance := source } hbasedEach
      (hdr10pNodes_each hpack (hs.hdr10p.lookup _) hnodes) hqueue
  | hlg =>
    rcases hlgCoefBuildup_cases h with rfl | ⟨first, rest, nodes, htable, hnodes, hqueue⟩
    · exact hbasedEach
    · have hfst := hs.hlg _ (mem_of_lookup_table htable) first List.mem_cons_self
      exact queue_each hQ { based with sourceLuminance := 1000 } hbasedEach (hlgNodes_each hpack hfst hnodes) hqueue

theorem LayerStep.each (htune : d.tune.Yields d.hw Q) (hs : s.EachFor Q)
    (hlayer : layer.lists.Each (Q layer.layerIndex)) (h : LayerStep p d s layer layer') :
    layer'.lists.Each (Q layer'.layerIndex) := by
  rw [h.layerIndex]
  cases h with
  | marked targetChanged state logLevel _ => exact hlayer
  | skipped info _ => exact hlayer.transfer
  | tuned info reloaded built state _ hreload hbuilt =>
    obtain ⟨tune, tuneReload, rfl, hread⟩ := reloadTune_eq hreload
    have htable : LutTable.EachFor Q tune := by
      rcases hread with rfl | hparsed
      · exact hs.tune
      · exact parseTune_each htune hs.tune hparsed
    exact tuneCoefBuildup_each hQ (layer.save p _ _) htable (Lists.Each.empty _) hbuilt
  | rebuilt info built state hbuilt =>
    exact coefBuildup_each hQ (layer.save p _ _) hs (Lists.Each.empty _) hbuilt
  | fetched layer' parcel hfetched =>
    rw [fetched_eq hfetched]
    exact hlayer.cleanDuplicate

theorem each_step {call : Call} (htune : d.tune.Yields d.hw Q) (hs : s.EachFor Q) (hloads : LoadsYielding d Q s call)
    (h : step p d s call = some s') : s'.EachFor Q := by
  have hcontext := step_context h
  have hlayers : ∀ (i : Nat) layer', s'.layers[i]? = some layer' → layer'.lists.Each (Q layer'.layerIndex) := by
    intro i layer' hlayer'
    obtain ⟨layer, hlayer, hstep⟩ := step_layersStep h i layer' hlayer'
    exact hstep.each hQ htune hs (hs.layers i layer hlayer)
  have hwcg : s'.wcg.EachFor Q := by
    rw [hcontext.wcg]
    exact hs.wcg
  have htuned : s'.tune.EachFor Q := by
    rcases hcontext.tune with heq | hparsed
    · rw [heq]
      exact hs.tune
    · exact parseTune_each htune hs.tune hparsed
  rcases hcontext.tables with ⟨h10, h10p, hhlg⟩ | ⟨target, rfl, hobj, h10, h10p, hhlg⟩
  · refine ⟨hwcg, ?_, ?_, ?_, htuned, hlayers⟩
    · rw [h10]
      exact hs.hdr10
    · rw [h10p]
      exact hs.hdr10p
    · rw [hhlg]
      exact hs.hlg
  · obtain ⟨hyields10, hyields10p, hyieldsHlg⟩ := hloads hobj
    refine ⟨hwcg, ?_, ?_, ?_, htuned, hlayers⟩
    · exact loadTable_each p.sortAscending_perm hyields10 hs.hdr10 h10
    · exact loadTable_each p.sortAscending_perm hyields10p hs.hdr10p h10p
    · exact loadTable_each (fun _ => .refl _) hyieldsHlg hs.hlg hhlg

end

theorem each_create (hwcg : ∀ table, parseWcgMods d.hw d.wcg = some table → table.EachFor Q)
    (htune : d.tune.Yields d.hw Q) (h : Impl.create d = some s) : s.EachFor Q := by
  obtain ⟨wcg, tune, hparsed, htuned, heq⟩ := create_eq h
  refine ⟨?_, ?_, ?_, ?_, ?_, fun i layer hlayer => ?_⟩
  · rw [heq]
    exact hwcg wcg hparsed
  · rw [heq]
    nofun
  · rw [heq]
    nofun
  · rw [heq]
    nofun
  · rw [heq]
    exact parseTune_each htune (by nofun) htuned
  · rw [create_layer h hlayer]
    exact Lists.Each.empty _

theorem wcg_run {calls : List Call} (h : run p d calls = some s) : parseWcgMods d.hw d.wcg = some s.wcg := by
  refine run_keeps (P := fun s => parseWcgMods d.hw d.wcg = some s.wcg) ?_ ?_ h
  · intro s hs
    obtain ⟨wcg, tune, hwcg, -, rfl⟩ := create_eq hs
    exact hwcg
  · intro s s' call hs hnext
    rw [(step_context hnext).wcg]
    exact hs

end

end ExynosHal.Hdr
