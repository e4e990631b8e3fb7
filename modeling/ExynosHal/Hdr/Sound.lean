import ExynosHal.Hdr.Origin

/-! # Which nodes have been packed

A node that `pack` accepted carries the magic and a buffer as long as its header says.
-/

namespace ExynosHal.Hdr
open Library.Run
open Option (map_some)

structure DatNode.Sound (n : DatNode) : Prop where
  magic : n.header.magic = hdrLutMagic
  data : n.header.length.toNat < 2 ^ 30 → ∃ data, n.data = some data ∧ data.length = n.header.length.toNat

section

theorem DatNode.setData_eq {words : List U32} {node node' : DatNode} (h : node.setData words = some node') :
    node'.header = node.header ∧ node'.data.map List.length = node.data.map List.length := by
  unfold DatNode.setData at h
  split at h
  · split at h
    · cases h
      exact ⟨rfl, rfl⟩
    · cases h
  · rename_i data hdata
    split at h
    · rename_i hfits
      cases h
      refine ⟨rfl, ?_⟩
      rw [hdata, map_some, map_some, List.length_append, List.length_map, List.length_drop, Nat.add_sub_cancel' hfits]
    · cases h

theorem DatNode.sound_of_setHeader {byteOffset length : U32} (node : DatNode)
    (hhdr : node.header = (({} : DatNode).setHeader byteOffset length).header)
    (hdata : node.data.map List.length = ((({} : DatNode).setHeader byteOffset length).data).map List.length) :
    node.Sound := by
  refine ⟨by rw [hhdr]; rfl, fun hlen => ?_⟩
  rw [hhdr] at hlen ⊢
  have hshort : length.toNat < 2 ^ 30 := hlen
  have hfresh : (-1 : U32) ≠ length := by
    rintro rfl
    exact absurd hshort (by decide)
  rw [DatNode.setHeader, if_neg hfresh, map_some, DatNode.allocate, List.length_replicate,
    Nat.mod_eq_of_lt hshort, Option.map_eq_some_iff] at hdata
  exact hdata

theorem SubModule.pack_cases {sub : SubModule} {lut : List U32} {ret : Int} {node : DatNode}
    (h : sub.pack lut {} = some (ret, node)) :
    (lut.length : Int) = sub.numNodes ∧ node.Sound ∨ (lut.length : Int) ≠ sub.numNodes ∧ node = {} := by
  unfold SubModule.pack at h
  split at h
  · rename_i hmatch
    obtain ⟨words, -, h⟩ := unbind h
    obtain ⟨filled, hfilled, h⟩ := unbind h
    cases h
    obtain ⟨hhdr, hdata⟩ := DatNode.setData_eq hfilled
    exact .inl ⟨hmatch, DatNode.sound_of_setHeader { filled with groupId := sub.groupId } hhdr hdata⟩
  · rename_i hmismatch
    cases h
    exact .inr ⟨hmismatch, rfl⟩

variable {hw : HwDoc} {layer : Int} {name : String} {lut : List U32} {node : DatNode}

section
variable (h : hw.packNew layer name lut = some node)
include h

theorem packNew_cases : (lut.length : Int) = ((hw.subModule? layer name).getD {}).numNodes ∧ node.Sound ∨
      (lut.length : Int) ≠ ((hw.subModule? layer name).getD {}).numNodes ∧ node = {} := by
  obtain ⟨⟨ret, packed⟩, hpacked, h⟩ := unbind h
  cases h
  exact SubModule.pack_cases hpacked

theorem packNew_known : node = {} ∨ ∃ sub, hw.subModule? layer name = some sub ∧ (lut.length : Int) = sub.numNodes := by
  rcases packNew_cases h with ⟨hlut, -⟩ | ⟨-, rfl⟩
  · cases hsub : hw.subModule? layer name with
    | none =>
      obtain ⟨⟨ret, packed⟩, hpacked, -⟩ := unbind h
      rw [hsub, Option.getD_none] at hlut
      rw [HwDoc.pack, hsub, Option.getD_none, SubModule.pack, if_pos hlut] at hpacked
      cases hpacked
    | some sub =>
      rw [hsub, Option.getD_some] at hlut
      exact .inr ⟨sub, rfl, hlut⟩
  · exact .inl rfl

theorem packNew_sound (hmatch : (lut.length : Int) = ((hw.subModule? layer name).getD {}).numNodes) : node.Sound := by
  rcases packNew_cases h with ⟨-, hsound⟩ | ⟨hmismatch, -⟩
  · exact hsound
  · exact absurd hmatch hmismatch

theorem packNew_sound_of_nodeNum (hsize : hw.nodeNum layer name = some lut.length) : node.Sound := by
  refine packNew_sound h ?_
  simp only [HwDoc.nodeNum] at hsize
  split at hsize
  · rename_i hnonneg
    have hlen := Option.some.inj hsize
    omega
  · cases hsize

end

theorem DatNode.Sound.merge {a b c : DatNode} (ha : a.Sound) (h : a.merge b = some c) : c.Sound := by
  unfold DatNode.merge at h
  split at h
  · split at h
    · cases h
      exact ha
    · rename_i data hdata
      obtain ⟨opData, -, h⟩ := unbind h
      split at h
      · rename_i hlengths
        cases h
        refine ⟨ha.magic, fun _ => ⟨_, rfl, ?_⟩⟩
        rw [List.length_zipWith, hlengths.1, hlengths.2, Nat.min_self]
      · cases h
  · cases h
    exact ha

end

def LutTable.Each (Q : DatNode → Prop) (table : LutTable) : Prop :=
  ∀ entry ∈ table, ∀ node ∈ entry.2, ∀ n ∈ node.coefPacked, Q n

def WcgTable.Each (Q : DatNode → Prop) (table : WcgTable) : Prop := ∀ entry ∈ table, ∀ item ∈ entry.2.data, Q item.2

def LutDoc.Fits (hw : HwDoc) (doc : LutDoc) : Prop :=
  ∀ m ∈ doc.modules, ∀ node ∈ m.2, ∀ v ∈ node.values, ∀ sub ∈ hw.subModule? m.1 v.1, (v.2.length : Int) = sub.numNodes

section
variable {hw : HwDoc}

theorem carried_sound : Carried hw fun _ => DatNode.Sound where
  packed _ _ _ _ hsize hpacked := packNew_sound_of_nodeNum hpacked hsize
  merged _ _ _ _ ha _ hmerged := ha.merge hmerged

theorem LutDoc.Fits.yields {doc : LutDoc} (h : doc.Fits hw) : doc.Yields hw fun _ => DatNode.Sound := by
  intro m hm node hnode v hv hhas n hpacked
  obtain ⟨sub, hsub⟩ := Option.isSome_iff_exists.mp hhas
  refine packNew_sound hpacked ?_
  rw [hsub]
  exact h m hm node hnode v hv sub hsub

variable {layer : Int} {module module' : WcgModule}

theorem parseWcgEntry_sound {entry : WcgEntry}
    (h : ∀ item ∈ module.data, item.2.Sound) (hnext : parseWcgEntry hw layer module entry = some module') :
    ∀ item ∈ module'.data, item.2.Sound := by
  unfold parseWcgEntry at hnext
  split at hnext
  · obtain ⟨packed, hpacked, hassigned⟩ := unbind hnext
    obtain ⟨node, hnode, hstored⟩ := unbind hassigned
    clear hnext hassigned
    obtain ⟨rfl, hdata⟩ := assign_eq hnode
    have hsound : node.Sound := by
      rcases packNew_cases hpacked with ⟨-, hsound⟩ | ⟨-, rfl⟩
      · exact hsound
      · cases hdata
    split at hstored
    · cases hstored
    · split at hstored
      · cases hstored
        exact h
      · cases hstored
        intro item hitem
        rcases List.mem_append.mp hitem with hitem | hitem
        · exact h item hitem
        · cases List.mem_singleton.mp hitem
          exact hsound
  · cases hnext
    exact h

variable {element : WcgElement}

theorem parseWcgMod_sound
    (h : ∀ item ∈ module.data, item.2.Sound) (hnext : parseWcgMod hw layer element module = some module') :
    ∀ item ∈ module'.data, item.2.Sound := by
  obtain ⟨filled, hfilled, hnext⟩ := unbind hnext
  cases hnext
  rw [parseInoutCustom_data]
  exact foldlM_keeps (P := fun module : WcgModule => ∀ item ∈ module.data, item.2.Sound)
    (fun _ _ _ _ hmodule => parseWcgEntry_sound hmodule) h hfilled

theorem parseWcgElement_sound {table table' : WcgTable} (h : table.Each DatNode.Sound)
    (hnext : parseWcgElement hw table element = some table') : table'.Each DatNode.Sound := by
  obtain ⟨⟨filled, module⟩, hfilled, hnext⟩ := unbind hnext
  cases hnext
  have hkept := foldlM_keeps (P := fun state : WcgTable × WcgModule =>
    state.1.Each DatNode.Sound ∧ ∀ item ∈ state.2.data, item.2.Sound) ?_ ⟨h, by nofun⟩ hfilled
  · exact hkept.1
  · rintro ⟨current, module⟩ next layer _ ⟨hcur, hmodule⟩ hstep
    obtain ⟨module', hmodule', hstep⟩ := unbind hstep
    have hsound := parseWcgMod_sound hmodule hmodule'
    split at hstep
    · cases hstep
      exact ⟨hcur, hsound⟩
    · cases hstep
      refine ⟨fun entry hentry => ?_, hsound⟩
      rcases List.mem_append.mp hentry with hentry | hentry
      · exact hcur entry hentry
      · cases List.mem_singleton.mp hentry
        exact hsound

theorem parseWcgMods_sound {elements : List WcgElement} {table : WcgTable} (h : parseWcgMods hw elements = some table) :
    table.Each DatNode.Sound :=
  foldlM_keeps (P := fun table => WcgTable.Each DatNode.Sound table)
    (fun _ _ _ _ htable => parseWcgElement_sound htable) (by nofun) h

end

end ExynosHal.Hdr
