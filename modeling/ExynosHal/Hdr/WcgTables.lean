import ExynosHal.Hdr.Documents
import ExynosHal.Library.Run

/-! # The WCG tables of a layer

One module object is filled for all layers of a `wcg-module` element, and what is in a table stays.
-/

namespace ExynosHal.Hdr
open Library.Run
open List (foldlM_cons forall_mem_cons mem_of_find?_eq_some)
open Option (bind_eq_bind bind_some isSome_iff_exists none_or or_none some_or)

namespace WcgEntry

def key (e : WcgEntry) : WcgSlot × String := (e.slot, e.subModName)

def packFor (hw : HwDoc) (layer : Int) (e : WcgEntry) : Option DatNode := hw.packNew layer e.subModName e.values

end WcgEntry

namespace WcgElement

def first (m : WcgElement) (key : WcgSlot × String) : Option WcgEntry := m.entries.find? fun e => e.key = key

def filled (hw : HwDoc) (m : WcgElement) (layers : List Int) (key : WcgSlot × String) : Option DatNode := do
  let e ← m.first key
  let layer ← layers.find? fun layer => hw.hasSubMod layer e.subModName
  e.packFor hw layer

end WcgElement

def FirstListed (elements : List WcgElement) (m : WcgElement) (layer : Int) : Prop :=
  ∃ before after, elements = before ++ m :: after ∧ (∀ e ∈ before, layer ∉ e.layers) ∧ layer ∈ m.layers

def PackedFor (hw : HwDoc) (table : WcgTable) (m : WcgElement) (layer : Int) : Prop :=
  ∃ module, table.lookup layer = some module ∧ (∀ key e, m.first key = some e → hw.hasSubMod layer e.subModName →
      ∃ node, e.packFor hw layer = some node ∧ module.data.lookup key = some node) ∧
    ∀ key node, module.data.lookup key = some node → hw.hasSubMod layer key.2

def Uniform (hw : HwDoc) (m : WcgElement) (layer : Int) : Prop := ∀ key e earlier, m.first key = some e →
    (m.layers.takeWhile (· ≠ layer)).find? (fun other => hw.hasSubMod other e.subModName) = some earlier →
    hw.hasSubMod layer e.subModName ∧ e.packFor hw earlier = e.packFor hw layer

section
variable {hw : HwDoc} {layer : Int}

theorem lookup_single {α β : Type} [BEq α] [LawfulBEq α] [DecidableEq α] (key : α) (value : β) (other : α) :
    [(key, value)].lookup other = if key = other then some value else none := by
  by_cases hkey : key = other
  · rw [if_pos hkey, hkey, List.lookup_cons_self]
  · rw [if_neg hkey, List.lookup_cons, beq_false_of_ne (Ne.symm hkey), List.lookup_nil]

variable {module module' : WcgModule}

theorem parseWcgEntry_lookup {e : WcgEntry} (h : parseWcgEntry hw layer module e = some module') :
    (hw.hasSubMod layer e.subModName → (e.packFor hw layer).isSome) ∧
      ∀ key, module'.data.lookup key = (module.data.lookup key).or
        (if e.key = key ∧ hw.hasSubMod layer e.subModName then e.packFor hw layer else none) := by
  unfold parseWcgEntry at h
  split at h
  · rename_i hhas
    obtain ⟨packed, hpacked, h⟩ := unbind h
    obtain ⟨node, hnode, h⟩ := unbind h
    have hpackFor : e.packFor hw layer = some packed := hpacked
    obtain ⟨data, -, rfl⟩ := Option.map_eq_some_iff.mp hnode
    refine ⟨fun _ => by rw [hpackFor]; rfl, fun key => ?_⟩
    rw [hpackFor]
    split at h
    · cases h
    · split at h
      · rename_i stored hstored
        cases h
        by_cases hkey : e.key = key
        · rw [← hkey, show module.data.lookup e.key = some stored from hstored, some_or]
        · rw [if_neg (fun hboth => hkey hboth.1), or_none]
      · rename_i hnone
        cases h
        show (module.data ++ [(e.key, packed)]).lookup key = _
        rw [List.lookup_append, lookup_single]
        by_cases hkey : e.key = key
        · rw [if_pos hkey, if_pos ⟨hkey, hhas⟩]
        · rw [if_neg hkey, if_neg (fun hboth => hkey hboth.1)]
  · rename_i hnot
    cases h
    exact ⟨fun hhas => absurd hhas hnot, fun key => by rw [if_neg (fun hboth => hnot hboth.2), or_none]⟩

theorem parseWcgEntries_lookup {entries : List WcgEntry}
    (h : entries.foldlM (parseWcgEntry hw layer) module = some module') :
    (∀ e ∈ entries, hw.hasSubMod layer e.subModName → (e.packFor hw layer).isSome) ∧
      ∀ key, module'.data.lookup key = (module.data.lookup key).or ((entries.find? fun e => e.key = key).bind fun e =>
          if hw.hasSubMod layer e.subModName then e.packFor hw layer else none) := by
  induction entries generalizing module with
  | nil =>
    cases h
    exact ⟨nofun, fun key => (or_none).symm⟩
  | cons e entries ih =>
    rw [foldlM_cons] at h
    obtain ⟨next, hnext, h⟩ := unbind h
    obtain ⟨hsome, hlookup⟩ := parseWcgEntry_lookup hnext
    obtain ⟨hrest, hlookups⟩ := ih h
    refine ⟨forall_mem_cons.mpr ⟨hsome, hrest⟩, fun key => ?_⟩
    rw [hlookups, hlookup, List.find?_cons]
    by_cases hkey : e.key = key
    · rw [Option.or_assoc]
      simp only [hkey, true_and, decide_true, bind_some]
      split
      · rename_i hhas
        obtain ⟨node, hnode⟩ := isSome_iff_exists.mp (hsome hhas)
        rw [hnode, some_or]
      · -- A later entry for the key is for the same submodule, which the layer does not have.
        rename_i hnot
        have hlater : ((entries.find? fun e => e.key = key).bind fun e =>
            if hw.hasSubMod layer e.subModName then e.packFor hw layer else none) = none := by
          rw [Option.bind_eq_none_iff]
          intro later hfound
          have hlater := List.find?_some hfound
          have hname : later.subModName = e.subModName := by
            have hkeys : later.key = e.key := by simpa [hkey] using hlater
            exact congrArg Prod.snd hkeys
          rw [hname, if_neg hnot]
        rw [hlater, none_or]
    · simp [hkey]

structure FilledBy (hw : HwDoc) (m : WcgElement) (layers : List Int) (module : WcgModule) : Prop where
  packed : ∀ other ∈ layers, ∀ e ∈ m.entries, hw.hasSubMod other e.subModName → (e.packFor hw other).isSome
  lookup : ∀ key, module.data.lookup key = m.filled hw layers key

theorem FilledBy.empty (m : WcgElement) : FilledBy hw m [] {} := by
  refine ⟨nofun, fun key => ?_⟩
  unfold WcgElement.filled
  cases m.first key <;> rfl

variable {m : WcgElement}

theorem FilledBy.parseWcgMod {layers : List Int}
    (hfilled : FilledBy hw m layers module) (h : parseWcgMod hw layer m module = some module') :
    FilledBy hw m (layers ++ [layer]) module' := by
  obtain ⟨next, hnext, h⟩ := unbind h
  cases h
  obtain ⟨hsome, hlookup⟩ := parseWcgEntries_lookup hnext
  constructor
  · intro other hother
    rcases List.mem_append.mp hother with hother | hother
    · exact hfilled.packed other hother
    · rw [List.mem_singleton.mp hother]
      exact hsome
  · intro key
    rw [parseInoutCustom_data, hlookup, hfilled.lookup]
    unfold WcgElement.filled WcgElement.first
    cases hfst : m.entries.find? fun e => e.key = key with
    | none => rfl
    | some e =>
      simp only [bind_eq_bind, bind_some, List.find?_append]
      cases hfound : layers.find? fun other => hw.hasSubMod other e.subModName with
      | none =>
        rw [Option.bind_none, none_or, none_or, List.find?_singleton]
        split <;> rfl
      | some other =>
        have hhas : hw.hasSubMod other e.subModName := List.find?_some
            (p := fun other => hw.hasSubMod other e.subModName) hfound
        have hpacked := hfilled.packed other (mem_of_find?_eq_some hfound) e (mem_of_find?_eq_some hfst) hhas
        obtain ⟨node, hnode⟩ := isSome_iff_exists.mp hpacked
        rw [bind_some, some_or, bind_some, hnode, some_or]

variable {table table' : WcgTable}

theorem parseWcgLayers {read rest : List Int} (hfilled : FilledBy hw m read module)
    (h : rest.foldlM (fun (table, module) layer => do
      let module ← parseWcgMod hw layer m module
      match table.lookup layer with
      | some _ => some (table, module)
      | none => some (table ++ [(layer, module)], module)) (table, module) = some (table', module')) :
    (∀ layer module, table.lookup layer = some module → table'.lookup layer = some module) ∧
      ∀ layer, table.lookup layer = none →
        if layer ∈ rest then
          ∃ module, table'.lookup layer = some module ∧
          FilledBy hw m (read ++ rest.takeWhile (· ≠ layer) ++ [layer]) module
        else table'.lookup layer = none := by
  induction rest generalizing read table module with
  | nil =>
    cases h
    exact ⟨fun _ _ hlookup => hlookup, fun layer hnone => by rw [if_neg List.not_mem_nil]; exact hnone⟩
  | cons first rest ih =>
    rw [foldlM_cons] at h
    obtain ⟨⟨nextTable, next⟩, hnext, h⟩ := unbind h
    obtain ⟨filled, hparsed, hnext⟩ := unbind hnext
    have hnextFilled := hfilled.parseWcgMod hparsed
    split at hnext
    · rename_i stored hstored
      cases hnext
      obtain ⟨hkeeps, hadds⟩ := ih hnextFilled h
      refine ⟨hkeeps, fun layer hnone => ?_⟩
      have hne : first ≠ layer := by
        rintro rfl
        rw [hnone] at hstored
        cases hstored
      have hrest := hadds layer hnone
      simpa [hne, Ne.symm hne] using hrest
    · rename_i hfresh
      cases hnext
      obtain ⟨hkeeps, hadds⟩ := ih hnextFilled h
      have happended : ∀ layer, (table ++ [(first, next)]).lookup layer =
          (table.lookup layer).or (if first = layer then some next else none) := by
        intro layer
        rw [List.lookup_append, lookup_single]
      constructor
      · intro layer module hlookup
        refine hkeeps layer module ?_
        rw [happended, hlookup, some_or]
      · intro layer hnone
        by_cases hlayer : first = layer
        · refine (if_pos (by simp [hlayer])).mpr ⟨next, hkeeps layer next ?_, ?_⟩
          · rw [happended, hnone, if_pos hlayer, none_or]
          · rw [← hlayer]
            simpa using hnextFilled
        · have hrest := hadds layer (by rw [happended, hnone, if_neg hlayer, none_or])
          simpa [hlayer, Ne.symm hlayer] using hrest

theorem parseWcgElement_lookup (h : parseWcgElement hw table m = some table') :
    (∀ layer module, table.lookup layer = some module → table'.lookup layer = some module) ∧
      ∀ layer, table.lookup layer = none →
        if layer ∈ m.layers then
          ∃ module, table'.lookup layer = some module ∧ FilledBy hw m (m.layers.takeWhile (· ≠ layer) ++ [layer]) module
        else table'.lookup layer = none := by
  obtain ⟨⟨filled, module⟩, hfilled, h⟩ := unbind h
  cases h
  obtain ⟨hkeeps, hadds⟩ := parseWcgLayers (.empty m) hfilled
  refine ⟨hkeeps, fun layer hnone => ?_⟩
  simpa using hadds layer hnone

variable {elements : List WcgElement}

theorem parseWcgElements_lookup (h : elements.foldlM (parseWcgElement hw) table = some table') :
    (∀ layer module, table.lookup layer = some module → table'.lookup layer = some module) ∧
      ∀ m layer, table.lookup layer = none → FirstListed elements m layer →
        ∃ module, table'.lookup layer = some module ∧
        FilledBy hw m (m.layers.takeWhile (· ≠ layer) ++ [layer]) module := by
  induction elements generalizing table with
  | nil =>
    cases h
    refine ⟨fun _ _ hlookup => hlookup, ?_⟩
    rintro m layer - ⟨before, after, hempty, -⟩
    simp at hempty
  | cons element elements ih =>
    rw [foldlM_cons] at h
    obtain ⟨next, hnext, h⟩ := unbind h
    obtain ⟨hkeeps, hadds⟩ := parseWcgElement_lookup hnext
    obtain ⟨hkeeps', hadds'⟩ := ih h
    refine ⟨fun layer module hlookup => hkeeps' layer module (hkeeps layer module hlookup), ?_⟩
    rintro m layer hnone ⟨before, after, heq, hbefore, hlisted⟩
    have hhere := hadds layer hnone
    cases before with
    | nil =>
      obtain ⟨rfl, rfl⟩ := List.cons.inj heq
      obtain ⟨module, hmodule, hfilled⟩ := (if_pos hlisted).mp hhere
      exact ⟨module, hkeeps' layer module hmodule, hfilled⟩
    | cons skipped before =>
      obtain ⟨rfl, rfl⟩ := List.cons.inj heq
      obtain ⟨hskipped, hbefore⟩ := forall_mem_cons.mp hbefore
      exact hadds' m layer ((if_neg hskipped).mp hhere) ⟨before, after, rfl, hbefore, hlisted⟩

theorem firstListed_or (elements : List WcgElement) (layer : Int) :
    (∃ m, FirstListed elements m layer) ∨ ∀ e ∈ elements, layer ∉ e.layers := by
  induction elements with
  | nil => exact .inr nofun
  | cons element elements ih =>
    by_cases hlisted : layer ∈ element.layers
    · exact .inl ⟨element, [], elements, rfl, nofun, hlisted⟩
    · rcases ih with ⟨m, before, after, rfl, hbefore, hm⟩ | hnone
      · exact .inl ⟨m, element :: before, after, rfl, forall_mem_cons.mpr ⟨hlisted, hbefore⟩, hm⟩
      · exact .inr (forall_mem_cons.mpr ⟨hlisted, hnone⟩)

theorem parseWcgElements_unlisted
    (h : elements.foldlM (parseWcgElement hw) table = some table') (hnone : table.lookup layer = none)
    (hnot : ∀ e ∈ elements, layer ∉ e.layers) : table'.lookup layer = none := by
  refine foldlM_keeps (P := fun table : WcgTable => table.lookup layer = none) ?_ hnone h
  intro current next element helem hcur hnext
  exact (if_neg (hnot element helem)).mp ((parseWcgElement_lookup hnext).2 layer hcur)

theorem filledBy_of_lookup (hinit : parseWcgMods hw elements = some table) (h : table.lookup layer = some module) :
    ∃ m, FirstListed elements m layer ∧ FilledBy hw m (m.layers.takeWhile (· ≠ layer) ++ [layer]) module := by
  rcases firstListed_or elements layer with ⟨m, hm⟩ | hnot
  · obtain ⟨module', hmodule', hfilled⟩ := (parseWcgElements_lookup hinit).2 m layer rfl hm
    rw [h] at hmodule'
    cases hmodule'
    exact ⟨m, hm, hfilled⟩
  · rw [parseWcgElements_unlisted hinit rfl hnot] at h
    cases h

theorem FilledBy.packedFor_iff (hfilled : FilledBy hw m (m.layers.takeWhile (· ≠ layer) ++ [layer]) module)
    (hmodule : table.lookup layer = some module) : PackedFor hw table m layer ↔ Uniform hw m layer := by
  have hpacked : ∀ key e, m.first key = some e → hw.hasSubMod layer e.subModName → (e.packFor hw layer).isSome := by
    intro key e hfst hhas
    exact hfilled.packed layer (by simp) e (mem_of_find?_eq_some hfst) hhas
  have hkey : ∀ key e, m.first key = some e → e.subModName = key.2 := by
    intro key e hfst
    have heq : e.key = key := by simpa using List.find?_some hfst
    exact congrArg Prod.snd heq
  constructor
  · rintro ⟨module', hmodule', hgiven, hnone⟩ key e earlier hfst hearlier
    rw [hmodule] at hmodule'
    cases hmodule'
    have hlookup : module.data.lookup key = e.packFor hw earlier := by
      rw [hfilled.lookup, WcgElement.filled, hfst]
      simp only [bind_eq_bind, bind_some, List.find?_append, hearlier, some_or]
    have hearlierHas : hw.hasSubMod earlier e.subModName :=
      List.find?_some (p := fun other => hw.hasSubMod other e.subModName) hearlier
    have hearlierMem := List.mem_append_left [layer] (mem_of_find?_eq_some hearlier)
    obtain ⟨node, hnode⟩ := isSome_iff_exists.mp
      (hfilled.packed earlier hearlierMem e (mem_of_find?_eq_some hfst) hearlierHas)
    have hhas : hw.hasSubMod layer e.subModName := by
      rw [hkey key e hfst]
      exact hnone key node (hlookup.trans hnode)
    obtain ⟨own, hown, hstored⟩ := hgiven key e hfst hhas
    exact ⟨hhas, by rw [← hlookup, hstored, hown]⟩
  · intro huniform
    have hlookup : ∀ key e, m.first key = some e → module.data.lookup key =
        if hw.hasSubMod layer e.subModName then e.packFor hw layer else none := by
      intro key e hfst
      rw [hfilled.lookup, WcgElement.filled, hfst]
      simp only [bind_eq_bind, bind_some, List.find?_append]
      cases hfound : (m.layers.takeWhile (· ≠ layer)).find? fun other => hw.hasSubMod other e.subModName with
      | none =>
        rw [none_or, List.find?_singleton]
        split <;> rfl
      | some earlier =>
        obtain ⟨hhas, hsame⟩ := huniform key e earlier hfst hfound
        rw [some_or, bind_some, if_pos hhas, hsame]
    refine ⟨module, hmodule, fun key e hfst hhas => ?_, fun key node hstored => ?_⟩
    · obtain ⟨node, hnode⟩ := isSome_iff_exists.mp (hpacked key e hfst hhas)
      exact ⟨node, hnode, by rw [hlookup key e hfst, if_pos hhas, hnode]⟩
    · cases hfst : m.first key with
      | none =>
        rw [hfilled.lookup, WcgElement.filled, hfst] at hstored
        cases hstored
      | some e =>
        rw [hlookup key e hfst] at hstored
        split at hstored
        · rename_i hhas
          rw [← hkey key e hfst]
          exact hhas
        · cases hstored

end

/-- After `init`, the tables of all layers are packed for them just where no layer of an element takes over what an
earlier one has packed in another way or for a submodule of its own. -/
theorem packedFor_iff_uniform {hw : HwDoc} {elements : List WcgElement} {table : WcgTable}
    (hinit : parseWcgMods hw elements = some table) :
    (∀ m layer, FirstListed elements m layer → PackedFor hw table m layer) ↔
      ∀ m layer, FirstListed elements m layer → Uniform hw m layer := by
  obtain ⟨-, hlisted⟩ := parseWcgElements_lookup hinit
  have hiff : ∀ m layer, FirstListed elements m layer → (PackedFor hw table m layer ↔ Uniform hw m layer) := by
    intro m layer hfst
    obtain ⟨module, hmodule, hfilled⟩ := hlisted m layer rfl hfst
    exact hfilled.packedFor_iff hmodule
  exact ⟨fun h m layer hfst => (hiff m layer hfst).mp (h m layer hfst),
    fun h m layer hfst => (hiff m layer hfst).mpr (h m layer hfst)⟩

def enableModule (layer : Int) (regOffset : U32) : HwModule := {
    ids := [layer]
    subModules :=
      [("en", { numNodes := 1, numNodesPerReg := 1, bitOffsets := [0], masks := [1], regOffset, regNum := 1 })] }

def enableElement : WcgElement := { layers := [0, 1], entries := [⟨.modEn true, "en", [1]⟩], custom := [] }

def enableTable : WcgTable :=
  let node : DatNode := { header := ⟨0x10, 1, hdrLutMagic⟩, data := some [some 1] }
  [(0, { data := [((.modEn true, "en"), node)] }), (1, { data := [((.modEn true, "en"), node)] })]

theorem firstListed_singleton {m m' : WcgElement} {layer : Int} (h : FirstListed [m] m' layer) :
    m' = m ∧ layer ∈ m.layers := by
  obtain ⟨before, after, heq, -, hlisted⟩ := h
  cases before with
  | nil =>
    obtain ⟨rfl, -⟩ := List.cons.inj heq
    exact ⟨rfl, hlisted⟩
  | cons skipped before => simp at heq

theorem packedFor_iff_uniform_sameOffset :
    PackedFor [enableModule 0 0x10, enableModule 1 0x10] enableTable enableElement 1 := by
  have hinit : parseWcgMods [enableModule 0 0x10, enableModule 1 0x10] [enableElement] = some enableTable := rfl
  refine (packedFor_iff_uniform hinit).mpr ?_ enableElement 1 ⟨[], [], rfl, nofun, by decide⟩
  rintro m layer hlisted key e earlier hfst hearlier
  obtain ⟨rfl, hlayer⟩ := firstListed_singleton hlisted
  obtain rfl := List.mem_singleton.mp (mem_of_find?_eq_some hfst)
  have hearlierLayer := (List.takeWhile_prefix _).subset (mem_of_find?_eq_some hearlier)
  simp only [enableElement, List.mem_cons, List.not_mem_nil, or_false] at hlayer hearlierLayer
  rcases hlayer with rfl | rfl <;> rcases hearlierLayer with rfl | rfl <;> exact ⟨rfl, rfl⟩

theorem not_packedFor_otherOffset :
    ¬∀ (hw : HwDoc) (elements : List WcgElement) (table : WcgTable), parseWcgMods hw elements = some table →
      ∀ m layer, FirstListed elements m layer → PackedFor hw table m layer := by
  intro h
  have hinit : parseWcgMods [enableModule 0 0x10, enableModule 1 0x20] [enableElement] = some enableTable := rfl
  obtain ⟨module, hmodule, hgiven, -⟩ := h _ _ _ hinit enableElement 1 ⟨[], [], rfl, nofun, by decide⟩
  cases hmodule
  obtain ⟨node, hnode, hstored⟩ := hgiven (.modEn true, "en") ⟨.modEn true, "en", [1]⟩ rfl rfl
  rw [show WcgEntry.packFor _ _ _ = some { header := ⟨0x20, 1, hdrLutMagic⟩, data := some [some 1] } from rfl] at hnode
  cases hnode
  exact absurd hstored (by decide)

end ExynosHal.Hdr
