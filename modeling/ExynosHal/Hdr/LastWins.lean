import ExynosHal.Hdr.Images
import ExynosHal.Hdr.Packing

/-! # The last value for a submodule

A build-up queues base values and overrides.
-/

namespace ExynosHal.Hdr
open Library.Run
open List (flatten_cons flatten_nil mem_filter mem_map mem_map_of_mem mem_reverse nil_append)
open BitVec (eq_of_getLsbD_eq getLsbD_and getLsbD_or)

namespace SubModule

variable (sub : SubModule)

def fieldsAt (i : Nat) : Nat :=
  let full := (sub.numNodes.tdiv sub.numNodesPerReg).toNat
  if i < full then sub.perReg
  else if i = full then (sub.numNodes.tmod sub.numNodesPerReg).toNat
  else 0

def regMask (i : Nat) : U32 := (List.range (sub.fieldsAt i)).foldl (fun mask j => mask ||| sub.fieldMask j) 0

def packedRegs : Nat :=
  (sub.numNodes.tdiv sub.numNodesPerReg).toNat + if (sub.numNodes.tmod sub.numNodesPerReg).toNat = 0 then 0 else 1

def registers : U32 × U32 × Int := (sub.regOffset, sub.regNum, sub.groupId)

variable {sub}

theorem getLsbD_regMask (i b : Nat) :
    (sub.regMask i).getLsbD b ↔ ∃ j < sub.fieldsAt i, (sub.fieldMask j).getLsbD b := by
  rw [regMask, getLsbD_foldl_or]
  simp

variable {lut : List U32}

theorem getLsbD_field {nth j b : Nat} {value : U32} (h : sub.field lut nth j = some value)
    (hb : value.getLsbD b) : (sub.fieldMask j).getLsbD b := by
  obtain ⟨entry, -, h⟩ := unbind h
  obtain ⟨mask, hmask, h⟩ := unbind h
  obtain ⟨offset, hoff, h⟩ := unbind h
  obtain ⟨-, h⟩ := Option.ite_none_right_eq_some.mp h
  cases h
  rw [fieldMask, SubModule.mask, bitOffset, List.getD_eq_getElem?_getD, hmask, List.getD_eq_getElem?_getD, hoff]
  simp only [BitVec.getLsbD_shiftLeft, getLsbD_and, Bool.and_eq_true, Option.getD_some] at hb ⊢
  tauto

theorem getLsbD_packOne {nth count b : Nat} {word : U32}
    (h : sub.packOne lut nth count = some word) (hb : word.getLsbD b) : ∃ j < count, (sub.fieldMask j).getLsbD b := by
  have hfold : ∀ (js : List Nat) (start : U32),
      js.foldlM (fun packed j => (sub.field lut nth j).map (packed ||| ·)) start = some word →
      start.getLsbD b ∨ ∃ j ∈ js, (sub.fieldMask j).getLsbD b := by
    intro js
    induction js with
    | nil =>
      intro start h
      cases h
      exact .inl hb
    | cons j js ih =>
      intro start h
      rw [List.foldlM_cons] at h
      obtain ⟨next, hnext, h⟩ := unbind h
      obtain ⟨value, hval, rfl⟩ := Option.map_eq_some_iff.mp hnext
      rcases ih _ h with hstart | ⟨j', hj', hbit⟩
      · rw [getLsbD_or, Bool.or_eq_true] at hstart
        exact hstart.imp id fun hbit => ⟨j, List.mem_cons_self, getLsbD_field hval hbit⟩
      · exact .inr ⟨j', List.mem_cons_of_mem _ hj', hbit⟩
  rcases hfold _ 0 h with hzero | ⟨j, hj, hbit⟩
  · simp at hzero
  · refine ⟨j, ?_, hbit⟩
    split at hj
    · exact List.mem_range.mp hj
    · exact List.mem_range.mp (mem_reverse.mp hj)

theorem packWords_spec {lut words : List U32} (h : sub.packWords lut = some words) :
    words.length = sub.packedRegs ∧ ∀ i word, words[i]? = some word → ∀ b, word.getLsbD b →
    (sub.regMask i).getLsbD b := by
  unfold packWords at h
  split at h
  · cases h
  · obtain ⟨full, hfull, h⟩ := unbind h
    obtain ⟨hlen, hwords⟩ := getElem?_of_mapM hfull
    rw [List.length_range] at hlen
    have hfullBits : ∀ i word, full[i]? = some word → ∀ b, word.getLsbD b → (sub.regMask i).getLsbD b := by
      intro i word hword b hb
      obtain ⟨i', hi', hpacked⟩ := hwords i word hword
      obtain ⟨hi, rfl⟩ := List.getElem?_eq_some_iff.mp hi'
      rw [List.length_range] at hi
      rw [getLsbD_regMask, fieldsAt, if_pos hi]
      exact getLsbD_packOne hpacked hb
    split at h
    · rename_i hnone
      cases h
      refine ⟨?_, hfullBits⟩
      rw [hlen, packedRegs, if_pos hnone, Nat.add_zero]
    · rename_i hrest
      obtain ⟨last, hlast, h⟩ := unbind h
      cases h
      refine ⟨?_, fun i word hword b hb => ?_⟩
      · rw [List.length_append, hlen, packedRegs, if_neg hrest, List.length_singleton]
      · rcases Nat.lt_or_ge i full.length with hi | hi
        · rw [List.getElem?_append_left hi] at hword
          exact hfullBits i word hword b hb
        · rw [List.getElem?_append_right hi] at hword
          obtain ⟨hi', hword⟩ := List.getElem?_eq_some_iff.mp hword
          obtain rfl : i = full.length := by
            rw [List.length_singleton] at hi'
            omega
          have hlastWord : last = word := by simpa using hword
          rw [getLsbD_regMask, fieldsAt, hlen, if_neg (lt_irrefl _), if_pos rfl]
          exact getLsbD_packOne hlast (hlastWord ▸ hb)

end SubModule

namespace HwDoc

variable {hw : HwDoc} {layer : Int} {name : String} {sub : SubModule} {lut : List U32} {node : DatNode}

theorem packNew_spec (hsub : hw.subModule? layer name = some sub) (hlut : (lut.length : Int) = sub.numNodes)
    (h : hw.packNew layer name lut = some node) :
    node.header = ⟨sub.regOffset, sub.regNum, hdrLutMagic⟩ ∧ node.groupId = sub.groupId ∧
      (∀ i, (node.word i).isSome ↔ i < sub.packedRegs) ∧
      ∀ i b, ((node.word i).getD 0).getLsbD b → (sub.regMask i).getLsbD b := by
  obtain ⟨⟨ret, packed⟩, hpack, h⟩ := unbind h
  cases h
  rw [pack, hsub, Option.getD_some, SubModule.pack, if_pos hlut] at hpack
  obtain ⟨words, hwords, hpack⟩ := unbind hpack
  obtain ⟨filled, hfilled, hpack⟩ := unbind hpack
  cases hpack
  obtain ⟨hlen, hbits⟩ := SubModule.packWords_spec hwords
  -- The words in front, and a fresh buffer behind them.
  obtain ⟨hhdr, hword⟩ : filled.header = ⟨sub.regOffset, sub.regNum, hdrLutMagic⟩ ∧
      ∀ i, filled.word i = words[i]? := by
    unfold DatNode.setData at hfilled
    split at hfilled
    · rename_i hdata
      obtain ⟨rfl, hfilled⟩ := Option.ite_none_right_eq_some.mp hfilled
      cases hfilled
      exact ⟨rfl, fun i => by rw [DatNode.word, hdata]; rfl⟩
    · rename_i data hdata
      obtain ⟨hfits, hfilled⟩ := Option.ite_none_right_eq_some.mp hfilled
      cases hfilled
      refine ⟨rfl, fun i => ?_⟩
      have hfresh : ∀ word ∈ data, word = none := by
        unfold DatNode.setHeader at hdata
        dsimp only at hdata
        split at hdata
        · cases hdata
        · cases hdata
          exact fun word hword => List.eq_of_mem_replicate hword
      show ((words.map some ++ data.drop words.length)[i]?).join = words[i]?
      rcases Nat.lt_or_ge i words.length with hi | hi
      · rw [List.getElem?_append_left (by simpa using hi), List.getElem?_map, List.getElem?_eq_getElem hi]
        rfl
      · rw [List.getElem?_append_right (by simpa using hi), List.getElem?_eq_none hi]
        cases hbehind : (data.drop words.length)[i - (words.map some).length]? with
        | none => rfl
        | some word => rw [hfresh word (List.mem_of_mem_drop (List.mem_of_getElem? hbehind))]; rfl
  refine ⟨hhdr, rfl, fun i => ?_, fun i b hb => ?_⟩
  · show (filled.word i).isSome ↔ _
    rw [hword, ← hlen]
    simp
  · have hb : ((filled.word i).getD 0).getLsbD b := hb
    rw [hword] at hb
    cases hget : words[i]? with
    | none => simp [hget] at hb
    | some word =>
      rw [hget] at hb
      exact hbits i word hget b hb

end HwDoc

abbrev Pair := String × List U32

def buildUp (hw : HwDoc) (layer : Int) (order : List Int → List Int) (stages : List (List Pair)) : Option Lists := do
  let nodes ← stages.mapM fun stage => stage.mapM fun p => hw.packNew layer p.1 p.2
  let lists ← ({} : Lists).queueStages order nodes
  some lists.cleanDuplicate

structure FieldsApart (hw : HwDoc) (layer : Int) : Prop where
  disjoint : ∀ name name' sub sub', hw.subModule? layer name = some sub → hw.subModule? layer name' = some sub' →
    name ≠ name' → sub.registers = sub'.registers → ∀ i, sub.regMask i &&& sub'.regMask i = 0
  group : ∀ name name' sub sub', hw.subModule? layer name = some sub → hw.subModule? layer name' = some sub' →
    0 ≤ sub.groupId → sub.groupId = sub'.groupId → sub.regOffset = sub'.regOffset ∧ sub.regNum = sub'.regNum

def Packable (hw : HwDoc) (layer : Int) (p : Pair) : Prop :=
  ∃ sub, hw.subModule? layer p.1 = some sub ∧ (p.2.length : Int) = sub.numNodes

section
variable (hw : HwDoc) (layer : Int)

def packedWord (p : Pair) (i : Nat) : U32 := (((hw.packNew layer p.1 p.2).bind fun node => node.word i)).getD 0

def sharingPairs (pairs : List Pair) (sub : SubModule) : List Pair :=
  if sub.groupId < 0 then
    ((pairs.filter fun p => (hw.subModule? layer p.1).map SubModule.registers = some sub.registers).getLast?).toList
  else pairs.filter fun p => (hw.subModule? layer p.1).map SubModule.groupId = some sub.groupId

structure LastWins (pairs : List Pair) (lists : Lists) : Prop where
  once : (lists.shall.map lists.registers).Nodup
  wins : ∀ name sub lut, hw.subModule? layer name = some sub → pairs.reverse.lookup name = some lut →
    ∃ r ∈ lists.shall, ∃ sent, lists.deref r = some sent ∧ lists.registers r = some sub.registers ∧
      ∀ i < sub.packedRegs, ∃ word, sent.word i = some word ∧ word &&& sub.regMask i = packedWord hw layer (name, lut) i

structure Overrides (pairs : List Pair) (name : String) (sub : SubModule) (lut : List U32) : Prop where
  /-- Every submodule in the entry writes the registers of this one. -/
  written : ∀ p ∈ sharingPairs hw layer pairs sub, ∀ other, hw.subModule? layer p.1 = some other →
    sub.packedRegs ≤ other.packedRegs
  /-- No value of the submodule in the entry has a bit that the last one clears. -/
  monotone : ∀ p ∈ sharingPairs hw layer pairs sub, p.1 = name → ∀ i < sub.packedRegs,
    packedWord hw layer p i ||| packedWord hw layer (name, lut) i = packedWord hw layer (name, lut) i
  /-- Where another submodule has taken the entry over, the last value is all zeros. -/
  own : (∀ p ∈ sharingPairs hw layer pairs sub, p.1 ≠ name) → ∀ i < sub.packedRegs, packedWord hw layer (name, lut) i =
    0

end

variable {α β : Type} {f : α → Option β} (d : β)

theorem mapM_eq_map_getD {xs : List α} {ys : List β} (h : xs.mapM f = some ys) :
    ys = xs.map (fun x => (f x).getD d) ∧ ∀ x ∈ xs, (f x).isSome := by
  induction xs generalizing ys with
  | nil =>
    cases h
    exact ⟨rfl, nofun⟩
  | cons x xs ih =>
    rw [List.mapM_cons] at h
    obtain ⟨first, hfst, h⟩ := unbind h
    obtain ⟨rest, hrest, h⟩ := unbind h
    cases h
    obtain ⟨rfl, hall⟩ := ih hrest
    refine ⟨by rw [List.map_cons, hfst]; rfl, List.forall_mem_cons.mpr ⟨by rw [hfst]; rfl, hall⟩⟩

theorem flatten_mapM_mapM {xss : List (List α)} {yss : List (List β)} (h : (xss.mapM fun xs => xs.mapM f) = some yss) :
    yss.flatten = xss.flatten.map (fun x => (f x).getD d) ∧ ∀ x ∈ xss.flatten, (f x).isSome := by
  induction xss generalizing yss with
  | nil =>
    cases h
    exact ⟨rfl, nofun⟩
  | cons xs xss ih =>
    rw [List.mapM_cons] at h
    obtain ⟨first, hfst, h⟩ := unbind h
    obtain ⟨rest, hrest, h⟩ := unbind h
    cases h
    obtain ⟨hflatten, hall⟩ := ih hrest
    obtain ⟨rfl, hfstAll⟩ := mapM_eq_map_getD d hfst
    refine ⟨by rw [flatten_cons, flatten_cons, List.map_append, hflatten], fun x hx => ?_⟩
    rw [flatten_cons] at hx
    rcases List.mem_append.mp hx with hx | hx
    · exact hfstAll x hx
    · exact hall x hx

section
variable {hw : HwDoc} {layer : Int} {pairs : List Pair}

def packedNode (hw : HwDoc) (layer : Int) (p : Pair) : DatNode := (hw.packNew layer p.1 p.2).getD {}

structure PackedPair (hw : HwDoc) (layer : Int) (p : Pair) (sub : SubModule) : Prop where
  subModule : hw.subModule? layer p.1 = some sub
  header : (packedNode hw layer p).header = ⟨sub.regOffset, sub.regNum, hdrLutMagic⟩
  groupId : (packedNode hw layer p).groupId = sub.groupId
  written : ∀ i, ((packedNode hw layer p).word i).isSome ↔ i < sub.packedRegs
  word : ∀ i, ((packedNode hw layer p).word i).getD 0 = packedWord hw layer p i
  bits : ∀ i b, (packedWord hw layer p i).getLsbD b → (sub.regMask i).getLsbD b

variable {p : Pair}

theorem PackedPair.of_packable (hp : Packable hw layer p) (hsome : (hw.packNew layer p.1 p.2).isSome) :
    ∃ sub, PackedPair hw layer p sub := by
  obtain ⟨sub, hsub, hlut⟩ := hp
  obtain ⟨node, hnode⟩ := Option.isSome_iff_exists.mp hsome
  obtain ⟨hhdr, hgroupId, hwritten, hbits⟩ := hw.packNew_spec hsub hlut hnode
  have hpacked : packedNode hw layer p = node := by rw [packedNode, hnode]; rfl
  have hword : ∀ i, packedWord hw layer p i = (node.word i).getD 0 := by
    intro i
    rw [packedWord, hnode]
    rfl
  refine ⟨sub, hsub, ?_, ?_, ?_, ?_, fun i b hb => hbits i b (hword i ▸ hb)⟩
  · rw [hpacked, hhdr]
  · rw [hpacked, hgroupId]
  · rw [hpacked]
    exact hwritten
  · intro i
    rw [hpacked, hword]

variable {sub : SubModule}

theorem PackedPair.registers (h : PackedPair hw layer p sub) : (packedNode hw layer p).registers = sub.registers := by
  rw [DatNode.registers, h.header, h.groupId]
  rfl

variable (hpairs : ∀ p ∈ pairs, ∃ sub, PackedPair hw layer p sub)
include hpairs

theorem sharing_eq (hp : PackedPair hw layer p sub) :
    sharing (pairs.map (packedNode hw layer)) (packedNode hw layer p) =
      (sharingPairs hw layer pairs sub).map (packedNode hw layer) := by
  have hregs : (pairs.map (packedNode hw layer)).filter
      (fun other => other.registers = (packedNode hw layer p).registers) =
      (pairs.filter fun q => (hw.subModule? layer q.1).map SubModule.registers = some sub.registers).map
        (packedNode hw layer) := by
    rw [List.filter_map]
    congr 1
    refine List.filter_congr fun q hq => ?_
    obtain ⟨other, hother⟩ := hpairs q hq
    simp only [Function.comp_apply, hother.registers, hp.registers, hother.subModule, Option.map_some,
      Option.some.injEq]
  have hgroup : (pairs.map (packedNode hw layer)).filter
      (fun other => other.groupId = (packedNode hw layer p).groupId) =
      (pairs.filter fun q => (hw.subModule? layer q.1).map SubModule.groupId = some sub.groupId).map
        (packedNode hw layer) := by
    rw [List.filter_map]
    congr 1
    refine List.filter_congr fun q hq => ?_
    obtain ⟨other, hother⟩ := hpairs q hq
    simp only [Function.comp_apply, hother.groupId, hp.groupId, hother.subModule, Option.map_some, Option.some.injEq]
  rw [sharing, sharingPairs, hregs, hgroup, hp.groupId]
  split
  · rw [List.getLast?_map]
    cases (pairs.filter fun q => (hw.subModule? layer q.1).map SubModule.registers = some sub.registers).getLast? <;>
      rfl
  · rfl

theorem registers_of_sharing (hapart : FieldsApart hw layer) {p q : Pair}
    (hp : PackedPair hw layer p sub) (hq : q ∈ sharingPairs hw layer pairs sub) :
    q ∈ pairs ∧ ∃ other, PackedPair hw layer q other ∧ other.registers = sub.registers := by
  unfold sharingPairs at hq
  split at hq
  · have hq := List.mem_of_getLast? (Option.mem_toList.mp hq)
    obtain ⟨hmem, hsame⟩ := mem_filter.mp hq
    obtain ⟨other, hother⟩ := hpairs q hmem
    refine ⟨hmem, other, hother, ?_⟩
    simpa [hother.subModule] using hsame
  · rename_i hneg
    obtain ⟨hmem, hsame⟩ := mem_filter.mp hq
    obtain ⟨other, hother⟩ := hpairs q hmem
    have hgroupId : sub.groupId = other.groupId := by
      have hsame : other.groupId = sub.groupId := by simpa [hother.subModule] using hsame
      exact hsame.symm
    obtain ⟨hoff, hnum⟩ := hapart.group p.1 q.1 sub other hp.subModule hother.subModule (not_lt.mp hneg) hgroupId
    exact ⟨hmem, other, hother, by rw [SubModule.registers, SubModule.registers, hoff, hnum, hgroupId]⟩

variable {name : String} {lut : List U32}

omit hpairs in
theorem last_mem_sharing
    (hlast : pairs.reverse.lookup name = some lut) (hsub : hw.subModule? layer name = some sub) {q : Pair}
    (hq : q ∈ sharingPairs hw layer pairs sub) (hname : q.1 = name) :
    (name, lut) ∈ sharingPairs hw layer pairs sub := by
  obtain ⟨behind, front, hreverse, hbehind⟩ := List.lookup_eq_some_iff.mp hlast
  have hsplit : pairs = front.reverse ++ (name, lut) :: behind.reverse := by
    rw [← List.reverse_reverse pairs, hreverse]
    simp
  unfold sharingPairs at hq ⊢
  split at hq
  · rename_i hneg
    rw [if_pos hneg]
    rw [hsplit, List.filter_append, List.filter_cons_of_pos (by simp [hsub]), List.getLast?_append_of_ne_nil _
      (by simp)]
      at hq ⊢
    -- Behind the last value of the submodule there is none of its name.
    cases hrest : behind.reverse.filter fun p => (hw.subModule? layer p.1).map SubModule.registers =
      some sub.registers with
    | nil => simp
    | cons first rest =>
      rw [hrest, List.getLast?_cons_cons] at hq
      have hmem : q ∈ first :: rest := List.mem_of_getLast? (Option.mem_toList.mp hq)
      rw [← hrest] at hmem
      have hne := hbehind q (mem_reverse.mp (mem_filter.mp hmem).1)
      simp [hname] at hne
  · rename_i hneg
    rw [if_neg hneg, mem_filter]
    exact ⟨by rw [hsplit]; simp, by simp [hsub]⟩

theorem image_iff_overrides (hapart : FieldsApart hw layer)
    (hlast : pairs.reverse.lookup name = some lut) (hp : PackedPair hw layer (name, lut) sub) :
    (∀ i < sub.packedRegs, ∃ word, imageWord ((sharingPairs hw layer pairs sub).map (packedNode hw layer)) i =
      some word ∧
      word &&& sub.regMask i = packedWord hw layer (name, lut) i) ↔ Overrides hw layer pairs name sub lut := by
  have hshare := fun q hq => registers_of_sharing hpairs hapart (q := q) hp hq
  -- A bit of another submodule is in none of the fields of this one.
  have hforeign : ∀ q ∈ sharingPairs hw layer pairs sub, q.1 ≠ name → ∀ i b, (packedWord hw layer q i).getLsbD b →
      ¬(sub.regMask i).getLsbD b := by
    intro q hq hne i b hb hmask
    obtain ⟨-, other, hother, hregs⟩ := hshare q hq
    have hzero := congrArg (·.getLsbD b) (hapart.disjoint q.1 name other sub hother.subModule hp.subModule hne hregs i)
    simp [hother.bits i b hb, hmask] at hzero
  constructor
  · intro himage
    refine ⟨fun q hq other hsub => ?_, fun q hq hname i hi => ?_, fun hnone i hi => ?_⟩
    · obtain ⟨-, other', hother, -⟩ := hshare q hq
      obtain rfl := Option.some.inj (hsub.symm.trans hother.subModule)
      by_contra hlt
      obtain ⟨word, hword, -⟩ := himage other.packedRegs (not_le.mp hlt)
      have hsome := isSome_of_imageWord hword _ (mem_map_of_mem hq)
      exact lt_irrefl _ ((hother.written _).mp hsome)
    · obtain ⟨word, hword, hbits⟩ := himage i hi
      obtain ⟨word', hword', hor⟩ := imageWord_eq_some (isSome_of_imageWord hword)
      obtain rfl := Option.some.inj (hword.symm.trans hword')
      apply eq_of_getLsbD_eq
      intro b _
      rw [getLsbD_or, Bool.or_eq_right_iff_imp, ← hbits, getLsbD_and, Bool.and_eq_true]
      intro hb
      obtain ⟨-, other, hother, -⟩ := hshare q hq
      obtain rfl : sub = other := by
        have hsame := hother.subModule
        rw [hname, hp.subModule] at hsame
        exact Option.some.inj hsame
      refine ⟨(hor b).mpr ⟨_, mem_map_of_mem hq, ?_⟩, hother.bits i b hb⟩
      rw [hother.word]
      exact hb
    · obtain ⟨word, hword, hbits⟩ := himage i hi
      obtain ⟨word', hword', hor⟩ := imageWord_eq_some (isSome_of_imageWord hword)
      obtain rfl := Option.some.inj (hword.symm.trans hword')
      rw [← hbits]
      apply eq_of_getLsbD_eq
      intro b _
      show (word &&& sub.regMask i).getLsbD b = (0#32).getLsbD b
      rw [BitVec.getLsbD_zero, getLsbD_and, ← Bool.not_eq_true, Bool.and_eq_true]
      rintro ⟨hb, hmask⟩
      obtain ⟨node, hnode, hbit⟩ := (hor b).mp hb
      obtain ⟨q, hq, rfl⟩ := mem_map.mp hnode
      obtain ⟨-, other, hother, -⟩ := hshare q hq
      rw [hother.word] at hbit
      exact hforeign q hq (hnone q hq) i b hbit hmask
  · rintro ⟨hwritten, hmonotone, hown⟩ i hi
    have hsome : ∀ node ∈ (sharingPairs hw layer pairs sub).map (packedNode hw layer), (node.word i).isSome := by
      intro node hnode
      obtain ⟨q, hq, rfl⟩ := mem_map.mp hnode
      obtain ⟨-, other, hother, -⟩ := hshare q hq
      exact (hother.written i).mpr (lt_of_lt_of_le hi (hwritten q hq other hother.subModule))
    obtain ⟨word, hword, hor⟩ := imageWord_eq_some hsome
    refine ⟨word, hword, ?_⟩
    apply eq_of_getLsbD_eq
    intro b _
    rw [getLsbD_and, Bool.eq_iff_iff, Bool.and_eq_true, hor]
    constructor
    · rintro ⟨⟨node, hnode, hbit⟩, hmask⟩
      obtain ⟨q, hq, rfl⟩ := mem_map.mp hnode
      obtain ⟨-, other, hother, -⟩ := hshare q hq
      rw [hother.word] at hbit
      by_cases hname : q.1 = name
      · rw [← hmonotone q hq hname i hi, getLsbD_or, hbit, Bool.true_or]
      · exact absurd hmask (hforeign q hq hname i b hbit)
    · intro hb
      refine ⟨?_, hp.bits i b hb⟩
      by_cases hsome : ∃ q ∈ sharingPairs hw layer pairs sub, q.1 = name
      · obtain ⟨q, hq, hname⟩ := hsome
        have hmem := last_mem_sharing hlast hp.subModule hq hname
        refine ⟨_, mem_map_of_mem hmem, ?_⟩
        rw [hp.word]
        exact hb
      · have hzero := hown (fun q hq hname => hsome ⟨q, hq, hname⟩) i hi
        rw [hzero] at hb
        simp at hb

end

/-- In every build-up the last values win, and every entry is sent once, just where for each submodule what shares
its entry leaves the last value alone. -/
theorem lastWins_iff {hw : HwDoc} {layer : Int} {order : List Int → List Int} (horder : ∀ ids, (order ids).Perm ids)
    (hapart : FieldsApart hw layer) {stages : List (List Pair)} (hpackable : ∀ p ∈ stages.flatten, Packable hw layer p)
    {lists : Lists} (hrun : buildUp hw layer order stages = some lists) :
    LastWins hw layer stages.flatten lists ↔
      ∀ name sub lut, hw.subModule? layer name = some sub → stages.flatten.reverse.lookup name = some lut →
        Overrides hw layer stages.flatten name sub lut := by
  obtain ⟨nodes, hnodes, hrun⟩ := unbind hrun
  obtain ⟨queued, hqueued, hrun⟩ := unbind hrun
  cases hrun
  obtain ⟨hflatten, hsome⟩ := flatten_mapM_mapM ({} : DatNode) hnodes
  have hflatten : nodes.flatten = stages.flatten.map (packedNode hw layer) := hflatten
  have hpairs : ∀ p ∈ stages.flatten, ∃ sub, PackedPair hw layer p sub :=
    fun p hp => PackedPair.of_packable (hpackable p hp) (hsome p hp)
  have hagree : Lists.GroupsAgree ([] ++ nodes.flatten) := by
    rw [nil_append, hflatten]
    intro node hnode other hother hpos hgroupId
    obtain ⟨p, hp, rfl⟩ := mem_map.mp hnode
    obtain ⟨q, hq, rfl⟩ := mem_map.mp hother
    obtain ⟨sub, hsub⟩ := hpairs p hp
    obtain ⟨sub', hsub'⟩ := hpairs q hq
    rw [hsub.groupId] at hpos hgroupId
    rw [hsub'.groupId] at hgroupId
    obtain ⟨hoff, hnum⟩ := hapart.group p.1 q.1 sub sub' hsub.subModule hsub'.subModule hpos hgroupId
    rw [hsub.header, hsub'.header, hoff, hnum]
  have hholds := Lists.Holds.empty.queueStages horder hagree hqueued
  rw [nil_append, hflatten] at hholds
  -- The entry of a submodule, and what is in it.
  have hentry : ∀ name sub lut, hw.subModule? layer name = some sub → stages.flatten.reverse.lookup name = some lut →
      PackedPair hw layer (name, lut) sub ∧ ∃ r ∈ queued.cleanDuplicate.shall, ∃ sent, queued.deref r = some sent ∧
        queued.registers r = some sub.registers ∧
        ∀ i, sent.word i = imageWord ((sharingPairs hw layer stages.flatten sub).map (packedNode hw layer)) i := by
    intro name sub lut hsub hlast
    have hmem : (name, lut) ∈ stages.flatten := by
      obtain ⟨behind, front, hreverse, -⟩ := List.lookup_eq_some_iff.mp hlast
      rw [← mem_reverse, hreverse]
      simp
    have hpacked : PackedPair hw layer (name, lut) sub := by
      obtain ⟨sub', hsub'⟩ := hpairs _ hmem
      obtain rfl := Option.some.inj (hsub.symm.trans hsub'.subModule)
      exact hsub'
    have hstages : nodes ≠ [] := by
      rintro rfl
      rw [flatten_nil] at hflatten
      rw [List.map_eq_nil_iff.mp hflatten.symm] at hmem
      cases hmem
    have hpush : ∀ id image, queued.group.lookup id = some image → .group id ∈ queued.shall := by
      obtain ⟨last, rfl⟩ := Lists.queueStages_pushed hqueued hstages
      intro id image himage
      refine List.mem_append_right _ (mem_map_of_mem ((horder _).mem_iff.mpr ?_))
      exact mem_map_of_mem (mem_of_lookup_table himage)
    obtain ⟨r, hr, sent, hderef, hregs, hwords⟩ := hholds.sent hpush (mem_map_of_mem hmem)
    rw [hpacked.registers] at hregs
    rw [sharing_eq hpairs hpacked] at hwords
    exact ⟨hpacked, r, hr, sent, hderef, hregs, hwords⟩
  have hnodup : (queued.cleanDuplicate.shall.map queued.registers).Nodup := queued.registers_nodup
  constructor
  · rintro ⟨-, hwins⟩ name sub lut hsub hlast
    obtain ⟨hpacked, r, hr, sent, hderef, hregs, hwords⟩ := hentry name sub lut hsub hlast
    refine (image_iff_overrides hpairs hapart hlast hpacked).mp fun i hi => ?_
    obtain ⟨r', hr', sent', hderef', hregs', hbits⟩ := hwins name sub lut hsub hlast
    obtain rfl := List.inj_on_of_nodup_map hnodup hr hr' (hregs.trans hregs'.symm)
    obtain rfl := Option.some.inj (hderef.symm.trans hderef')
    rw [← hwords]
    exact hbits i hi
  · intro hoverrides
    refine ⟨hnodup, fun name sub lut hsub hlast => ?_⟩
    obtain ⟨hpacked, r, hr, sent, hderef, hregs, hwords⟩ := hentry name sub lut hsub hlast
    refine ⟨r, hr, sent, hderef, hregs, fun i hi => ?_⟩
    rw [hwords]
    exact (image_iff_overrides hpairs hapart hlast hpacked).mpr (hoverrides name sub lut hsub hlast) i hi

def halfRegister (bitOffset : U32) : SubModule :=
  { numNodes := 1, numNodesPerReg := 1, bitOffsets := [bitOffset], masks := [0xFFFF], regOffset := 0x40, regNum := 1,
    groupId := 0 }

def groupedModule : HwDoc := [{ ids := [0], subModules := [("low", halfRegister 0), ("high", halfRegister 16)] }]

theorem groupedModule_cases {name : String} {sub : SubModule} (h : groupedModule.subModule? 0 name = some sub) :
    (name = "low" ∧ sub = halfRegister 0) ∨ (name = "high" ∧ sub = halfRegister 16) := by
  have h : [("low", halfRegister 0), ("high", halfRegister 16)].lookup name = some sub := h
  by_cases hlow : name = "low"
  · subst hlow
    exact .inl ⟨rfl, (Option.some.inj h).symm⟩
  · by_cases hhigh : name = "high"
    · subst hhigh
      exact .inr ⟨rfl, (Option.some.inj h).symm⟩
    · rw [List.lookup_cons, beq_false_of_ne hlow, List.lookup_cons, beq_false_of_ne hhigh] at h
      cases h

theorem groupedModule_fieldsApart : FieldsApart groupedModule 0 := by
  have hbehind : ∀ bitOffset i, (halfRegister bitOffset).regMask (i + 1) = 0 := by
    intro bitOffset i
    have hnone : (halfRegister bitOffset).fieldsAt (i + 1) = 0 := by
      show (if i + 1 < 1 then 1 else if i + 1 = 1 then 0 else 0) = 0
      rw [if_neg (by omega), ite_self]
    rw [SubModule.regMask, hnone]
    rfl
  have hapart : ∀ i, (halfRegister 0).regMask i &&& (halfRegister 16).regMask i = 0 := by
    intro i
    cases i with
    | zero => decide
    | succ i =>
      rw [hbehind, hbehind]
      rfl
  refine ⟨fun name name' sub sub' hsub hsub' hne _ i => ?_, fun name name' sub sub' hsub hsub' _ _ => ?_⟩
  · rcases groupedModule_cases hsub with ⟨rfl, rfl⟩ | ⟨rfl, rfl⟩ <;>
      rcases groupedModule_cases hsub' with ⟨rfl, rfl⟩ | ⟨rfl, rfl⟩
    · exact absurd rfl hne
    · exact hapart i
    · rw [BitVec.and_comm]
      exact hapart i
    · exact absurd rfl hne
  · rcases groupedModule_cases hsub with ⟨-, rfl⟩ | ⟨-, rfl⟩ <;>
      rcases groupedModule_cases hsub' with ⟨-, rfl⟩ | ⟨-, rfl⟩ <;> exact ⟨rfl, rfl⟩

theorem lastWins_iff_moreBits :
    ∃ lists, buildUp groupedModule 0 id [[("low", [1]), ("high", [2])], [("low", [3])]] = some lists ∧
      LastWins groupedModule 0 [("low", [1]), ("high", [2]), ("low", [3])] lists := by
  have hpackable : ∀ p ∈ [[("low", [1]), ("high", [2])], [("low", [3])]].flatten, Packable groupedModule 0 p := by
    simp only [flatten_cons, flatten_nil, List.append_nil, List.cons_append, nil_append, List.forall_mem_cons]
    exact ⟨⟨halfRegister 0, rfl, rfl⟩, ⟨halfRegister 16, rfl, rfl⟩, ⟨halfRegister 0, rfl, rfl⟩, nofun⟩
  refine ⟨_, rfl, (lastWins_iff (fun _ => List.Perm.refl _) groupedModule_fieldsApart hpackable rfl).mpr ?_⟩
  intro name sub lut hsub hlast
  have hregs : ∀ bitOffset, (halfRegister bitOffset).packedRegs = 1 := fun _ => rfl
  have hwritten : ∀ p ∈ ([("low", [1]), ("high", [2]), ("low", [3])] : List Pair), ∀ other,
      groupedModule.subModule? 0 p.1 = some other → 1 ≤ other.packedRegs := by
    intro p _ other hother
    rcases groupedModule_cases hother with ⟨-, rfl⟩ | ⟨-, rfl⟩ <;> exact (hregs _).ge
  rcases groupedModule_cases hsub with ⟨rfl, rfl⟩ | ⟨rfl, rfl⟩
  · cases hlast
    refine ⟨hwritten, ?_, fun hnone => absurd rfl (hnone ("low", [3]) (by decide))⟩
    rw [hregs]
    decide
  · cases hlast
    refine ⟨hwritten, ?_, fun hnone => absurd rfl (hnone ("high", [2]) (by decide))⟩
    rw [hregs]
    decide

theorem not_lastWins_clearedBit : ¬∀ (hw : HwDoc) (layer : Int) (order : List Int → List Int)
    (stages : List (List Pair)) (lists : Lists), (∀ ids, (order ids).Perm ids) → FieldsApart hw layer →
    (∀ p ∈ stages.flatten, Packable hw layer p) → buildUp hw layer order stages = some lists →
    LastWins hw layer stages.flatten lists := by
  intro h
  have hpackable : ∀ p ∈ [[("low", [1])], [("low", [0])]].flatten, Packable groupedModule 0 p := by
    simp only [flatten_cons, flatten_nil, List.append_nil, List.cons_append, nil_append, List.forall_mem_cons]
    exact ⟨⟨halfRegister 0, rfl, rfl⟩, ⟨halfRegister 0, rfl, rfl⟩, nofun⟩
  have hwins := (h groupedModule 0 id [[("low", [1])], [("low", [0])]] _ (fun _ => List.Perm.refl _)
    groupedModule_fieldsApart hpackable rfl).wins "low" (halfRegister 0) [0] rfl rfl
  obtain ⟨r, hr, sent, hderef, -, hbits⟩ := hwins
  obtain rfl : r = .group 0 := List.mem_singleton.mp hr
  cases hderef
  obtain ⟨word, hword, hbits⟩ := hbits 0 (by decide)
  cases hword
  exact absurd hbits (by decide)

end ExynosHal.Hdr
