import ExynosHal.Hdr.DatNode
import ExynosHal.Library.Run

/-! # What `pack` writes

`PACK` puts as many values into a register as the hardware document says, each masked and shifted to its
place.
-/

namespace ExynosHal.Hdr
open Library.Run
open List (mem_range range)

theorem getLsbD_foldl_or (g : Nat → U32) (js : List Nat) (word : U32) (b : Nat) :
    (js.foldl (fun packed j => packed ||| g j) word).getLsbD b ↔ word.getLsbD b ∨ ∃ j ∈ js, (g j).getLsbD b := by
  induction js generalizing word with
  | nil => simp
  | cons j js ih =>
    rw [List.foldl_cons, ih, BitVec.getLsbD_or, Bool.or_eq_true]
    simp [or_assoc]

def DatNode.Allocated (node : DatNode) : Prop :=
  match node.data with
  | none => node.header.length = -1
  | some data => data.length = node.header.length.toNat % 2 ^ 30

namespace DatNode.Allocated

variable {node node' : DatNode}

theorem new : ({} : DatNode).Allocated := rfl

theorem setHeader (h : node.Allocated) (byteOffset length : U32) : (node.setHeader byteOffset length).Allocated := by
  unfold DatNode.setHeader
  by_cases hsame : node.header.length = length
  · rw [if_pos hsame, ← hsame]
    exact h
  · rw [if_neg hsame]
    exact List.length_replicate

theorem setData (h : node.Allocated) {words : List U32} (hset : node.setData words = some node') : node'.Allocated := by
  unfold DatNode.setData at hset
  unfold Allocated at h
  split at hset
  · split at hset
    · cases hset
      exact h
    · cases hset
  · rename_i data hdata
    rw [hdata] at h
    split at hset
    · rename_i hfits
      cases hset
      show (words.map some ++ data.drop words.length).length = _
      rw [List.length_append, List.length_map, List.length_drop, Nat.add_sub_cancel' hfits]
      exact h
    · cases hset

theorem pack (h : node.Allocated) {sub : SubModule} {lut : List U32} {ret : Int}
    (hpack : sub.pack lut node = some (ret, node')) : node'.Allocated := by
  unfold SubModule.pack at hpack
  split at hpack
  · obtain ⟨words, -, hpack⟩ := unbind hpack
    obtain ⟨filled, hfilled, hpack⟩ := unbind hpack
    cases hpack
    have halloc : filled.Allocated := (h.setHeader sub.regOffset sub.regNum).setData hfilled
    exact halloc
  · cases hpack
    exact h

end DatNode.Allocated

namespace SubModule

variable (sub : SubModule)

def perReg : Nat := sub.numNodesPerReg.toNat

def mask (j : Nat) : U32 := sub.masks.getD j 0

def bitOffset (j : Nat) : Nat := (sub.bitOffsets.getD j 0).toNat

def fieldMask (j : Nat) : U32 := sub.mask j <<< sub.bitOffset j

def regs : Nat := (sub.numNodes.toNat + (sub.perReg - 1)) / sub.perReg

structure Layout : Prop where
  numNodes_pos : 1 ≤ sub.numNodes
  numNodes_lt : sub.numNodes < 2 ^ 31
  perReg_pos : 1 ≤ sub.numNodesPerReg
  masks : sub.masks.length = sub.perReg
  bitOffsets : sub.bitOffsets.length = sub.perReg
  shifts : ∀ j < sub.perReg, sub.bitOffset j < 32
  fits : ∀ j < sub.perReg, (sub.mask j).toNat * 2 ^ sub.bitOffset j < 2 ^ 32
  disjoint : ∀ i < sub.perReg, ∀ j < sub.perReg, i ≠ j → sub.fieldMask i &&& sub.fieldMask j = 0
  regNum : sub.regNum = BitVec.ofNat 32 sub.regs

def placed (lut : List U32) (nth j : Nat) : U32 :=
  (lut.getD (nth + j) 0 &&& sub.mask j) <<< sub.bitOffset j

def word (lut : List U32) (i : Nat) : U32 :=
  let count := min sub.perReg (lut.length - i * sub.perReg)
  let js := if sub.lastNodeAlign then range count else (range count).reverse
  js.foldl (fun packed j => packed ||| sub.placed lut (i * sub.perReg) j) 0

structure ExactWord (lut : List U32) (i : Nat) (word : U32) : Prop where
  field : ∀ j < sub.perReg, i * sub.perReg + j < lut.length →
    word >>> sub.bitOffset j &&& sub.mask j = lut.getD (i * sub.perReg + j) 0 &&& sub.mask j
  rest : ∀ b, word.getLsbD b → ∃ j < sub.perReg, i * sub.perReg + j < lut.length ∧ (sub.fieldMask j).getLsbD b

def PackExact (lut : List U32) (out : DatNode) : Prop :=
  if (lut.length : Int) = sub.numNodes then
    ∃ words : List U32, sub.pack lut out = some (0,
        { header := ⟨sub.regOffset, sub.regNum, hdrLutMagic⟩, data := some (words.map some), groupId := sub.groupId }) ∧
      words.length = sub.regs ∧ ∀ i word, words[i]? = some word → sub.ExactWord lut i word
  else sub.pack lut out = some (-1, out)

variable {sub} {lut : List U32}

theorem getLsbD_word (b i : Nat) : (sub.word lut i).getLsbD b ↔
      ∃ j < sub.perReg, i * sub.perReg + j < lut.length ∧ (sub.placed lut (i * sub.perReg) j).getLsbD b := by
  have hmem : ∀ j, j ∈ (if sub.lastNodeAlign then range (min sub.perReg (lut.length - i * sub.perReg))
      else (range (min sub.perReg (lut.length - i * sub.perReg))).reverse) ↔
        j < sub.perReg ∧ i * sub.perReg + j < lut.length := by
    intro j
    have hrange : j ∈ range (min sub.perReg (lut.length - i * sub.perReg)) ↔
        j < sub.perReg ∧ i * sub.perReg + j < lut.length := by
      rw [mem_range]
      omega
    split
    · exact hrange
    · rw [List.mem_reverse]
      exact hrange
  rw [word, getLsbD_foldl_or]
  simp only [hmem]
  simp [and_assoc]

theorem getLsbD_placed (nth j b : Nat) : (sub.placed lut nth j).getLsbD b ↔
      (sub.fieldMask j).getLsbD b ∧ (lut.getD (nth + j) 0).getLsbD (b - sub.bitOffset j) := by
  unfold placed fieldMask
  simp only [BitVec.getLsbD_shiftLeft, BitVec.getLsbD_and, Bool.and_eq_true]
  tauto

theorem Layout.bit_lt (h : sub.Layout) {j b : Nat} (hj : j < sub.perReg) (hmask : (sub.mask j).getLsbD b) :
    sub.bitOffset j + b < 32 := by
  have hge : 2 ^ b ≤ (sub.mask j).toNat := Nat.ge_two_pow_of_testBit hmask
  have hpow : 2 ^ (sub.bitOffset j + b) < 2 ^ 32 := by
    calc 2 ^ (sub.bitOffset j + b) = 2 ^ b * 2 ^ sub.bitOffset j := by rw [Nat.add_comm, Nat.pow_add]
      _ ≤ (sub.mask j).toNat * 2 ^ sub.bitOffset j := Nat.mul_le_mul_right _ hge
      _ < 2 ^ 32 := h.fits j hj
  exact (Nat.pow_lt_pow_iff_right (by decide)).mp hpow

theorem Layout.eq_of_fieldMask (h : sub.Layout) {i j b : Nat} (hi : i < sub.perReg) (hj : j < sub.perReg)
    (hib : (sub.fieldMask i).getLsbD b) (hjb : (sub.fieldMask j).getLsbD b) : i = j := by
  by_contra hne
  have hzero := congrArg (·.getLsbD b) (h.disjoint i hi j hj hne)
  simp [hib, hjb] at hzero

theorem Layout.exactWord (h : sub.Layout) (i : Nat) : sub.ExactWord lut i (sub.word lut i) := by
  constructor
  · intro j hj hlut
    apply BitVec.eq_of_getLsbD_eq
    intro b hb
    rw [BitVec.getLsbD_and, BitVec.getLsbD_and, BitVec.getLsbD_ushiftRight]
    cases hmask : (sub.mask j).getLsbD b with
    | false => rw [Bool.and_false, Bool.and_false]
    | true =>
      rw [Bool.and_true, Bool.and_true, Bool.eq_iff_iff, getLsbD_word]
      have hlt := h.bit_lt hj hmask
      have hfield : (sub.fieldMask j).getLsbD (sub.bitOffset j + b) := by
        simp [fieldMask, hlt, hmask]
      constructor
      · rintro ⟨j', hj', -, hplaced⟩
        obtain ⟨hfield', hval⟩ := (getLsbD_placed _ j' _).mp hplaced
        rw [h.eq_of_fieldMask hj' hj hfield' hfield, Nat.add_sub_cancel_left] at hval
        exact hval
      · intro hval
        refine ⟨j, hj, hlut, (getLsbD_placed _ j _).mpr ⟨hfield, ?_⟩⟩
        rw [Nat.add_sub_cancel_left]
        exact hval
  · intro b hb
    obtain ⟨j, hj, hlut, hplaced⟩ := (getLsbD_word b i).mp hb
    exact ⟨j, hj, hlut, ((getLsbD_placed _ j b).mp hplaced).1⟩

theorem Layout.field_eq (h : sub.Layout) {nth j : Nat} (hj : j < sub.perReg) (hlut : nth + j < lut.length) :
    sub.field lut nth j = some (sub.placed lut nth j) := by
  have hmask : sub.masks[j]? = some (sub.mask j) := by
    simp [mask, List.getD_eq_getElem?_getD, List.getElem?_eq_getElem (h.masks ▸ hj : j < sub.masks.length)]
  have hoff : sub.bitOffsets[j]? = some (sub.bitOffsets.getD j 0) := by
    simp [List.getD_eq_getElem?_getD, List.getElem?_eq_getElem (h.bitOffsets ▸ hj : j < sub.bitOffsets.length)]
  have hval : lut[nth + j]? = some (lut.getD (nth + j) 0) := by
    simp [List.getD_eq_getElem?_getD, List.getElem?_eq_getElem hlut]
  rw [field, hval, hmask, hoff]
  exact if_pos (h.shifts j hj)

theorem foldlM_or {f : Nat → Option U32} {g : Nat → U32} {js : List Nat} (word : U32)
    (h : ∀ j ∈ js, f j = some (g j)) :
    js.foldlM (fun packed j => (f j).map (packed ||| ·)) word =
      some (js.foldl (fun packed j => packed ||| g j) word) := by
  induction js generalizing word with
  | nil => rfl
  | cons j js ih =>
    obtain ⟨hj, hjs⟩ := List.forall_mem_cons.mp h
    rw [List.foldlM_cons, hj, List.foldl_cons, ← ih _ hjs]
    rfl

theorem Layout.packOne_eq (h : sub.Layout) {i count : Nat}
    (hcnt : count = min sub.perReg (lut.length - i * sub.perReg)) :
    sub.packOne lut (i * sub.perReg) count = some (sub.word lut i) := by
  have hfields : ∀ j ∈ range count, sub.field lut (i * sub.perReg) j = some (sub.placed lut (i * sub.perReg) j) := by
    intro j hj
    rw [mem_range] at hj
    exact h.field_eq (by omega) (by omega)
  unfold packOne word
  rw [← hcnt]
  dsimp only
  split
  · exact foldlM_or 0 hfields
  · exact foldlM_or 0 fun j hj => hfields j (List.mem_reverse.mp hj)

theorem div_round_up {k : Nat} (hk : 0 < k) (n : Nat) : (n + (k - 1)) / k = n / k + if n % k = 0 then 0 else 1 := by
  have hmodlt := Nat.mod_lt n hk
  conv_lhs => rw [← Nat.div_add_mod n k, Nat.add_assoc, Nat.mul_add_div hk]
  congr 1
  split
  · exact Nat.div_eq_of_lt (by omega)
  · rw [show n % k + (k - 1) = n % k - 1 + k by omega, Nat.add_div_right _ hk, Nat.div_eq_of_lt (by omega)]

theorem Layout.packWords_eq (h : sub.Layout) (hlut : (lut.length : Int) = sub.numNodes) :
    sub.packWords lut = some ((range sub.regs).map (sub.word lut)) := by
  have hpos := h.perReg_pos
  have hperReg : sub.numNodesPerReg = (sub.perReg : Int) := (Int.toNat_of_nonneg (by omega)).symm
  have hk : 0 < sub.perReg := by omega
  have hdivmod := Nat.div_add_mod lut.length sub.perReg
  have hmodlt := Nat.mod_lt lut.length hk
  have hfull : (sub.numNodes.tdiv sub.numNodesPerReg).toNat = lut.length / sub.perReg := by
    rw [← hlut, hperReg, ← Int.ofNat_tdiv, Int.toNat_natCast]
  have hrest : (sub.numNodes.tmod sub.numNodesPerReg).toNat = lut.length % sub.perReg := by
    rw [← hlut, hperReg, ← Int.ofNat_tmod, Int.toNat_natCast]
  have hregs : sub.regs = (lut.length + (sub.perReg - 1)) / sub.perReg := by
    rw [regs, ← hlut, Int.toNat_natCast]
  have hwords : (range (lut.length / sub.perReg)).mapM (fun i => sub.packOne lut (i * sub.perReg) sub.perReg) =
      some ((range (lut.length / sub.perReg)).map (sub.word lut)) := by
    refine mapM_eq_some_map fun i hi => h.packOne_eq ?_
    rw [mem_range] at hi
    have hnext : (i + 1) * sub.perReg ≤ lut.length / sub.perReg * sub.perReg := Nat.mul_le_mul_right _ hi
    rw [Nat.add_mul, Nat.one_mul] at hnext
    rw [Nat.mul_comm] at hdivmod
    omega
  unfold packWords
  rw [if_neg (by omega)]
  dsimp only
  rw [hfull, hrest, show sub.numNodesPerReg.toNat = sub.perReg from rfl, hwords, Option.bind_eq_bind, Option.bind_some]
  split
  · rename_i hzero
    rw [hregs, div_round_up hk, if_pos hzero, Nat.add_zero]
  · rename_i hnonzero
    have hlast : sub.packOne lut (lut.length / sub.perReg * sub.perReg) (lut.length % sub.perReg) =
        some (sub.word lut (lut.length / sub.perReg)) := by
      apply h.packOne_eq
      rw [Nat.mul_comm] at hdivmod
      omega
    rw [hlast, hregs, div_round_up hk, if_neg hnonzero, List.range_succ, List.map_append]
    rfl

theorem Layout.regs_lt (h : sub.Layout) : sub.regs < 2 ^ 31 := by
  have hpos := h.perReg_pos
  have hnodes := h.numNodes_pos
  have hlt := h.numNodes_lt
  have hk : 1 ≤ sub.perReg := by
    rw [perReg]
    omega
  rw [regs]
  have hle : (sub.numNodes.toNat + (sub.perReg - 1)) / sub.perReg ≤ sub.numNodes.toNat := by
    apply Nat.div_le_of_le_mul
    have hmul : sub.numNodes.toNat + sub.perReg ≤ sub.perReg * sub.numNodes.toNat + 1 := by
      obtain ⟨n, hn⟩ : ∃ n, sub.numNodes.toNat = n + 1 := ⟨sub.numNodes.toNat - 1, by omega⟩
      obtain ⟨k, hk⟩ : ∃ k, sub.perReg = k + 1 := ⟨sub.perReg - 1, by omega⟩
      rw [hn, hk]
      ring_nf
      omega
    omega
  omega

theorem Layout.regNum_toNat (h : sub.Layout) : sub.regNum.toNat = sub.regs := by
  have hlt := h.regs_lt
  rw [h.regNum, BitVec.toNat_ofNat, Nat.mod_eq_of_lt (by omega)]

theorem Layout.setHeader_data (h : sub.Layout) {out : DatNode} (hout : out.Allocated) :
    ∃ data, (out.setHeader sub.regOffset sub.regNum).data = some data ∧ data.length = sub.regs % 2 ^ 30 := by
  have hregNum := h.regNum_toNat
  unfold DatNode.setHeader
  dsimp only
  split
  · rename_i hsame
    unfold DatNode.Allocated at hout
    cases hdata : out.data with
    | none =>
      rw [hdata] at hout
      have hlen : out.header.length = -1 := hout
      have hmax : sub.regNum.toNat = 2 ^ 32 - 1 := by
        rw [← hsame, hlen]
        rfl
      have hlt := h.regs_lt
      omega
    | some data =>
      rw [hdata] at hout
      refine ⟨data, rfl, ?_⟩
      rw [← hregNum, ← hsame]
      exact hout
  · exact ⟨_, rfl, by rw [DatNode.allocate, List.length_replicate, hregNum]⟩

theorem Layout.pack_eq (h : sub.Layout) {out : DatNode} (hout : out.Allocated)
    (hlut : (lut.length : Int) = sub.numNodes) :
    sub.pack lut out = if sub.regs < 2 ^ 30 then
      some (0, { header := ⟨sub.regOffset, sub.regNum, hdrLutMagic⟩,
                 data := some (((range sub.regs).map (sub.word lut)).map some), groupId := sub.groupId })
      else none := by
  obtain ⟨data, hdata, hlen⟩ := h.setHeader_data hout
  have hlt := h.regs_lt
  have hwords : ((range sub.regs).map (sub.word lut)).length = sub.regs := by simp
  rw [pack, if_pos hlut, h.packWords_eq hlut, Option.bind_eq_bind, Option.bind_some, DatNode.setData, hdata]
  dsimp only
  rw [hwords]
  by_cases hsize : sub.regs < 2 ^ 30
  · rw [Nat.mod_eq_of_lt hsize] at hlen
    rw [if_pos (Nat.le_of_eq hlen.symm), if_pos hsize, List.drop_eq_nil_of_le (Nat.le_of_eq hlen),
      List.append_nil]
    rfl
  · rw [if_neg (by omega), if_neg hsize]
    rfl

/-- For fields that do not overlap, `pack` is exact just where the size of the image in bytes does not
overflow the `unsigned int` that its buffer is allocated by. -/
theorem Layout.packExact_iff (h : sub.Layout) {out : DatNode} (hout : out.Allocated) :
    sub.PackExact lut out ↔ (lut.length : Int) ≠ sub.numNodes ∨ sub.regs < 2 ^ 30 := by
  unfold PackExact
  by_cases hlut : (lut.length : Int) = sub.numNodes
  · rw [if_pos hlut, h.pack_eq hout hlut]
    constructor
    · rintro ⟨words, hpack, -⟩
      split at hpack
      · rename_i hsize
        exact .inr hsize
      · cases hpack
    · rintro (hne | hsize)
      · exact absurd hlut hne
      · refine ⟨(range sub.regs).map (sub.word lut), by rw [if_pos hsize], by simp, fun i word hword => ?_⟩
        rw [List.getElem?_map] at hword
        obtain ⟨j, hj, rfl⟩ := Option.map_eq_some_iff.mp hword
        obtain ⟨hi, hij⟩ := List.getElem?_eq_some_iff.mp hj
        rw [List.getElem_range] at hij
        rw [← hij]
        exact h.exactWord i
  · rw [if_neg hlut, pack, if_neg hlut]
    exact ⟨fun _ => .inl hlut, fun _ => rfl⟩

end SubModule

def twoPerRegister : SubModule :=
  { numNodes := 3, numNodesPerReg := 2, bitOffsets := [0, 16], masks := [0xFFF, 0xFFF], regOffset := 0x40, regNum := 2,
    groupId := 1 }

def usedNode : DatNode := { header := ⟨0, 2, hdrLutMagic⟩, data := some [some 7, none] }

theorem packExact_iff_twoPerRegister : twoPerRegister.PackExact [1, 2, 3] usedNode := by
  have hlayout : twoPerRegister.Layout :=
    ⟨by decide, by decide, by decide, rfl, rfl, by decide, by decide, by decide, rfl⟩
  have hused : usedNode.Allocated := by simp [usedNode, DatNode.Allocated]
  exact (hlayout.packExact_iff hused).mpr (.inr (by decide))

def hugeModule : SubModule :=
  { numNodes := 2 ^ 30, numNodesPerReg := 1, bitOffsets := [0], masks := [0xFFFFFFFF], regNum := 0x40000000 }

theorem not_packExact_hugeModule :
    ¬∀ (sub : SubModule) (lut : List U32) (out : DatNode), sub.Layout → out.Allocated → sub.PackExact lut out := by
  intro h
  have hregs : hugeModule.regs = 2 ^ 30 := by decide
  have hlayout : hugeModule.Layout := ⟨by decide, by decide, by decide, rfl, rfl, by decide, by decide, by decide, rfl⟩
  obtain ⟨zeros, hzeros⟩ : ∃ zeros : List U32, zeros.length = 2 ^ 30 :=
    ⟨List.replicate (2 ^ 30) 0, List.length_replicate⟩
  have hlut : (zeros.length : Int) = hugeModule.numNodes := by
    rw [hzeros]
    rfl
  have hexact := h hugeModule zeros {} hlayout .new
  rw [SubModule.PackExact, if_pos hlut, hlayout.pack_eq .new hlut, hregs, if_neg (by decide)] at hexact
  obtain ⟨words, hwords, -⟩ := hexact
  cases hwords

end ExynosHal.Hdr
