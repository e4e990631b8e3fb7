import ExynosHal.Library.BitString

/-! # Byte buffers seen as bit strings

A buffer is written by or-ing masks into its bytes and read bit by bit from an offset.
-/

namespace ExynosHal.Library.BitBuffer
open BitString
open List (getD_eq_getElem?_getD length_append)

abbrev Buffer := Nat → Byte

def bitAt (buf : Buffer) (n : Nat) : Bool := (buf (n / 8)).getLsbD (7 - n % 8)

def orAt (buf : Buffer) (i : Nat) (mask : Byte) : Buffer := Function.update buf i (buf i ||| mask)

def ofList (bytes : List Byte) : Buffer := fun i => bytes.getD i 0

theorem bitAt_orAt (buf : Buffer) (i : Nat) (mask : Byte) (n : Nat) :
    bitAt (orAt buf i mask) n = (bitAt buf n || (decide (n / 8 = i) && mask.getLsbD (7 - n % 8))) := by
  unfold bitAt orAt
  by_cases h : n / 8 = i <;> simp [h]

def Holds (buf : Buffer) (bits : List Bool) : Prop := ∀ n, bitAt buf n = bits.getD n false

theorem holds_zero : Holds (fun _ => 0) [] := by
  intro n
  simp [bitAt]

variable {buf : Buffer} {bits : List Bool}

theorem Holds.append_replicate (h : Holds buf bits) (count : Nat) : Holds buf (bits ++ List.replicate count false) := by
  intro n
  rw [h n]
  simp only [getD_eq_getElem?_getD]
  by_cases hn : n < bits.length
  · rw [List.getElem?_append_left hn]
  · rw [List.getElem?_append_right (by omega), List.getElem?_eq_none (by omega)]
    by_cases hc : n - bits.length < count <;> simp [hc]

theorem Holds.orBit (h : Holds buf bits) (byte : Byte) :
    Holds (orAt buf (bits.length / 8) (byte &&& 1#8 <<< (7 - bits.length % 8)))
      (bits ++ [byte.getLsbD (7 - bits.length % 8)]) := by
  intro n
  have hmask : (byte &&& 1#8 <<< (7 - bits.length % 8)).getLsbD (7 - n % 8) =
      (decide (n % 8 = bits.length % 8) && byte.getLsbD (7 - bits.length % 8)) := by
    rw [BitVec.getLsbD_and]
    by_cases hmod : n % 8 = bits.length % 8
    · simp [hmod]
      omega
    · have hclear : (1#8 <<< (7 - bits.length % 8)).getLsbD (7 - n % 8) = false := by
        rw [BitVec.getLsbD_shiftLeft]
        by_cases hlt : 7 - n % 8 < 7 - bits.length % 8
        · simp [hlt]
        · have hne : 7 - n % 8 - (7 - bits.length % 8) ≠ 0 := by omega
          simp [BitVec.getLsbD_one, hne]
      simp [hmod, hclear]
  rw [bitAt_orAt, hmask, h n]
  simp only [getD_eq_getElem?_getD]
  rcases Nat.lt_trichotomy n bits.length with hlt | heq | hgt
  · have hne : ¬(n / 8 = bits.length / 8 ∧ n % 8 = bits.length % 8) := by omega
    rw [List.getElem?_append_left hlt]
    by_cases hdiv : n / 8 = bits.length / 8
    · have hmod : n % 8 ≠ bits.length % 8 := fun hmod => hne ⟨hdiv, hmod⟩
      simp [hmod]
    · simp [hdiv]
  · subst heq
    simp
  · have hne : ¬(n / 8 = bits.length / 8 ∧ n % 8 = bits.length % 8) := by omega
    rw [List.getElem?_eq_none (by omega), List.getElem?_eq_none (by simp; omega)]
    by_cases hdiv : n / 8 = bits.length / 8
    · have hmod : n % 8 ≠ bits.length % 8 := fun hmod => hne ⟨hdiv, hmod⟩
      simp [hmod]
    · simp [hdiv]

def fieldAt (buf : Buffer) (offset width : Nat) : Nat := ofBits ((List.range width).map fun i => bitAt buf (offset + i))

theorem fieldAt_add (buf : Buffer) (offset a b : Nat) :
    fieldAt buf offset (a + b) = fieldAt buf offset a * 2 ^ b + fieldAt buf (offset + a) b := by
  unfold fieldAt
  rw [List.range_add, List.map_append, ofBits_append]
  simp [Nat.add_assoc, Function.comp_def]

theorem fieldAt_lt (buf : Buffer) (offset width : Nat) : fieldAt buf offset width < 2 ^ width := by
  have h := ofBits_lt ((List.range width).map fun i => bitAt buf (offset + i))
  rwa [List.length_map, List.length_range] at h

theorem fieldAt_div (buf : Buffer) (offset width low : Nat) :
    fieldAt buf offset (width + low) / 2 ^ low = fieldAt buf offset width := by
  rw [fieldAt_add, Nat.mul_comm, Nat.mul_add_div (Nat.two_pow_pos low),
    Nat.div_eq_of_lt (fieldAt_lt buf _ low), Nat.add_zero]

theorem fieldAt_byte (buf : Buffer) (i skip : Nat) (h : skip ≤ 8) :
    fieldAt buf (8 * i + skip) (8 - skip) = (buf i).toNat % 2 ^ (8 - skip) := by
  have hbits : ((List.range (8 - skip)).map fun k => bitAt buf (8 * i + skip + k)) =
      toBits (8 - skip) (buf i).toNat := by
    apply List.ext_getElem?
    intro k
    by_cases hk : k < 8 - skip
    · rw [getElem?_toBits _ _ _ hk]
      simp only [List.getElem?_map, List.getElem?_range hk, Option.map_some, bitAt]
      have hdiv : (8 * i + skip + k) / 8 = i := by omega
      have hmod : 7 - (8 * i + skip + k) % 8 = 8 - skip - 1 - k := by omega
      rw [hdiv, hmod]
      rfl
    · rw [List.getElem?_eq_none (by simp; omega), List.getElem?_eq_none (by simp; omega)]
  rw [fieldAt, hbits, ofBits_toBits_mod]

def Ahead (buf : Buffer) (offset : Nat) (bits : List Bool) : Prop :=
  ∀ n, n < bits.length → bitAt buf (offset + n) = bits.getD n false

theorem Holds.ahead (h : Holds buf bits) : Ahead buf 0 bits := by
  intro n _
  rw [Nat.zero_add]
  exact h n

variable {offset : Nat} {front back : List Bool}

theorem Ahead.of_append (h : Ahead buf offset (front ++ back)) : Ahead buf (offset + front.length) back := by
  intro n hn
  have hbit := h (front.length + n) (by rw [length_append]; omega)
  rw [Nat.add_assoc, hbit, getD_eq_getElem?_getD, getD_eq_getElem?_getD,
    List.getElem?_append_right (by omega), Nat.add_sub_cancel_left]

theorem Ahead.left (h : Ahead buf offset (front ++ back)) : Ahead buf offset front := by
  intro n hn
  rw [h n (by rw [length_append]; omega)]
  simp [getD_eq_getElem?_getD, List.getElem?_append_left hn]

theorem Ahead.fieldAt_eq (h : Ahead buf offset bits) : fieldAt buf offset bits.length = ofBits bits := by
  have hbits : ((List.range bits.length).map fun i => bitAt buf (offset + i)) = bits := by
    apply List.ext_getElem?
    intro n
    by_cases hn : n < bits.length
    · simp [List.getElem?_range hn, h n hn, getD_eq_getElem?_getD, List.getElem?_eq_getElem hn]
    · rw [List.getElem?_eq_none (by simp; omega), List.getElem?_eq_none (by omega)]
  rw [fieldAt, hbits]

variable {offset width value : Nat} {rest : List Bool}

theorem Ahead.field (h : Ahead buf offset (toBits width value ++ rest)) (hval : value < 2 ^ width) :
    fieldAt buf offset width = value ∧ Ahead buf (offset + width) rest := by
  constructor
  · have hfield := h.left.fieldAt_eq
    rwa [length_toBits, ofBits_toBits width value hval] at hfield
  · have hrest := h.of_append
    rwa [length_toBits] at hrest

theorem Ahead.fieldAt_toBits (h : Ahead buf offset (toBits width value)) (hval : value < 2 ^ width) :
    fieldAt buf offset width = value := by
  rw [← List.append_nil (toBits _ _)] at h
  exact (h.field hval).1

theorem Ahead.flatMap {offset width count : Nat} {item : Nat → List Bool} (hlen : ∀ i, (item i).length = width)
    (h : Ahead buf offset ((List.range count).flatMap item ++ rest)) :
    (∀ i < count, Ahead buf (offset + width * i) (item i)) ∧ Ahead buf (offset + width * count) rest := by
  induction count generalizing rest with
  | zero => exact ⟨fun i hi => absurd hi (Nat.not_lt_zero i), h⟩
  | succ count ih =>
    rw [List.range_succ, List.flatMap_append, List.append_assoc, List.flatMap_singleton] at h
    obtain ⟨hitems, hlast⟩ := ih h
    refine ⟨fun i hi => ?_, ?_⟩
    · rcases Nat.lt_succ_iff_lt_or_eq.mp hi with hlt | rfl
      · exact hitems i hlt
      · exact hlast.left
    · have hrest := hlast.of_append
      rwa [hlen, Nat.add_assoc, ← Nat.mul_succ] at hrest

theorem bitAt_ofList (bytes : List Byte) (n : Nat) :
    bitAt (ofList bytes) n = (bytes.flatMap byteBits).getD n false := by
  induction bytes generalizing n with
  | nil => simp [bitAt, ofList]
  | cons byte bytes ih =>
    rw [List.flatMap_cons]
    by_cases hn : n < 8
    · have hdiv : n / 8 = 0 := by omega
      have hmod : n % 8 = n := by omega
      rw [getD_eq_getElem?_getD, List.getElem?_append_left (by simpa using hn), byteBits,
        getElem?_toBits 8 _ n hn]
      simp only [bitAt, ofList, hdiv, hmod, List.getD_cons_zero, Option.getD_some]
      rw [show 8 - 1 - n = 7 - n by omega]
      rfl
    · have hstep : bitAt (ofList (byte :: bytes)) n = bitAt (ofList bytes) (n - 8) := by
        have hdiv : n / 8 = (n - 8) / 8 + 1 := by omega
        have hmod : n % 8 = (n - 8) % 8 := by omega
        simp only [bitAt, ofList, hdiv, hmod, List.getD_cons_succ]
      rw [hstep, ih, getD_eq_getElem?_getD, getD_eq_getElem?_getD,
        List.getElem?_append_right (by simpa using (by omega : 8 ≤ n)), length_byteBits]

theorem holds_ofList (bytes : List Byte) : Holds (ofList bytes) (bytes.flatMap byteBits) := bitAt_ofList bytes

end ExynosHal.Library.BitBuffer
