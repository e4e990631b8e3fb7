import ExynosHal.Library.BitString

/-! # Start-code emulation prevention

A byte below four may not follow two zero bytes, since the three would read as a
start code; a byte `03` goes in front of it. The functions carry the number of
zero bytes that stand directly before the byte at hand.
-/

namespace ExynosHal.Library.StartCode
open BitString

def nextZeros (zeros : Nat) (byte : Byte) : Nat := if byte = 0#8 then zeros + 1 else 0

def escapeMarked : Nat → List Byte → List (Byte × Bool)
  | _, [] => []
  | zeros, byte :: bytes =>
    if 2 ≤ zeros ∧ byte.toNat ≤ 3 then
      (3#8, true) :: (byte, false) :: escapeMarked (nextZeros 0 byte) bytes
    else (byte, false) :: escapeMarked (nextZeros zeros byte) bytes

def escape (zeros : Nat) (bytes : List Byte) : List Byte := (escapeMarked zeros bytes).map Prod.fst

def unescape : Nat → List Byte → List Byte
  | _, [] => []
  | zeros, byte :: bytes =>
    if 2 ≤ zeros ∧ byte = 3#8 then unescape 0 bytes else byte :: unescape (nextZeros zeros byte) bytes

variable (zeros : Nat)

@[simp] theorem nextZeros_zero : nextZeros zeros 0#8 = zeros + 1 := rfl

variable (byte : Byte)

theorem nextZeros_ne (h : byte ≠ 0#8) : nextZeros zeros byte = 0 := if_neg h

@[simp] theorem escape_nil : escape zeros [] = [] := rfl

theorem escape_insert (bytes : List Byte) (hzeros : 2 ≤ zeros)
    (hbyte : byte.toNat ≤ 3) : escape zeros (byte :: bytes) = 3#8 :: escape 0 (byte :: bytes) := by
  rw [escape, escapeMarked, if_pos ⟨hzeros, hbyte⟩, escape, escapeMarked, if_neg (by omega)]
  rfl

theorem escape_keep (bytes : List Byte) (h : 2 ≤ zeros → 3 < byte.toNat) :
    escape zeros (byte :: bytes) = byte :: escape (nextZeros zeros byte) bytes := by
  rw [escape, escapeMarked, if_neg (by rintro ⟨hzeros, hbyte⟩; exact absurd (h hzeros) (by omega))]
  rfl

theorem escape_restart (bytes : List Byte) (h : 2 ≤ zeros → 3 < byte.toNat)
    (hne : byte ≠ 0#8) : escape zeros (byte :: bytes) = byte :: escape 0 bytes := by
  rw [escape_keep zeros byte bytes h, nextZeros_ne zeros byte hne]

variable (bytes : List Byte)

theorem escape_two_zeros : escape 0 (0#8 :: 0#8 :: bytes) = 0#8 :: 0#8 :: escape 2 bytes := by
  rw [escape_keep 0 0#8 _ (by omega), escape_keep _ 0#8 _ (by simp)]
  rfl

def trailingZeros (first second : Byte) : Nat :=
  if first = 0#8 ∧ second = 0#8 then 2 else if second = 0#8 then 1 else 0

theorem trailingZeros_of_ne (first second : Byte) (h : first ≠ 0#8) :
    trailingZeros first second = nextZeros 0 second := by
  simp [trailingZeros, nextZeros, h]

theorem nextZeros_pair (first second : Byte) : nextZeros (nextZeros 0 first) second = trailingZeros first second := by
  by_cases hfst : first = 0#8 <;> by_cases hsnd : second = 0#8 <;>
    simp [nextZeros, trailingZeros, hfst, hsnd]

theorem escape_pair (first second : Byte) (bytes : List Byte) :
    escape 0 (first :: second :: bytes) = first :: second :: escape (trailingZeros first second) bytes := by
  have hle : nextZeros 0 first < 2 := by
    unfold nextZeros
    split <;> omega
  rw [escape_keep 0 first _ (by omega), escape_keep _ second _ (by omega), nextZeros_pair]

theorem escape_triple (first second third : Byte) (bytes : List Byte)
    (h : first = 0#8 → second = 0#8 → 3 < third.toNat) :
    escape 0 (first :: second :: third :: bytes) =
      first :: second :: third :: escape (trailingZeros second third) bytes := by
  by_cases hfst : first = 0#8
  · subst hfst
    by_cases hsnd : second = 0#8
    · subst hsnd
      have hthird : third ≠ 0#8 := by
        rintro rfl
        exact absurd (h rfl rfl) (by decide)
      rw [escape_two_zeros, escape_restart 2 third bytes (fun _ => h rfl rfl) hthird]
      simp [trailingZeros, hthird]
    · rw [escape_keep 0 0#8 _ (by omega), nextZeros_zero, escape_restart _ second _ (by omega) hsnd,
        escape_keep 0 third _ (by omega), trailingZeros_of_ne _ _ hsnd]
  · rw [escape_restart 0 first _ (by omega) hfst, escape_pair]

theorem unescape_escape : unescape zeros (escape zeros bytes) = bytes := by
  induction bytes generalizing zeros with
  | nil => rfl
  | cons byte bytes ih =>
    by_cases hinsert : 2 ≤ zeros ∧ byte.toNat ≤ 3
    · obtain ⟨hzeros, hbyte⟩ := hinsert
      rw [escape_insert zeros byte bytes hzeros hbyte, unescape, if_pos ⟨hzeros, rfl⟩,
        escape_keep 0 byte bytes (by omega), unescape, if_neg (by omega), ih]
    · have hkeep : 2 ≤ zeros → 3 < byte.toNat := by omega
      rw [escape_keep zeros byte bytes hkeep, unescape, if_neg, ih]
      rintro ⟨hzeros, rfl⟩
      exact absurd (hkeep hzeros) (by decide)

theorem unescape_append (front back : List Byte) :
    ∃ zeros', unescape zeros (front ++ back) = unescape zeros front ++ unescape zeros' back := by
  induction front generalizing zeros with
  | nil => exact ⟨zeros, rfl⟩
  | cons byte front ih =>
    by_cases hdelete : 2 ≤ zeros ∧ byte = 3#8
    · obtain ⟨zeros', h⟩ := ih 0
      refine ⟨zeros', ?_⟩
      rw [List.cons_append, unescape, if_pos hdelete, unescape, if_pos hdelete, h]
    · obtain ⟨zeros', h⟩ := ih (nextZeros zeros byte)
      refine ⟨zeros', ?_⟩
      rw [List.cons_append, unescape, if_neg hdelete, unescape, if_neg hdelete, h, List.cons_append]

theorem unescape_keep (bytes : List Byte) (h : 2 ≤ zeros → byte ≠ 3#8) :
    unescape zeros (byte :: bytes) = byte :: unescape (nextZeros zeros byte) bytes := by
  rw [unescape, if_neg (fun hboth => h hboth.1 hboth.2)]

def Marked (zeros : Nat) : List (Byte × Bool) → Prop
  | [] => True
  | (byte, inserted) :: rest =>
    (2 ≤ zeros → 3 < byte.toNat ∨ (byte = 3#8 ∧ inserted)) ∧ Marked (nextZeros zeros byte) rest

theorem marked_escapeMarked : Marked zeros (escapeMarked zeros bytes) := by
  induction bytes generalizing zeros with
  | nil => exact trivial
  | cons byte bytes ih =>
    rw [escapeMarked]
    split
    · refine ⟨fun _ => Or.inr ⟨rfl, rfl⟩, ?_, ?_⟩
      · rw [nextZeros_ne zeros 3#8 (by decide)]
        omega
      · rw [nextZeros_ne zeros 3#8 (by decide)]
        exact ih _
    · exact ⟨fun hzeros => Or.inl (by omega), ih _⟩

theorem Marked.window {zeros : Nat} {front back : List (Byte × Bool)} {p q inserted : Bool} {byte : Byte}
    (h : Marked zeros (front ++ (0#8, p) :: (0#8, q) :: (byte, inserted) :: back)) :
    3 < byte.toNat ∨ (byte = 3#8 ∧ inserted) := by
  induction front generalizing zeros with
  | nil =>
    obtain ⟨-, -, hbyte, -⟩ := h
    exact hbyte (by simp)
  | cons head front ih => exact ih h.2

theorem escapeMarked_window (front back : List (Byte × Bool)) (p q inserted : Bool) (byte : Byte)
    (h : escapeMarked zeros bytes = front ++ (0#8, p) :: (0#8, q) :: (byte, inserted) :: back) :
    3 < byte.toNat ∨ (byte = 3#8 ∧ inserted) :=
  Marked.window (h ▸ marked_escapeMarked zeros bytes)

theorem escape_window (bytes front back : List Byte) (byte : Byte)
    (h : escape zeros bytes = front ++ 0#8 :: 0#8 :: byte :: back) : 2 < byte.toNat := by
  obtain ⟨markedFront, marked, hmarked, -, hrest⟩ := List.map_eq_append_iff.mp h
  obtain ⟨⟨_, p⟩, marked₁, rfl, rfl, hrest₁⟩ := List.map_eq_cons_iff.mp hrest
  obtain ⟨⟨_, q⟩, marked₂, rfl, rfl, hrest₂⟩ := List.map_eq_cons_iff.mp hrest₁
  obtain ⟨⟨_, inserted⟩, marked₃, rfl, rfl, -⟩ := List.map_eq_cons_iff.mp hrest₂
  rcases escapeMarked_window zeros bytes markedFront marked₃ p q inserted _ hmarked with hgt | ⟨rfl, -⟩
  · exact Nat.lt_of_succ_lt hgt
  · exact Nat.lt_succ_self 2

theorem escapeMarked_inserted : ∀ entry ∈ escapeMarked zeros bytes, entry.2 → entry.1 = 3#8 := by
  induction bytes generalizing zeros with
  | nil => simp [escapeMarked]
  | cons byte bytes ih =>
    intro entry hentry
    rw [escapeMarked] at hentry
    split at hentry
    · rcases List.mem_cons.mp hentry with rfl | hentry
      · exact fun _ => rfl
      rcases List.mem_cons.mp hentry with rfl | hentry
      · exact fun h => absurd h (by simp)
      · exact ih _ entry hentry
    · rcases List.mem_cons.mp hentry with rfl | hentry
      · exact fun h => absurd h (by simp)
      · exact ih _ entry hentry

theorem escapeMarked_kept : ((escapeMarked zeros bytes).filter fun entry => !entry.2).map Prod.fst = bytes := by
  induction bytes generalizing zeros with
  | nil => rfl
  | cons byte bytes ih =>
    rw [escapeMarked]
    split <;> simp [ih]

def StartCodeAt (bytes : List Byte) (i : Nat) : Prop :=
  bytes[i]? = some 0#8 ∧ bytes[i + 1]? = some 0#8 ∧ bytes[i + 2]? = some 1#8

theorem startCodeAt_append_cons {front back : List Byte} {byte : Byte} {i : Nat} (hzero : byte ≠ 0#8)
    (hone : byte ≠ 1#8) : StartCodeAt (front ++ byte :: back) i ↔ StartCodeAt front i ∨
    (front.length < i ∧ StartCodeAt back (i - (front.length + 1))) := by
  have hbyte : (front ++ byte :: back)[front.length]? = some byte := by
    rw [List.getElem?_append_right le_rfl, Nat.sub_self, List.getElem?_cons_zero]
  have hback {k : Nat} (hk : front.length < k) : (front ++ byte :: back)[k]? = back[k - (front.length + 1)]? := by
    rw [List.getElem?_append_right hk.le]
    obtain ⟨n, rfl⟩ := Nat.exists_eq_add_of_lt hk
    have hidx : front.length + n + 1 - front.length = n + 1 := by omega
    have hrest : front.length + n + 1 - (front.length + 1) = n := by omega
    rw [hidx, hrest, List.getElem?_cons_succ]
  constructor
  · rintro ⟨hfst, hsnd, hthird⟩
    rcases Nat.lt_or_ge (i + 2) front.length with hin | hout
    · rw [List.getElem?_append_left (by omega)] at hfst hsnd hthird
      exact .inl ⟨hfst, hsnd, hthird⟩
    · rcases Nat.lt_or_ge front.length i with hbehind | hnear
      · rw [hback (by omega)] at hfst hsnd hthird
        have hnext : i + 1 - (front.length + 1) = i - (front.length + 1) + 1 := by omega
        have hlast : i + 2 - (front.length + 1) = i - (front.length + 1) + 2 := by omega
        rw [hnext] at hsnd
        rw [hlast] at hthird
        exact .inr ⟨hbehind, hfst, hsnd, hthird⟩
      · -- the byte in between is one of the three
        obtain heq | heq | heq : i = front.length ∨ i + 1 = front.length ∨ i + 2 = front.length := by omega
        · rw [heq, hbyte] at hfst
          exact absurd (Option.some.inj hfst) hzero
        · rw [heq, hbyte] at hsnd
          exact absurd (Option.some.inj hsnd) hzero
        · rw [heq, hbyte] at hthird
          exact absurd (Option.some.inj hthird) hone
  · rintro (⟨hfst, hsnd, hthird⟩ | ⟨hbehind, hfst, hsnd, hthird⟩)
    · have hin : i + 2 < front.length := by
        by_contra hout
        rw [List.getElem?_eq_none (by omega)] at hthird
        cases hthird
      refine ⟨?_, ?_, ?_⟩
      · rw [List.getElem?_append_left (by omega), hfst]
      · rw [List.getElem?_append_left (by omega), hsnd]
      · rw [List.getElem?_append_left hin, hthird]
    · refine ⟨?_, ?_, ?_⟩
      · rw [hback hbehind, hfst]
      · rw [hback (by omega), ← hsnd]
        congr 1
        omega
      · rw [hback (by omega), ← hthird]
        congr 1
        omega

theorem not_startCodeAt_of_not_mem {bytes : List Byte} (h : 0#8 ∉ bytes) (i : Nat) : ¬ StartCodeAt bytes i :=
  fun hstart => h (List.mem_of_getElem? hstart.1)

theorem StartCodeAt.split {bytes : List Byte} {i : Nat} (h : StartCodeAt bytes i) :
    bytes = bytes.take i ++ 0#8 :: 0#8 :: 1#8 :: bytes.drop (i + 3) := by
  obtain ⟨hfst, hsnd, hthird⟩ := h
  obtain ⟨hi, hfst⟩ := List.getElem?_eq_some_iff.mp hfst
  obtain ⟨hi', hsnd⟩ := List.getElem?_eq_some_iff.mp hsnd
  obtain ⟨hi'', hthird⟩ := List.getElem?_eq_some_iff.mp hthird
  calc bytes = bytes.take i ++ bytes.drop i := (List.take_append_drop i bytes).symm
    _ = bytes.take i ++ 0#8 :: 0#8 :: 1#8 :: bytes.drop (i + 3) := by
      rw [List.drop_eq_getElem_cons hi, hfst, List.drop_eq_getElem_cons hi', hsnd, List.drop_eq_getElem_cons hi'',
        hthird]

theorem not_startCodeAt_escape (i : Nat) : ¬ StartCodeAt (escape zeros bytes) i :=
  fun h => absurd (escape_window zeros bytes _ _ 1#8 h.split) (by decide)

end ExynosHal.Library.StartCode
