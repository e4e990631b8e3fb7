import ExynosHal.Library.Words
import Mathlib.Tactic

/-! # Sending a binary to the modem

`std_dl_send_bin` and `std_dl_tx_frame` of `ProtocolSit.cpp` and `ProtocolSipc.cpp`. The
binary is taken from a buffer if the pointer to it is not NULL, and read from the file
otherwise; the pointer is advanced after every frame in either case. Copying from a pointer
that does not point into the buffer is undefined, `none`.
-/

namespace ExynosHal.CpBoot.SendBin
open List (length_drop range' replicate)
open BitVec (ofNat)

def stdUdlMss : Nat := 16 * 1024

def eio : Int := -5
def efault : Int := -14

/-- The values of `b_buffer`: NULL, a place in the buffer, or an address that NULL has been advanced to. -/
inductive Pointer where
  | null
  | buffer (offset : Nat)
  | wild (address : Nat)

def Pointer.add : Pointer → Nat → Pointer
  | .null, 0 => .null
  | .null, n + 1 => .wild (n + 1)
  | .buffer offset, n => .buffer (offset + n)
  | .wild address, n => .wild (address + n)

def readSegment (binary : List Byte) : Pointer → List Byte → Nat → Option (List Byte × List Byte)
  | .null, file, len => some (file.take len, file.drop len)
  | .buffer offset, file, len =>
    if offset + len ≤ binary.length then some ((binary.drop offset).take len, file) else none
  | .wild _, _, _ => none

/-- What the modem answers to the `n`-th frame: the result of the write, and of the poll and the read for a
response. -/
structure Modem where
  write : Nat → Int
  poll : Nat → Bool
  read : Nat → Int
  resp : Nat → U32

def Modem.reqResp (m : Modem) (n : Nat) (exp : U32) : Int :=
  if ¬m.poll n then eio
  else if m.read n < 0 then m.read n
  else if m.resp n ≠ exp then efault
  else 0

def Modem.writeFrame (m : Modem) (n len : Nat) : Int :=
  if m.write n < 0 then m.write n else if m.write n ≠ len then efault else 0

/-- What tells the protocols apart: the frame for a segment, from its number, its offset, its length and its bytes;
what follows a frame; and what follows the last one. -/
structure Protocol (F : Type) where
  frame : Nat → Nat → Nat → List Byte → F
  exchange : Modem → Nat → Nat → Int
  finish : Modem → Nat → Int

section
variable {F : Type} (p : Protocol F) (m : Modem) (binary : List Byte) (size : Nat)

/-- The loop from the `k`-th frame on, with what is written and returned. -/
def sendLoop : Nat → Nat → Nat → Pointer → List Byte → Option (List F × Int)
  | 0, _, _, _, _ => none
  | fuel + 1, k, rest, pointer, file =>
    if rest = 0 then some ([], p.finish m k)
    else
      let len := min rest stdUdlMss
      match readSegment binary pointer file len with
      | none => none
      | some (data, file) =>
        if data.length ≠ len then some ([], efault)
        else
          let ret := p.exchange m k len
          if ret < 0 then some ([p.frame k (size - rest) len data], ret)
          else
            (sendLoop fuel (k + 1) (rest - len) (pointer.add len) file).map fun (frames, ret) =>
              (p.frame k (size - rest) len data :: frames, ret)

def frameCount : Nat :=
  if size > stdUdlMss * (size / stdUdlMss) then size / stdUdlMss + 1 else size / stdUdlMss

def sendBin (pointer : Pointer) (file : List Byte) : Option (List F × Int) :=
  sendLoop p m binary size (frameCount size + 1) 0 size pointer file

end

/-- `struct exynos_payload`, as far as it is written. -/
structure ExynosPayload where
  cmd : U16
  length : U16
  totalSize : U32
  dataOffset : U32
  pdata : List Byte

/-- `struct std_udl_frame`, as far as it is written. -/
structure StdUdlFrame where
  cmd : U32
  numFrames : U32
  currFrame : U32
  len : U32
  data : List Byte
  deriving DecidableEq

namespace ProtocolSit

def msg (dir cmd index stat : U32) : U16 :=
  ((dir <<< 12) ||| (cmd <<< 8) ||| (index <<< 4) ||| stat).setWidth 16

/-- Each frame is answered. The length sent is that of the segment with its size and offset. -/
def protocol (stage size : U32) : Protocol ExynosPayload where
  frame _ offset len pdata := {
      cmd := msg 0xA 0x1 stage 0xB, length := ofNat 16 len + 8, totalSize := size,
      dataOffset := ofNat 32 offset, pdata }
  exchange m k len :=
    if m.writeFrame k (12 + len) < 0 then m.writeFrame k (12 + len)
    else m.reqResp k ((msg 0xC 0x1 stage 0xB).setWidth 32)
  finish _ _ := 0

def stdDlSendBin (m : Modem) (stage size : U32) (binary : List Byte) (pointer : Pointer) (file : List Byte) :
    Option (List ExynosPayload × Int) :=
  sendBin (protocol stage size) m binary size.toNat pointer file

end ProtocolSit

namespace ProtocolSipc

def command (dir stage : U32) : U32 := dir ||| (stage <<< 8) ||| 0x1

def protocol (stage size : U32) : Protocol StdUdlFrame where
  frame k _ len data := {
      cmd := command 0x9000 stage, numFrames := ofNat 32 (frameCount size.toNat),
      currFrame := ofNat 32 (k + 1), len := ofNat 32 len, data }
  exchange m k len := m.writeFrame k (16 + len)
  finish m k := m.reqResp k (command 0xA000 stage)

def stdDlSendBin (m : Modem) (stage size : U32) (binary : List Byte) (pointer : Pointer) (file : List Byte) :
    Option (List StdUdlFrame × Int) :=
  sendBin (protocol stage size) m binary size.toNat pointer file

end ProtocolSipc

section
variable {F : Type} (p : Protocol F) (m : Modem) (binary : List Byte)

def segmentLen (size k : Nat) : Nat := min (size - k * stdUdlMss) stdUdlMss

def Protocol.frameAt (k : Nat) : F :=
  p.frame k (k * stdUdlMss) (segmentLen binary.length k) ((binary.drop (k * stdUdlMss)).take stdUdlMss)

/-- The frames of a binary: its segments one after the other, the last one with the remainder. -/
def Protocol.frames : List F := (List.range (frameCount binary.length)).map (p.frameAt binary)

/-- Both ways write the same frames: those of the binary, all of them unless an error is returned. -/
def SameFrames (cached uncached : Option (List F × Int)) : Prop :=
  ∃ sent ret ret', cached = some (sent, ret) ∧ uncached = some (sent, ret') ∧ sent <+: p.frames binary ∧
    (0 ≤ ret ∨ 0 ≤ ret' → sent = p.frames binary)

def Protocol.perform : Nat → Nat → List F × Int
  | 0, k => ([], p.finish m k)
  | n + 1, k =>
    if p.exchange m k (segmentLen binary.length k) < 0 then
      ([p.frameAt binary k], p.exchange m k (segmentLen binary.length k))
    else (p.frameAt binary k :: (perform n (k + 1)).1, (perform n (k + 1)).2)

end

section
variable {F : Type} {p : Protocol F} {m : Modem} {binary : List Byte}

theorem lt_frameCount_iff {size k : Nat} : k < frameCount size ↔ k * stdUdlMss < size := by
  unfold frameCount stdUdlMss
  split <;> omega

theorem perform_isPrefix (n k : Nat) : (p.perform m binary n k).1 <+: (range' k n).map (p.frameAt binary) ∧
      (0 ≤ (p.perform m binary n k).2 → (p.perform m binary n k).1 = (range' k n).map (p.frameAt binary)) := by
  induction n generalizing k with
  | zero => exact ⟨List.prefix_rfl, fun _ => rfl⟩
  | succ n ih =>
    obtain ⟨hbegins, hall⟩ := ih (k + 1)
    rw [Protocol.perform, List.range'_succ, List.map_cons]
    split
    · rename_i hfails
      exact ⟨List.cons_prefix_cons.mpr ⟨rfl, List.nil_prefix⟩, fun hret => absurd hret (Int.not_le.mpr hfails)⟩
    · exact ⟨List.cons_prefix_cons.mpr ⟨rfl, hbegins⟩, fun hret => congrArg (List.cons _) (hall hret)⟩

theorem frames_eq : p.frames binary = (range' 0 (frameCount binary.length)).map (p.frameAt binary) := by
  rw [Protocol.frames, List.range_eq_range']

theorem take_segmentLen (k : Nat) : (binary.drop (k * stdUdlMss)).take (segmentLen binary.length k) =
      (binary.drop (k * stdUdlMss)).take stdUdlMss := by
  rw [segmentLen, ← length_drop, Nat.min_comm, ← List.take_eq_take_min]

theorem sendLoop_buffer {n k : Nat} (hcnt : k + n = frameCount binary.length) {pointer : Pointer}
    (hptr : n ≠ 0 → pointer = .buffer (k * stdUdlMss)) (file : List Byte) :
    sendLoop p m binary binary.length (n + 1) k (binary.length - k * stdUdlMss) pointer file =
      some (p.perform m binary n k) := by
  induction n generalizing k pointer with
  | zero =>
    have hdone : binary.length - k * stdUdlMss = 0 := by
      have hnot : ¬k * stdUdlMss < binary.length := by
        rw [← lt_frameCount_iff]
        omega
      omega
    rw [sendLoop, if_pos hdone, Protocol.perform]
  | succ n ih =>
    have hmore : k * stdUdlMss < binary.length := lt_frameCount_iff.mp (by omega)
    have hlen : min (binary.length - k * stdUdlMss) stdUdlMss = segmentLen binary.length k := rfl
    have hfits : k * stdUdlMss + segmentLen binary.length k ≤ binary.length := by
      unfold segmentLen
      omega
    have hdata : ((binary.drop (k * stdUdlMss)).take stdUdlMss).length = segmentLen binary.length k := by
      rw [List.length_take, length_drop, Nat.min_comm]
      rfl
    have hoff : binary.length - (binary.length - k * stdUdlMss) = k * stdUdlMss := by omega
    have hrest : binary.length - k * stdUdlMss - segmentLen binary.length k = binary.length - (k + 1) * stdUdlMss := by
      unfold segmentLen
      rw [Nat.succ_mul]
      omega
    rw [sendLoop, if_neg (by omega)]
    dsimp only
    rw [hlen, hptr (Nat.succ_ne_zero n), readSegment, if_pos hfits]
    dsimp only
    rw [take_segmentLen, hdata, if_neg (not_not.mpr rfl), hoff, Protocol.perform]
    split
    · rfl
    · rw [hrest, ih (by omega)]
      · rfl
      · intro hn
        have hfull : segmentLen binary.length k = stdUdlMss := by
          have hnext : (k + 1) * stdUdlMss < binary.length := lt_frameCount_iff.mp (by omega)
          rw [Nat.succ_mul] at hnext
          unfold segmentLen
          omega
        rw [Pointer.add, hfull, Nat.succ_mul]

theorem sendBin_null (hpos : 0 < binary.length) (more : List Byte) :
    sendBin p m binary binary.length .null (binary ++ more) =
      if binary.length ≤ stdUdlMss ∨ p.exchange m 0 (segmentLen binary.length 0) < 0 then
        some (p.perform m binary (frameCount binary.length) 0)
      else none := by
  obtain ⟨n, hn⟩ : ∃ n, frameCount binary.length = n + 1 := by
    have hfst : 0 < frameCount binary.length := lt_frameCount_iff.mpr (by omega)
    exact ⟨frameCount binary.length - 1, by omega⟩
  have hlen : min binary.length stdUdlMss = segmentLen binary.length 0 := by
    rw [segmentLen, Nat.zero_mul, Nat.sub_zero]
  have hsegment : (binary ++ more).take (segmentLen binary.length 0) =
      (binary.drop (0 * stdUdlMss)).take stdUdlMss := by
    have hle : segmentLen binary.length 0 ≤ binary.length := by
      unfold segmentLen
      omega
    rw [List.take_append_of_le_length hle, ← take_segmentLen 0, Nat.zero_mul, List.drop_zero]
  have hdata : ((binary.drop (0 * stdUdlMss)).take stdUdlMss).length = segmentLen binary.length 0 := by
    rw [List.length_take, length_drop, Nat.min_comm]
    rfl
  rw [sendBin, hn, sendLoop, if_neg (by omega)]
  dsimp only
  rw [hlen, readSegment]
  dsimp only
  rw [hsegment, hdata, if_neg (not_not.mpr rfl), Protocol.perform, Nat.sub_self]
  split
  · rename_i hfails
    rw [if_pos (.inr hfails), Protocol.frameAt, Nat.zero_mul]
  · rename_i hok
    have hmss : 0 < stdUdlMss := by decide
    rcases Nat.lt_or_ge stdUdlMss binary.length with hlong | hshort
    · have hfull : segmentLen binary.length 0 = stdUdlMss := by
        unfold segmentLen
        omega
      have hwild : Pointer.add .null (segmentLen binary.length 0) = .wild stdUdlMss := by
        rw [hfull]
        rfl
      rw [if_neg (by omega), sendLoop, if_neg (by omega), hwild]
      rfl
    · have hlast : n = 0 := by
        have hone : ¬1 < frameCount binary.length := by
          rw [lt_frameCount_iff]
          omega
        omega
      have hdone : binary.length - segmentLen binary.length 0 = 0 := by
        unfold segmentLen
        omega
      rw [if_pos (.inl hshort), hlast, hdone, sendLoop, if_pos rfl, Protocol.perform, Protocol.frameAt, Nat.zero_mul]
      rfl

theorem sendBin_buffer (file : List Byte) :
    sendBin p m binary binary.length (.buffer 0) file = some (p.perform m binary (frameCount binary.length) 0) := by
  have hptr : frameCount binary.length ≠ 0 → Pointer.buffer 0 = .buffer (0 * stdUdlMss) := fun _ => by
    rw [Nat.zero_mul]
  have hloop := sendLoop_buffer (p := p) (m := m) (Nat.zero_add _) hptr file
  rwa [Nat.zero_mul, Nat.sub_zero] at hloop

theorem sameFrames_iff (hpos : 0 < binary.length) (file more : List Byte) :
    SameFrames p binary (sendBin p m binary binary.length (.buffer 0) file)
        (sendBin p m binary binary.length .null (binary ++ more)) ↔
      binary.length ≤ stdUdlMss ∨ p.exchange m 0 (segmentLen binary.length 0) < 0 := by
  obtain ⟨hbegins, hall⟩ := @perform_isPrefix F p m binary (frameCount binary.length) 0
  rw [sendBin_buffer, sendBin_null hpos]
  split
  · rename_i hsame
    refine iff_of_true ⟨_, _, _, rfl, rfl, ?_, fun hret => ?_⟩ hsame
    · rwa [frames_eq]
    · rw [frames_eq]
      exact hall (hret.elim id id)
  · rename_i hdiffer
    refine iff_of_false ?_ hdiffer
    rintro ⟨sent, ret, ret', -, hundefined, -⟩
    cases hundefined

end

/-- In either protocol the binary is sent from the file as from the buffer just when it is one frame, or the modem
does not take the first of them. -/
theorem stdDlSendBin_same_iff (m : Modem) (stage size : U32) (binary file more : List Byte)
    (hsize : binary.length = size.toNat) (hpos : size ≠ 0) :
    (SameFrames (ProtocolSit.protocol stage size) binary (ProtocolSit.stdDlSendBin m stage size binary (.buffer 0) file)
        (ProtocolSit.stdDlSendBin m stage size binary .null (binary ++ more)) ↔
      size.toNat ≤ stdUdlMss ∨ (ProtocolSit.protocol stage size).exchange m 0 (segmentLen size.toNat 0) < 0) ∧
    (SameFrames (ProtocolSipc.protocol stage size) binary
        (ProtocolSipc.stdDlSendBin m stage size binary (.buffer 0) file)
        (ProtocolSipc.stdDlSendBin m stage size binary .null (binary ++ more)) ↔
      size.toNat ≤ stdUdlMss ∨ (ProtocolSipc.protocol stage size).exchange m 0 (segmentLen size.toNat 0) < 0) := by
  have hlen : 0 < binary.length := by
    rw [hsize]
    exact Nat.pos_of_ne_zero fun hzero => hpos (BitVec.eq_of_toNat_eq hzero)
  rw [ProtocolSit.stdDlSendBin, ProtocolSit.stdDlSendBin, ProtocolSipc.stdDlSendBin, ProtocolSipc.stdDlSendBin, ← hsize]
  exact ⟨sameFrames_iff hlen file more, sameFrames_iff hlen file more⟩

/-- A modem that answers every frame, of which `written` bytes are written. -/
def willing (stage : U32) (written : Int) : Modem where
  write _ := written
  poll _ := true
  read _ := 4
  resp _ := (ProtocolSit.msg 0xC 0x1 stage 0xB).setWidth 32

theorem two_bytes_same : SameFrames (ProtocolSipc.protocol 2 2) [7, 8]
      (ProtocolSipc.stdDlSendBin (willing 2 18) 2 2 [7, 8] (.buffer 0) [])
      (ProtocolSipc.stdDlSendBin (willing 2 18) 2 2 [7, 8] .null ([7, 8] ++ [9])) :=
  (stdDlSendBin_same_iff (willing 2 18) 2 2 [7, 8] [] [9] rfl (by decide)).2.mpr (.inl (by decide))

theorem two_frames_differ : ¬SameFrames (ProtocolSit.protocol 2 16385) (replicate 16385 7)
      (ProtocolSit.stdDlSendBin (willing 2 16396) 2 16385 (replicate 16385 7) (.buffer 0) [])
      (ProtocolSit.stdDlSendBin (willing 2 16396) 2 16385 (replicate 16385 7) .null
        (replicate 16385 7 ++ [])) := by
  have hlen : (replicate 16385 (7 : Byte)).length = 16385 := List.length_replicate
  have hexch : ¬(ProtocolSit.protocol 2 16385).exchange (willing 2 16396) 0 (segmentLen 16385 0) < 0 := by decide
  have hundefined : ProtocolSit.stdDlSendBin (willing 2 16396) 2 16385 (replicate 16385 7) .null
      (replicate 16385 7 ++ []) = none := by
    have hpos : 0 < (replicate 16385 (7 : Byte)).length := by
      rw [hlen]
      decide
    have hnull := sendBin_null (p := ProtocolSit.protocol 2 16385) (m := willing 2 16396) hpos []
    rw [hlen, if_neg] at hnull
    · exact hnull
    · rintro (hshort | hfails)
      · exact absurd hshort (by decide)
      · exact hexch hfails
  rintro ⟨sent, ret, ret', -, hsent, -⟩
  rw [hundefined] at hsent
  cases hsent

end ExynosHal.CpBoot.SendBin
