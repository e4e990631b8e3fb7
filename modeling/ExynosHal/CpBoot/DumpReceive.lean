import ExynosHal.CpBoot.SendBin
import ExynosHal.Library.LittleEndian

/-! # Receiving a crash dump

`std_dump_receive_cp_dump` of `ProtocolSit.cpp` and `ProtocolSipc.cpp`. The messages and the
results of the calls are inputs. A run without a result waits for a message, has written past
the end of a buffer, or has added up more than an `int` holds.
-/

namespace ExynosHal.CpBoot.DumpReceive
open SendBin Library.LittleEndian
open List (length_append length_take nil_append)
open BitVec (ofInt ofNat)

def enomem : Int := -12

def u16At (bytes : List Byte) (i : Nat) : U16 := ofNat 16 (ofLittleEndian ((bytes.drop i).take 2))

def u32At (bytes : List Byte) (i : Nat) : U32 := ofNat 32 (ofLittleEndian ((bytes.drop i).take 4))

/-- A poll fails, or a read. -/
inductive Failure where
  | poll | read
  deriving DecidableEq

def Failure.ret : Failure → Int
  | .poll => eio
  | .read => -1

/-- The message that a read finds, which takes as much of it as it asks for. -/
abbrev Received := Except Failure (List Byte)

/-- The answers to `std_udl_req_resp`; `resp` is the variable after the read. -/
structure Exchange where
  write : Bool := true
  poll : Bool := true
  read : Bool := true
  resp : U32

/-- `std_udl_req_resp` with a request and a response. -/
def reqResp (x : Exchange) (exp : U32) : Int :=
  if !x.write then -1
  else if !x.poll then eio
  else if !x.read then -1
  else if x.resp ≠ exp then efault
  else 0

/-- A read or a write of `length` bytes, of which the buffer has `room`. -/
structure Access where
  length : Nat
  room : Nat
  deriving DecidableEq

/-- A frame, and what it should have been. It is `whole` if the payload that it announces came with it. -/
structure Frame where
  cmd : U32
  exp : U32
  number : U32 := 0
  seqn : U32 := 0
  payload : List Byte
  whole : Bool := true
  deriving DecidableEq

/-- What a run has done: the accesses whose length comes from a message, the frames received, the dump file, the
announced size, and whether the DONE exchange has succeeded. -/
structure Dump where
  accesses : List Access := []
  frames : List Frame := []
  file : List Byte := []
  announced : U32 := 0
  done : Bool := false
  deriving DecidableEq

def Dump.access (d : Dump) (length room : Nat) : Dump := { d with accesses := d.accesses ++ [⟨length, room⟩] }

def Dump.receive (d : Dump) (f : Frame) : Dump := { d with frames := d.frames ++ [f] }

/-- `write` to the dump file, which takes `written` bytes at most. -/
def Dump.store (d : Dump) (bytes : List Byte) (written : Nat) : Dump := { d with file := d.file ++ bytes.take written }

abbrev Result := Dump × Option Int

def Dump.exchangeDone (d : Dump) (x : Exchange) (exp : U32) : Result :=
  if reqResp x exp < 0 then (d, some (reqResp x exp)) else ({ d with done := true }, some 0)

namespace Sit

/-- `sizeof(struct sit_dump_info)`. -/
def dumpInfoSize : Nat := 520

def readyCmd : U32 := (ProtocolSit.msg 0xC 0x0 0x0 0xD).setWidth 32
def startCmd : U16 := ProtocolSit.msg 0xC 0x2 0x0 0x0
def dataCmd : U16 := ProtocolSit.msg 0xC 0x2 0x0 0xB
def doneCmd : U32 := (ProtocolSit.msg 0xC 0x2 0x0 0xD).setWidth 32

structure Round where
  header : Received
  calloc : Bool := true
  data : Received
  write : Option Nat

def recvLength (header : List Byte) : Nat := (u16At header 2).toNat - 8

/-- The rest of a round after its header: the payload, or what the function returns. `prev` is the size of the buffer.
-/
def Round.payload (r : Round) (header : List Byte) (prev : Nat) : Except Int (List Byte) :=
  if u16At header 0 ≠ dataCmd then .error 12
  else if u16At header 2 ≤ 8 then .error 12
  else if prev < recvLength header ∧ !r.calloc then .error enomem
  else
    match r.data with
    | .error f => .error f.ret
    | .ok message => .ok (message.take (recvLength header))

def finish (done : Exchange) (total : U32) (saved : Nat) (d : Dump) : Result :=
  if (saved : Int) ≠ total.toInt then (d, some efault) else d.exchangeDone done doneCmd

structure Input where
  ready : Exchange
  startWrite : Bool := true
  startPoll : Bool := true
  header : Received
  info : Received
  rounds : List Round
  done : Exchange

end Sit

namespace Sipc

/-- `STD_UDL_MTU`, the size of `struct std_udl_frame`. -/
def stdUdlMtu : Nat := 16 + stdUdlMss

def crashReasonSize : Nat := 512

def startCmd : U32 := 0xAD00
def doneCmd : U32 := 0xAD0D
def stepCmd (step : U32) : U32 := startCmd ||| step

/-- A read into `frm`: what is behind the message stays. -/
def overlay (frm message : List Byte) : List Byte := message.take stdUdlMtu ++ frm.drop (message.take stdUdlMtu).length

def frmLen (frm : List Byte) : Nat := (u32At frm 12).toNat

structure FrameInput where
  message : Received
  write : Option Nat

structure Step where
  start : Bool := true
  frames : List FrameInput

/-- The length of the reason before the modem's is added, and the answers to `std_ul_recv_info`. -/
structure InfoInput where
  reasonLength : Nat
  info : Received
  reason : Received
  write : Bool := true
  fsync : Bool := true

def InfoInput.numSteps (i : InfoInput) : U32 :=
  match i.info with
  | .error _ => 0
  | .ok message => u32At (message.take 12) 4

def InfoInput.dumpSize (i : InfoInput) : U32 :=
  match i.info with
  | .error _ => 0
  | .ok message => u32At (message.take 12) 0

/-- `fsync` of the dump file with its `errno` if it fails. -/
structure Input where
  start : Exchange
  info : InfoInput
  steps : List Step
  fsync : Option Nat := none
  done : Exchange

def finish (i : Input) (saved : U32) (d : Dump) : Result :=
  if saved ≠ d.announced then (d, some efault)
  else
    match i.fsync with
    | some errno => (d, some errno)
    | none => d.exchangeDone i.done doneCmd

end Sipc

def payloads (frames : List Frame) : List Byte := (frames.map Frame.payload).flatten

def Frame.Good (f : Frame) : Prop := f.cmd = f.exp ∧ f.number = f.seqn ∧ f.whole

/-- The file is what the frames brought and has the announced size, and the DONE exchange has succeeded. -/
structure Complete (d : Dump) : Prop where
  frames : ∀ f ∈ d.frames, f.Good
  file : d.file = payloads d.frames
  size : d.file.length = d.announced.toNat
  done : d.done

/-- The dump is reported as received. -/
def Reported (r : Result) : Prop := ∃ ret ∈ r.2, 0 ≤ ret

namespace Sit

/-- The message and the write of a round that the loop gets to are as they should be. -/
def Sound (total : U32) : List Round → U32 → Nat → Prop
  | [], _, _ => True
  | r :: rest, offset, prev =>
    ∀ header, r.header = .ok header → 12 ≤ header.length → u16At header 0 = dataCmd ∧ 8 < u16At header 2 ∧
      (recvLength header ≤ prev ∨ r.calloc → ∀ message written, r.data = .ok message → r.write = some written →
        let bytes := message.take (recvLength header)
        bytes.length ≤ written ∧ (offset + ofNat 32 bytes.length < total →
          Sound total rest (offset + ofNat 32 bytes.length) (max prev (recvLength header))))

/-- Every check that the loop makes passes, or the loop ends at one that leaves a byte count in `ret`: no poll, read,
write or allocation fails, no header is short, what was written adds up to `total`, and DONE is answered. -/
def Accepted (done : Exchange) (total : U32) : List Round → U32 → Nat → Nat → Prop
  | [], _, _, _ => False
  | r :: rest, offset, saved, prev => ∃ header, r.header = .ok header ∧ 12 ≤ header.length ∧
    (u16At header 0 ≠ dataCmd ∨ u16At header 2 ≤ 8 ∨ (recvLength header ≤ prev ∨ r.calloc) ∧
      ∃ message, r.data = .ok message ∧ ∃ written, r.write = some written ∧
        let bytes := message.take (recvLength header)
        let saved := saved + (bytes.take written).length
        let offset := offset + ofNat 32 bytes.length
        saved < 2147483648 ∧
          if total ≤ offset then (saved : Int) = total.toInt ∧ 0 ≤ reqResp done doneCmd
          else Accepted done total rest offset saved (max prev (recvLength header)))

/-- The dump information comes with as many bytes as announced, and so do the rounds. -/
def Input.Sound (i : Input) : Prop := ∀ header message, i.header = .ok header → i.info = .ok message →
    (u16At header 2).toNat ≤ message.length ∧ Sit.Sound (u32At (message.take (u16At header 2).toNat) 0) i.rounds 0 0

def Input.Accepted (i : Input) : Prop := 0 ≤ reqResp i.ready readyCmd ∧ i.startWrite ∧ i.startPoll ∧
  ∃ header, i.header = .ok header ∧ 4 ≤ header.length ∧ u16At header 0 = startCmd ∧ ∃ message, i.info = .ok message ∧
    let info := message.take (u16At header 2).toNat
    info.length ≤ dumpInfoSize ∧
      (info.length < (u16At header 2).toNat ∨ Sit.Accepted i.done (u32At info 0) i.rounds 0 0 0)

end Sit

namespace Sipc

/-- The frames that the loop gets to come in order, with their payload, and are written as a whole. -/
def FramesSound (exp : U32) : List FrameInput → U32 → List Byte → Prop
  | [], _, _ => True
  | f :: rest, seqn, frm =>
    ∀ message, f.message = .ok message →
      let frm := overlay frm message
      u32At frm 0 = exp → u32At frm 8 = seqn ∧ 16 + frmLen frm ≤ message.length ∧
        ∀ written, f.write = some written → frmLen frm ≤ written ∧
          (u32At frm 8 < u32At frm 4 → FramesSound exp rest (seqn + 1) frm)

/-- What the frames announce. -/
def framesTotal : List FrameInput → List Byte → Nat
  | [], _ => 0
  | f :: rest, frm =>
    match f.message with
    | .error _ => 0
    | .ok message =>
      let frm := overlay frm message
      frmLen frm + if u32At frm 8 < u32At frm 4 then framesTotal rest frm else 0

/-- The step ends without a failure and counts as `count` bytes: the announced lengths, or the bytes of a frame whose
number is wrong. -/
def FramesCount (exp count : U32) : List FrameInput → U32 → U32 → List Byte → Prop
  | [], _, _, _ => False
  | f :: rest, seqn, saved, frm => ∃ message, f.message = .ok message ∧
      let frm := overlay frm message
      u32At frm 0 = exp ∧ if u32At frm 8 ≠ seqn then count = ofNat 32 (message.take stdUdlMtu).length
        else frmLen frm ≤ stdUdlMss ∧ f.write.isSome ∧
          if u32At frm 8 < u32At frm 4 then FramesCount exp count rest (seqn + 1) (saved + u32At frm 12) frm
          else count = saved + u32At frm 12 ∧ 0 ≤ count.toInt

def emptyFrame : List Byte := List.replicate stdUdlMtu 0

def StepsSound (numSteps : U32) : List Step → U32 → Prop
  | [], _ => True
  | s :: rest, step => step ≤ numSteps → FramesSound (stepCmd step) s.frames 1 emptyFrame ∧
  StepsSound numSteps rest (step + 1)

def stepsTotal (numSteps : U32) : List Step → U32 → Nat
  | [], _ => 0
  | s :: rest, step =>
    if step ≤ numSteps then framesTotal s.frames emptyFrame + stepsTotal numSteps rest (step + 1) else 0

structure Input.Sound (i : Input) : Prop where
  steps : StepsSound i.info.numSteps i.steps 1
  total : stepsTotal i.info.numSteps i.steps 1 < 4294967296
  fsync : i.fsync = none

/-- The sum is the announced one, and DONE is answered unless `fsync` fails before. -/
def Input.FinishAccepted (i : Input) (saved : U32) : Prop :=
  saved = i.info.dumpSize ∧ (i.fsync = none → 0 ≤ reqResp i.done doneCmd)

def StepsAccepted (i : Input) : List Step → U32 → U32 → Prop
  | [], step, saved => i.info.numSteps < step ∧ i.FinishAccepted saved
  | s :: rest, step, saved =>
    if step ≤ i.info.numSteps then
      s.start ∧ ∃ count, FramesCount (stepCmd step) count s.frames 1 0 emptyFrame ∧ StepsAccepted i rest (step + 1)
        (saved + count)
    else i.FinishAccepted saved

def InfoInput.Accepted (i : InfoInput) : Prop := ∃ message reason, i.info = .ok message ∧ i.reason = .ok reason ∧
  (reason.take (u32At (message.take 12) 8).toNat).length ≤ crashReasonSize - i.reasonLength ∧ i.write ∧ i.fsync

def Input.Accepted (i : Input) : Prop := 0 ≤ reqResp i.start startCmd ∧ i.info.Accepted ∧ StepsAccepted i i.steps 1 0

end Sipc

/-- From `d` to `d'` frames came and bytes were written, of `total` bytes if all went well, which is what `sound` says.
-/
def Gained (d d' : Dump) (sound : Prop) (total : Nat) : Prop :=
  ∃ frames bytes, d'.frames = d.frames ++ frames ∧ d'.file = d.file ++ bytes ∧ d'.announced = d.announced ∧
    d'.done = d.done ∧ bytes.length ≤ (payloads frames).length ∧
    (bytes.length = (payloads frames).length → bytes = payloads frames) ∧
    (sound ↔ (∀ f ∈ frames, f.Good) ∧ bytes.length = (payloads frames).length) ∧
    (sound → (payloads frames).length = total)

section
variable {d d' d'' : Dump} {p q : Prop} {a b : Nat}

theorem payloads_append (frames frames' : List Frame) :
    payloads (frames ++ frames') = payloads frames ++ payloads frames' := by
  simp [payloads]

theorem Gained.trans (h : Gained d d' p a) (h' : Gained d' d'' q b) : Gained d d'' (p ∧ q) (a + b) := by
  obtain ⟨f, w, hf, hw, hann, hdone, hle, heq, hsound, htotal⟩ := h
  obtain ⟨f', w', hf', hw', hann', hdone', hle', heq', hsound', htotal'⟩ := h'
  refine ⟨f ++ f', w ++ w', by rw [hf', hf, List.append_assoc], by rw [hw', hw, List.append_assoc],
    hann'.trans hann, hdone'.trans hdone, ?_, ?_, ?_, ?_⟩
  · rw [payloads_append, length_append, length_append]
    omega
  · rw [payloads_append, length_append, length_append]
    intro hsame
    rw [heq (by omega), heq' (by omega)]
  · rw [hsound, hsound', payloads_append, length_append, length_append, List.forall_mem_append]
    constructor
    · rintro ⟨⟨hgood, hlen⟩, hgood', hlen'⟩
      exact ⟨⟨hgood, hgood'⟩, by omega⟩
    · rintro ⟨⟨hgood, hgood'⟩, hlen⟩
      exact ⟨⟨hgood, by omega⟩, hgood', by omega⟩
  · rintro ⟨hp, hq⟩
    rw [payloads_append, length_append, htotal hp, htotal' hq]

theorem Gained.congr (h : Gained d d' p a) (hiff : p ↔ q) (htotal : q → a = b) : Gained d d' q b := by
  obtain ⟨f, w, hf, hw, hann, hdone, hle, heq, hsound, hlen⟩ := h
  exact ⟨f, w, hf, hw, hann, hdone, hle, heq, hiff.symm.trans hsound,
    fun hq => (hlen (hiff.mpr hq)).trans (htotal hq)⟩

variable (h : Gained d d' p a)
include h

theorem Gained.announced : d'.announced = d.announced := by
  obtain ⟨f, w, -, -, hann, -⟩ := h
  exact hann

theorem Gained.done : d'.done = d.done := by
  obtain ⟨f, w, -, -, -, hdone, -⟩ := h
  exact hdone

theorem Gained.complete (hframes : d.frames = []) (hfile : d.file = []) (hp : p)
    (hsize : d'.file.length = d.announced.toNat) : Complete { d' with done := true } := by
  obtain ⟨f, w, hf, hw, hann, -, -, heq, hsound, -⟩ := h
  rw [hframes, nil_append] at hf
  rw [hfile, nil_append] at hw
  obtain ⟨hgood, hlen⟩ := hsound.mp hp
  exact ⟨fun g hg => hgood g (hf ▸ hg), by rw [hw, hf]; exact heq hlen, hsize.trans (by rw [hann]), rfl⟩

end

section
variable {d : Dump} {ret : Int}

end

namespace Sit

variable {done : Exchange} {total : U32} {d d' : Dump} {ret : Int} {prev : Nat}

variable {rounds : List Round} {offset : U32}

variable {saved : Nat}

end Sit

namespace Sipc

variable {exp : U32} {d d' : Dump} {ret : Int} {count : U32}

variable {fs : List FrameInput} {seqn saved : U32} {frm : List Byte}

variable {i : Input} {saved : U32}

variable {step : U32}

end Sipc

end ExynosHal.CpBoot.DumpReceive
