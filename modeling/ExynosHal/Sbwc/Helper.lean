import Mathlib.Data.List.AList
import ExynosHal.Library.Arith

/-! # The SBWC helper

Three maps pair the SBWC buffers with the YUV buffers allocated for them and count
the users of each pair. `held` is the helper's account of buffer references: what
an allocation and `AHardwareBuffer_acquire` give and `AHardwareBuffer_release`
takes.
-/

namespace ExynosHal.Sbwc.Helper
open Library

variable {Buffer : Type} [DecidableEq Buffer] {Handle : Type} [DecidableEq Handle]

structure HelperState (Buffer Handle : Type) where
  yuvToSbwc : AList fun _ : Buffer => Buffer
  sbwcToYuv : AList fun _ : Buffer => Buffer
  ref : AList fun _ : Buffer => Int
  lastSrc : Option Handle
  lastDst : Option Handle
  held : Buffer → Int

def HelperState.empty : HelperState Buffer Handle := ⟨∅, ∅, ∅, none, none, fun _ => 0⟩

def HelperState.acquire (h : HelperState Buffer Handle) (b : Buffer) : HelperState Buffer Handle :=
  { h with held := Function.update h.held b (h.held b + 1) }

def HelperState.release (h : HelperState Buffer Handle) (b : Buffer) : HelperState Buffer Handle :=
  { h with held := Function.update h.held b (h.held b - 1) }

def insertNew {β : Type} (map : AList fun _ : Buffer => β) (key : Buffer) (value : β) :
    AList fun _ : Buffer => β :=
  if key ∈ map then map else map.insert key value

def HelperState.addRef (h : HelperState Buffer Handle) (yuv : Buffer) (change : Int) : HelperState Buffer Handle :=
  match h.ref.lookup yuv with
  | none => h
  | some n => { h with ref := h.ref.insert yuv (IntType.i32.convert (n + change)) }

inductive Outcome (Buffer : Type) where
  | failed
  | registered (yuv : Buffer)
  | shared (yuv : Buffer)
  | freed (yuv : Buffer)
  | deleted (yuv : Buffer)
  | decompressed

/-- The common body of the `newYuvAHB` overloads. `alloc` is the buffer of `allocAHB`, if any. -/
def newYuv (sbwc : Option Buffer) (isSbwc : Bool) (alloc : Option Buffer) (h : HelperState Buffer Handle) :
    Outcome Buffer × HelperState Buffer Handle :=
  match sbwc with
  | none => (.failed, h)
  | some sbwc =>
    if !isSbwc then (.failed, h)
    else
      match h.sbwcToYuv.lookup sbwc with
      | some yuv => (.shared yuv, (h.addRef yuv 1).acquire sbwc)
      | none =>
        match alloc with
        | none => (.failed, h)
        | some yuv =>
          let h := { h with held := Function.update h.held yuv (h.held yuv + 1) }
          let h := { h with
            yuvToSbwc := insertNew h.yuvToSbwc yuv sbwc
            sbwcToYuv := insertNew h.sbwcToYuv sbwc yuv
            ref := insertNew h.ref yuv 1 }
          (.registered yuv, h.acquire sbwc)

def freeYuv (yuv : Option Buffer) (h : HelperState Buffer Handle) : Outcome Buffer × HelperState Buffer Handle :=
  match yuv with
  | none => (.failed, h)
  | some yuv =>
    match h.yuvToSbwc.lookup yuv with
    | none => (.failed, h)
    | some sbwc =>
      match h.ref.lookup yuv with
      | none => (.failed, h)
      | some n =>
        if n ≤ 0 then (.failed, h)
        else if n > 1 then (.freed yuv, (h.addRef yuv (-1)).release sbwc)
        else
          let h := { h with
            sbwcToYuv := h.sbwcToYuv.erase sbwc
            yuvToSbwc := h.yuvToSbwc.erase yuv }
          let h := (h.release yuv).release sbwc
          if h.sbwcToYuv.entries.length = 0 ∧ h.yuvToSbwc.entries.length = 0 then
            (.deleted yuv, { h with lastSrc := none, lastDst := none })
          else (.deleted yuv, h)

/-- The YUV buffer that a successful `newYuvAHB` hands out. -/
def Outcome.buffer : Outcome Buffer → Option Buffer
  | .registered yuv | .shared yuv => some yuv
  | _ => none

def Outcome.succeeded : Outcome Buffer → Bool
  | .failed => false
  | _ => true

/-- `bool newYuvAHB(AHardwareBuffer *, AHardwareBuffer **)`: the result and `*outYuvAHB`. -/
def newYuvAHB (sbwc : Option Buffer) (isSbwc : Bool) (alloc : Option Buffer) (out : Option Buffer)
    (h : HelperState Buffer Handle) : Bool × Option Buffer × HelperState Buffer Handle :=
  match newYuv sbwc isSbwc alloc h with
  | (outcome, h) => (outcome.succeeded, if outcome.succeeded then outcome.buffer else out, h)

def newYuvAHBDeprecated (sbwc : Option Buffer) (isSbwc : Bool) (alloc : Option Buffer)
    (h : HelperState Buffer Handle) : Option Buffer × HelperState Buffer Handle :=
  match newYuv sbwc isSbwc alloc h with
  | (outcome, h) => (outcome.buffer, h)

/-- `bool freeYuvAHB(AHardwareBuffer **)`: the result and the pointee, which is cleared when the
pair is deleted. -/
def freeYuvAHB (yuv : Option (Option Buffer)) (h : HelperState Buffer Handle) :
    Bool × Option (Option Buffer) × HelperState Buffer Handle :=
  match freeYuv yuv.join h with
  | (.deleted _, h) => (true, some none, h)
  | (outcome, h) => (outcome.succeeded, yuv, h)

/-- `bool freeYuvAHB(AHardwareBuffer *)`. -/
def freeYuvAHBDeprecated (yuv : Option Buffer) (h : HelperState Buffer Handle) : Bool × HelperState Buffer Handle :=
  match freeYuv yuv h with
  | (outcome, h) => (outcome.succeeded, h)

/-- `requestDecompress`; `service` and `decodeOk` answer for the decompression service. -/
def requestDecompress (handle : Buffer → Option Handle) (service decodeOk : Bool) (yuv sbwc : Buffer)
    (h : HelperState Buffer Handle) : Bool × HelperState Buffer Handle :=
  if h.lastSrc = handle yuv ∧ h.lastDst = handle sbwc then (true, h)
  else if !service then (false, h)
  else if !decodeOk then (false, { h with lastSrc := none, lastDst := none })
  else (true, { h with lastSrc := handle yuv, lastDst := handle sbwc })

def decompress (handle : Buffer → Option Handle) (service decodeOk : Bool) (sbwc : Option Buffer)
    (h : HelperState Buffer Handle) : Bool × HelperState Buffer Handle :=
  match sbwc with
  | none => (false, h)
  | some sbwc =>
    match h.sbwcToYuv.lookup sbwc with
    | none => (false, h)
    | some yuv => requestDecompress handle service decodeOk yuv sbwc h

end ExynosHal.Sbwc.Helper
