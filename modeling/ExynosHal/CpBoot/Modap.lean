import Mathlib.Tactic
import ExynosHal.CpBoot.Toc

/-! # Booting the modem of an application processor

`BootDumpModap.cpp` in the default ioctl build: the download records, the transfer of
the images stage by stage and the security requests, up to the request that ends the
boot. What the device, the files and the properties answer is a parameter. `none` is
undefined behaviour: an access past the end of `dl_ctrl`.
-/

namespace ExynosHal.CpBoot.Modap

def payloadLen : Nat := 62 * 1024

def cpMemoryMask : U32 := 0x3FFFFFFF#32

/-- What the command line gives: whether `path_nv_data` is set, and two options. -/
structure CbdArgs where
  pathNvData : Bool := true
  verifyVss : Bool := false
  reinitVss : Bool := false

/-- With `first_stage_toc_type` being `TOC_TOC`. -/
def bootStage : Nat := 1

def tocStage : Nat := 0

/-- What `prepare_boot_args` sets besides the records. -/
structure Stages where
  start : Nat
  num : U32

attribute [local instance] neZero_sixteen

/-- The stage numbers that `prepare_boot_args` computes, `none` when it refuses the table. -/
def stages (build : Build) (args : CbdArgs) (toc : Toc) : Option Stages := do
  let count := (toc 0).tocCount
  let set ←
    if count = 1 then some ⟨bootStage, if build.protocolSit then 4 else 3⟩
    else if build.verifyingAll then do
      let t ← toc.idx .toc
      if (toc t).mOffset = 0 then none else some ⟨tocStage, count - 1⟩
    else some ⟨bootStage, count - 1⟩
  if args.pathNvData then some set else some { set with num := BitVec.ofNat 32 (max tocStage bootStage + 1) }

def record (build : Build) (args : CbdArgs) (fds : Fds) (toc : Toc) (i : Fin 16) : DloadControl where
  stage := i
  bFd := nvFd build fds toc i
  bOffset := (toc i).bOffset
  mOffset := (toc i).mOffset &&& cpMemoryMask
  bSize := (toc i).size
  crc := (toc i).crc
  dlOnce := toc.idx .vss = some i && !args.reinitVss

/-- The entries that the loop of `build_std_dload_control` comes to. -/
def scanned (toc : Toc) (set : Stages) : List Nat :=
  (List.range (set.num + 1).toNat).takeWhile fun idx => !((toc.idx .offset).map Fin.val == some idx)

def buildStdDloadControl (build : Build) (args : CbdArgs) (fds : Fds) (toc : Toc) (set : Stages) : Option DlCtrl :=
  (scanned toc set).foldlM (fun ctrl idx =>
    if idx < set.start then some ctrl
    else if h : idx < 16 then ctrl.put idx (record build args fds toc ⟨idx, h⟩)
    else none) DlCtrl.init

/-- What the device and the files answer. `read` and `loadCpImage` are the results for a chunk of a stage,
`firstXmitDone` is the first character of the property. -/
structure Env where
  offline : Bool := true
  powerReset : Int := 0
  powerOn : Int := 0
  reInit : Int := 0
  tocCheck : Int := 0
  vssCheck : Int := 0
  firstXmitDone : Int := 48
  malloc : Nat → Bool := fun _ => true
  lseek : Nat → Bool := fun _ => true
  read : Nat → Nat → Int
  loadCpImage : Nat → Nat → Int := fun _ _ => 0

/-- An `IOCTL_LOAD_CP_IMAGE` that was accepted: `len` bytes of a file for the memory at `mOffset`. -/
structure Chunk where
  stage : Nat
  fd : Int
  fileOffset : Nat
  mOffset : U32
  len : Nat
  deriving DecidableEq

/-- Whether the `k`-th round is the one that sets `last`. -/
def lastRound (dlc : DloadControl) (k : Nat) : Bool := dlc.bSize.toNat - k * payloadLen < payloadLen

/-- `img.len` in the `k`-th round. -/
def roundLen (dlc : DloadControl) (k : Nat) : Nat :=
  if lastRound dlc k then dlc.bSize.toNat - k * payloadLen else payloadLen

/-- The loop of `load_cp_image_by_stage` from its `k`-th round on, with the chunks that were accepted. -/
def loadChunks (env : Env) (stage : Nat) (dlc : DloadControl) : Nat → Nat → U32 → List Chunk × Int
  | 0, _, _ => ([], 0)
  | fuel + 1, k, mOffset =>
    let len := roundLen dlc k
    if env.read stage k < 0 then ([], env.read stage k)
    else if env.read stage k ≠ len then ([], -14)
    else if env.loadCpImage stage k ≠ 0 then ([], env.loadCpImage stage k)
    else
      let chunk := ⟨stage, dlc.bFd, dlc.bOffset.toNat + k * payloadLen, mOffset, len⟩
      if lastRound dlc k then ([chunk], 0)
      else
        let (rest, ret) := loadChunks env stage dlc fuel (k + 1) (mOffset + BitVec.ofNat 32 len)
        (chunk :: rest, ret)

/-- `lseek` returns a 64-bit offset, which is stored in an `int`. -/
def sought (env : Env) (stage : Nat) (dlc : DloadControl) : Int :=
  if env.lseek stage then dlc.bOffset.toInt else -1

def loadCpImageByStage (env : Env) (stage : Nat) (dlc : DloadControl) : List Chunk × Int :=
  if ¬env.malloc stage then ([], -12)
  else if sought env stage dlc < 0 then ([], sought env stage dlc)
  else if dlc.bSize = dlc.bOffset then ([], sought env stage dlc)
  else loadChunks env stage dlc (dlc.bSize.toNat / payloadLen + 1) 0 dlc.mOffset

def loadStage (env : Env) (stage : Nat) (dlc : DloadControl) : List Chunk × Int :=
  if dlc.dlOnce ∧ env.firstXmitDone = 49 then ([], 0)
  else if dlc.bFd < 0 then ([], 0)
  else if dlc.bSize = 0 then ([], 0)
  else loadCpImageByStage env stage dlc

def loadStages (env : Env) (ctrl : DlCtrl) : List Nat → Option (List Chunk × Int)
  | [] => some ([], 0)
  | stage :: rest => do
    let dlc ← ctrl[stage]?
    let (chunks, ret) := loadStage env stage dlc
    if ret < 0 then some (chunks, ret)
    else do
      let (more, ret) ← loadStages env ctrl rest
      some (chunks ++ more, ret)

def Stages.list (set : Stages) : List Nat := (List.range (set.num + 1).toNat).drop set.start

def loadCpImages (env : Env) (ctrl : DlCtrl) (set : Stages) : Option (List Chunk × Int) := do
  let (chunks, ret) ← loadStages env ctrl set.list
  if ret < 0 then some (chunks, ret) else some (chunks, env.firstXmitDone - 48)

inductive CpBootMode where
  | normal | reInit | manual | vss
  deriving DecidableEq

/-- The result of `std_security_req` for what the device returns. -/
def stdSecurityReq (mode : CpBootMode) (ret : Int) : Int :=
  if ret = 0 then 0 else if mode = .reInit ∧ ret = 11 then 0 else -1

/-- What was sent: the chunks, the requests for the TOC and the VSS, and the final one. -/
structure Outcome where
  loaded : List Chunk := []
  tocCheck : Option (U32 × U32) := none
  vssCheck : Option (CpBootMode × U32 × U32) := none
  final : Option (U32 × U32) := none

/-- The end of `boot`, after the checks of the TOC and the VSS. -/
def finalRequest (ctrl : DlCtrl) (out : Outcome) : Option Outcome := do
  let boot ← ctrl[1]?
  let main ← ctrl[2]?
  some { out with final := some (boot.bSize, main.bSize) }

def vssMode (args : CbdArgs) : CpBootMode :=
  if args.verifyVss then .vss else .manual

/-- The requests that `CONFIG_SEC_CP_VERIFYING_ALL` adds. `bootOnce` is what `load_cp_images` returned. -/
def verifyAll (args : CbdArgs) (toc : Toc) (env : Env) (ctrl : DlCtrl) (bootOnce : Int) (out : Outcome) :
    Option Outcome := do
  let first ← ctrl[0]?
  let out := { out with tocCheck := some (first.mOffset, first.bSize) }
  if stdSecurityReq .manual env.tocCheck < 0 then some out
  else if toc.idx .vss = none then finalRequest ctrl out
  else if bootOnce ≠ 0 ∧ vssMode args = .manual then finalRequest ctrl out
  else do
    let vss ← ctrl[3]?
    let out := { out with vssCheck := some (vssMode args, vss.mOffset, vss.bSize) }
    if stdSecurityReq (vssMode args) env.vssCheck < 0 then some out else finalRequest ctrl out

/-- `BootDumpModap::boot` up to its final security request. -/
def boot (build : Build) (args : CbdArgs) (files : Files) (toc : Toc) (env : Env) : Option Outcome :=
  match stdBootParseTocImg build files toc, stages build args toc with
  | some fds, some set => do
    let ctrl ← buildStdDloadControl build args fds toc set
    if ¬env.offline ∧ env.powerReset < 0 then some {}
    else if env.powerOn < 0 then some {}
    else if stdSecurityReq .reInit env.reInit < 0 then some {}
    else do
      let (loaded, ret) ← loadCpImages env ctrl set
      if ret < 0 then some { loaded }
      else if build.verifyingAll then verifyAll args toc env ctrl ret { loaded }
      else finalRequest ctrl { loaded }
  | _, _ => some {}

end ExynosHal.CpBoot.Modap
