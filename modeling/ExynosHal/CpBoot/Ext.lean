import Mathlib.Tactic
import ExynosHal.CpBoot.Toc

/-! # Downloading the images to an external modem

`BootDumpExt.cpp`: the download records and the loop of `std_boot_load_cp_images` for both protocols, and
one round of it with the SIT protocol as the sequence of its calls to the files and to the modem.
What each of them returns is a parameter; the buffer for an image is taken to be
allocated. `none` is an access past the end of `dl_ctrl`.
-/

namespace ExynosHal.CpBoot.Ext

def stdUdlMss : Nat := 16 * 1024

def finStage : Nat := 0xF

/-- `cpn.num_stages`: boot, toc, main, vss, apm, nv, nv_prot, fin, of which the SIPC build has neither apm nor nv_prot.
-/
def cpnNumStages (build : Build) : Nat := if build.protocolSit then 8 else 6

def sit : Build := ⟨true, false⟩

def bootStage : Nat := 0

def tocStage : Nat := 1

attribute [local instance] neZero_sixteen

def numStages (build : Build) (toc : Toc) : Nat :=
  if (toc 0).tocCount ≠ 1 then (toc 0).tocCount.toNat else cpnNumStages build

def scanned (build : Build) (toc : Toc) : List (Fin 16) :=
  ((List.finRange 16).take (numStages build toc)).takeWhile fun i => !(toc.idx .offset == some i)

def record (build : Build) (fds : Fds) (toc : Toc) (stage : Nat) (i : Fin 16) : DloadControl where
  stage
  start := !(toc.idx .boot == some i)
  download := !(toc.idx .boot == some i)
  validate := toc.idx .boot == some i || toc.idx .main == some i
  finish := true
  bFd := nvFd build fds toc i
  bOffset := (toc i).bOffset
  bSize := (toc i).size
  crc := (toc i).crc

/-- The loop with its `stage`; the boot entry goes to stage 0 and leaves `stage` as it is. -/
def buildRecords (build : Build) (fds : Fds) (toc : Toc) : List (Fin 16) → Nat → DlCtrl → Option DlCtrl
  | [], _, ctrl => some ctrl
  | i :: rest, stage, ctrl =>
    if toc.idx .boot = some i then do
      let ctrl ← ctrl.put 0 (record build fds toc 0 i)
      buildRecords build fds toc rest stage ctrl
    else do
      let ctrl ← ctrl.put stage (record build fds toc stage i)
      buildRecords build fds toc rest (stage + 1) ctrl

/-- The record at the end of the table only gets its stage and `start`. -/
def buildStdDloadControl (build : Build) (fds : Fds) (toc : Toc) : Option DlCtrl := do
  let ctrl ← buildRecords build fds toc (scanned build toc) 1 DlCtrl.init
  let last ← ctrl[(scanned build toc).length]?
  ctrl.put (scanned build toc).length { last with stage := finStage, start := true }

inductive Request where
  | start (stage : Nat)
  | data (stage total offset len : Nat)
  | crc (stage : Nat) (crc : U32)
  | ready (stage : Nat)
  | done (stage : Nat)
  | finalize
  deriving DecidableEq

/-- A request to the modem with its response, or the reading of an image into a buffer. -/
inductive Action where
  | send (r : Request)
  | cache (stage : Nat) (fd : Int) (offset size : U32)
  deriving DecidableEq

/-- The error of the `n`-th call, if it fails: a failed write or read, a timeout or another response than
the expected one. -/
abbrev Answers := Nat → Option Nat

def Answers.errno (answers : Answers) (n : Nat) : Int :=
  match answers n with
  | none => 0
  | some e => -(e + 1)

/-- `lseek` stores its result in an `int`, which is negative for offsets from 2^31 on. -/
def Answers.ret (answers : Answers) (n : Nat) : Action → Int
  | .send _ => answers.errno n
  | .cache _ _ offset _ => if offset.toInt < 0 then offset.toInt else answers.errno n

/-- One call after those already `made`. -/
def call (answers : Answers) (made : List Action) (a : Action) : List Action × Int :=
  (made ++ [a], answers.ret made.length a)

def stageStart (stage : Nat) : Request :=
  if stage = finStage then .finalize else .start stage

def stageDone (stage : Nat) : Request :=
  if stage = bootStage then .ready stage else .done stage

/-- The loop of `std_dl_send_bin`, `offset` bytes being sent. -/
def sendFrames (answers : Answers) (stage size : Nat) : Nat → Nat → List Action → List Action × Int
  | 0, _, made => (made, 0)
  | fuel + 1, offset, made =>
    if size ≤ offset then (made, 0)
    else
      let len := min (size - offset) stdUdlMss
      let (made, ret) := call answers made (.send (.data stage size offset len))
      if ret < 0 then (made, ret) else sendFrames answers stage size fuel (offset + len) made

def stdDlSendBin (answers : Answers) (stage : Nat) (size : U32) (made : List Action) : List Action × Int :=
  sendFrames answers stage size.toNat (size.toNat / stdUdlMss + 1) 0 made

/-- The part of a round that `dlc->start` guards. -/
def startPart (answers : Answers) (dlc : DloadControl) (made : List Action) : List Action × Int :=
  if dlc.start then call answers made (.send (stageStart dlc.stage)) else (made, 0)

def downloadPart (answers : Answers) (dlc : DloadControl) (made : List Action) : List Action × Int :=
  let (made, ret) := call answers made (.cache dlc.stage dlc.bFd dlc.bOffset dlc.bSize)
  if ret < 0 then (made, ret)
  else
    let (made, ret) := stdDlSendBin answers dlc.stage dlc.bSize made
    if ret < 0 then (made, ret)
    else if dlc.validate then call answers made (.send (.crc dlc.stage dlc.crc))
    else (made, 0)

def finishPart (answers : Answers) (dlc : DloadControl) (made : List Action) : List Action × Int :=
  if dlc.finish then call answers made (.send (stageDone dlc.stage)) else (made, 0)

/-- One round of the loop. An image without a file or of size zero is left out with `continue`. -/
def loadStage (answers : Answers) (dlc : DloadControl) (made : List Action) : List Action × Int :=
  let (made, ret) := startPart answers dlc made
  if ret < 0 then (made, ret)
  else if dlc.download then
    if dlc.bFd < 0 then (made, 0)
    else if dlc.bSize = 0 then (made, 0)
    else
      let (made, ret) := downloadPart answers dlc made
      if ret < 0 then (made, ret) else finishPart answers dlc made
  else finishPart answers dlc made

def loadStages {α : Type} (round : DloadControl → α → α × Int) (ctrl : DlCtrl) : List Nat → α → Option (α × Int)
  | [], made => some (made, 0)
  | i :: rest, made => do
    let dlc ← ctrl[i]?
    let (made, ret) := round dlc made
    if ret < 0 then some (made, ret) else loadStages round ctrl rest made

/-- From `start_stage` to the last stage, or to the one after it with the SIT protocol. -/
def loadRange (build : Build) (toc : Toc) : List Nat :=
  (List.range (if build.protocolSit then numStages build toc + 1 else numStages build toc)).drop tocStage

def stdBootLoadCpImages (build : Build) (round : DloadControl → List Action → List Action × Int) (fds : Fds)
    (toc : Toc) : Option (List Action × Int) := do
  let ctrl ← buildStdDloadControl build fds toc
  loadStages round ctrl (loadRange build toc) []

end ExynosHal.CpBoot.Ext
