import ExynosHal.Library.Words
import Mathlib.Data.Fintype.Basic
import Mathlib.Data.List.FinRange

/-! # The table of contents of a modem image

`std_boot_parse_toc_img` of `BootDump.cpp` in normal boot mode, with the file descriptors and the download
records that both kinds of modem share.
-/

namespace ExynosHal.CpBoot

inductive TocType where
  | toc | boot | main | vss | nvNorm | nvProt | nv | offset
  deriving DecidableEq

def TocType.name : TocType → String
  | .toc => "TOC"
  | .boot => "BOOT"
  | .main => "MAIN"
  | .vss => "VSS"
  | .nvNorm => "NV_NORM"
  | .nvProt => "NV_PROT"
  | .nv => "NV"
  | .offset => "OFFSET"

/-- `std_toc_element`; what a short read leaves is zero. -/
structure TocElement where
  name : String := ""
  bOffset : U32 := 0
  mOffset : U32 := 0
  size : U32 := 0
  crc : U32 := 0
  tocCount : U32 := 0

/-- The `MAX_TOC_INDEX` entries. -/
abbrev Toc := Fin 16 → TocElement

def Toc.idx (toc : Toc) (t : TocType) : Option (Fin 16) :=
  (List.finRange 16).foldl (fun idx i => if (toc i).name = t.name then some i else idx) none

structure Build where
  protocolSit : Bool
  verifyingAll : Bool
  deriving DecidableEq

/-- What opening the files gives: the descriptor of the image, which is not negative, and the result of
`Util::getNvFd`, `none` when it fails. -/
structure Files where
  bin : Nat
  getNvFd : TocType → Option Int

/-- The entries of `fds` that the downloads use. -/
structure Fds where
  bin : Int
  nvData : Int := -1
  nvNorm : Int := -1
  nvProt : Int := -1

def openNv (files : Files) (toc : Toc) (t : TocType) : Option (Int × U32) :=
  match toc.idx t with
  | some i => (files.getNvFd t).map fun fd => (fd, (toc i).size)
  | none => some (-1, 0)

def stdBootParseTocImg (build : Build) (files : Files) (toc : Toc) : Option Fds :=
  if (toc 0).name ≠ "TOC" then none
  else if (toc 0).tocCount > 16 then none
  else if build.protocolSit then do
    let (norm, size) ← openNv files toc .nvNorm
    let (prot, _) ← openNv files toc .nvProt
    if size = 0 then none else some { bin := files.bin, nvNorm := norm, nvProt := prot }
  else do
    let (data, size) ← openNv files toc .nv
    if size = 0 then none else some { bin := files.bin, nvData := data }

/-- `build_std_dload_control_nv_fd`, as the descriptor for an entry of the table. -/
def nvFd (build : Build) (fds : Fds) (toc : Toc) (i : Fin 16) : Int :=
  if toc.idx .nvNorm = some i then (if build.protocolSit then fds.nvNorm else -1)
  else if toc.idx .nvProt = some i then (if build.protocolSit then fds.nvProt else -1)
  else if toc.idx .nv = some i then (if build.protocolSit then -1 else fds.nvData)
  else fds.bin

/-- `std_dload_control`, zero at first. -/
structure DloadControl where
  stage : Nat := 0
  start : Bool := false
  download : Bool := false
  validate : Bool := false
  finish : Bool := false
  bFd : Int := 0
  bOffset : U32 := 0
  mOffset : U32 := 0
  bSize : U32 := 0
  crc : U32 := 0
  dlOnce : Bool := false
  deriving DecidableEq

def maxDloadStage : Nat := 0xD

abbrev DlCtrl := List DloadControl

def DlCtrl.init : DlCtrl := List.replicate maxDloadStage {}

/-- A write to `dl_ctrl`, undefined past its end. -/
def DlCtrl.put (ctrl : DlCtrl) (i : Nat) (record : DloadControl) : Option DlCtrl :=
  if i < ctrl.length then some (ctrl.set i record) else none

section
variable {toc : Toc} {t : TocType} {i : Fin 16}

theorem foldl_idx {is : List (Fin 16)} {start : Option (Fin 16)} (hstart : ∀ i ∈ start, (toc i).name = t.name)
    (h : is.foldl (fun idx i => if (toc i).name = t.name then some i else idx) start = some i) :
    (toc i).name = t.name := by
  induction is generalizing start with
  | nil => exact hstart i h
  | cons j is ih =>
    refine ih ?_ h
    by_cases hname : (toc j).name = t.name
    · simp only [if_pos hname, Option.mem_some_iff]
      rintro k rfl
      exact hname
    · simpa only [if_neg hname] using hstart

theorem name_of_idx (h : toc.idx t = some i) : (toc i).name = t.name :=
  foldl_idx (fun _ hi => absurd hi (Option.not_mem_none _)) h

theorem TocType.name_injective {t t' : TocType} (h : t.name = t'.name) : t = t' := by
  revert h
  cases t <;> cases t' <;> decide

theorem idx_injective {t' : TocType} (h : toc.idx t = some i) (h' : toc.idx t' = some i) : t = t' :=
  TocType.name_injective ((name_of_idx h).symm.trans (name_of_idx h'))

theorem nvFd_of_idx {build : Build} {fds : Fds} (h : toc.idx t = some i) (ht : t ≠ .nvNorm ∧ t ≠ .nvProt ∧ t ≠ .nv) :
    nvFd build fds toc i = fds.bin := by
  have hnot : ∀ t', t ≠ t' → toc.idx t' ≠ some i := fun t' hne h' => hne (idx_injective h h')
  rw [nvFd, if_neg (hnot _ ht.1), if_neg (hnot _ ht.2.1), if_neg (hnot _ ht.2.2)]

theorem parse_bin {build : Build} {files : Files} {fds : Fds} (h : stdBootParseTocImg build files toc = some fds) :
    fds.bin = files.bin := by
  unfold stdBootParseTocImg at h
  split at h
  · cases h
  · split at h
    · cases h
    · split at h
      · obtain ⟨⟨norm, size⟩, -, h⟩ := Option.bind_eq_some_iff.mp h
        obtain ⟨⟨prot, _⟩, -, h⟩ := Option.bind_eq_some_iff.mp h
        dsimp only at h
        split at h
        · cases h
        · cases h
          rfl
      · obtain ⟨⟨data, size⟩, -, h⟩ := Option.bind_eq_some_iff.mp h
        dsimp only at h
        split at h
        · cases h
        · cases h
          rfl

end

end ExynosHal.CpBoot
