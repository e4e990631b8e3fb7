import Mathlib.Data.List.TakeWhile
import ExynosHal.CpBoot.DumpReceive
import ExynosHal.CpBoot.ExtHandshake
import ExynosHal.CpBoot.ModapVerified

/-! # Lengths from the modem and from its image

The lengths that messages give to reads and writes, and the counts of a table of contents that become indexes of
`dl_ctrl`.
-/

namespace ExynosHal.CpBoot

open Library.Run (unbind)

namespace DumpReceive
open SendBin

def Dump.Inside (d : Dump) : Prop := ∀ a ∈ d.accesses, a.length ≤ a.room

variable {d : Dump}

end DumpReceive

attribute [local instance] neZero_sixteen

/-- The record behind the last stage is read with the SIT protocol only. -/
def Ext.CountFits (build : Build) (toc : Toc) : Prop := (toc 0).tocCount ≤ 12 ∨
  build.protocolSit = false ∧ (toc 0).tocCount = 13 ∧ ∃ i, toc.idx .offset = some i ∧ i.val < 13

section
variable {build : Build} {toc : Toc}

theorem Ext.loadStages_defined {α : Type} {round : DloadControl → α → α × Int} {ctrl : DlCtrl} {stages : List Nat}
    {made : α} (h : ∀ stage ∈ stages, stage < ctrl.length) : (Ext.loadStages round ctrl stages made).isSome := by
  induction stages generalizing made with
  | nil => rfl
  | cons stage rest ih =>
    obtain ⟨hstage, hrest⟩ := List.forall_mem_cons.mp h
    simp only [Ext.loadStages, List.getElem?_eq_getElem hstage, Option.bind_eq_bind, Option.bind_some]
    split_ifs
    · rfl
    · exact ih hrest

end

end ExynosHal.CpBoot
