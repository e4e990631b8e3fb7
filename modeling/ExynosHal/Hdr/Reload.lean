import ExynosHal.Hdr.Origin

/-! # What the tables hold

The HDR10, HDR10+ and HLG tables are filled by the first `setTargetInfo` and stay as they are.
-/

namespace ExynosHal.Hdr
open Library.Run

def Call.target? : Call → Option TargetInfo
  | .setTargetInfo target => some target
  | _ => none

def firstTarget (calls : List Call) : Option TargetInfo := calls.findSome? Call.target?

def Loaded (p : Platform) (d : Documents) (s : Impl) : Option TargetInfo → Prop
  | none => s.state = .objReady ∧ s.hdr10 = [] ∧ s.hdr10p = [] ∧ s.hlg = []
  | some target => s.state ≠ .objReady ∧ parseHdr10 p d target [] = some s.hdr10 ∧
      parseHdr10p p d target [] = some s.hdr10p ∧ parseHlg d target [] = some s.hlg

section
variable {p : Platform} {d : Documents} {s s' : Impl} {call : Call}

theorem step_state (h : step p d s call = some s') (hcall : call.target? = none) :
    (s'.state = .objReady ↔ s.state = .objReady) ∧ s'.hdr10 = s.hdr10 ∧ s'.hdr10p = s.hdr10p ∧ s'.hlg = s.hlg := by
  cases call with
  | setTargetInfo target => cases hcall
  | setHDRlayer hasHdr =>
    obtain ⟨luminance, rfl⟩ := setHDRlayer_eq h
    exact ⟨.rfl, rfl, rfl, rfl⟩
  | setLogLevel logLevel =>
    cases h
    obtain ⟨_, _, _, _, logLevel', heq⟩ := setLogLevel_eq s logLevel
    rw [heq]
    exact ⟨.rfl, rfl, rfl, rfl⟩
  | initHdrCoefBuildup hwId =>
    unfold step Impl.initHdrCoefBuildup at h
    dsimp only at h
    split at h
    · cases h
      exact ⟨.rfl, rfl, rfl, rfl⟩
    all_goals
      rename_i hstate
      rw [hstate]
      split at h
      iterate 2
        cases h
        exact ⟨by simp, rfl, rfl, rfl⟩
      · cases h
  | setLayerInfo l info =>
    obtain ⟨⟨s', err⟩, hcall, rfl⟩ := Option.map_eq_some_iff.mp h
    rcases setLayerInfo_cases hcall with
      ⟨-, rfl⟩ | ⟨layer, -, -, ⟨-, rfl⟩ | ⟨-, ⟨reloaded, _, _, -, hreload, -, rfl⟩ | ⟨_, _, -, rfl⟩⟩⟩
    · exact ⟨.rfl, rfl, rfl, rfl⟩
    · exact ⟨.rfl, rfl, rfl, rfl⟩
    · obtain ⟨tune, tuneReload, rfl, htune⟩ := reloadTune_eq hreload
      exact ⟨.rfl, rfl, rfl, rfl⟩
    · exact ⟨.rfl, rfl, rfl, rfl⟩
  | getHdrCoefData hwId l =>
    obtain ⟨result, hcall, rfl⟩ := Option.map_eq_some_iff.mp h
    rcases getHdrCoefData_cases hcall with rfl | ⟨layer, layer', parcel, -, -, rfl⟩
    all_goals exact ⟨.rfl, rfl, rfl, rfl⟩

theorem Loaded.step {first : Option TargetInfo} (hs : Loaded p d s first)
    (h : step p d s call = some s') : Loaded p d s' (first.or call.target?) := by
  cases hcall : call.target? with
  | none =>
    obtain ⟨hstate, hdr10, hdr10p, hhlg⟩ := step_state h hcall
    rw [Option.or_none]
    cases first with
    | none => exact ⟨hstate.mpr hs.1, hdr10.trans hs.2.1, hdr10p.trans hs.2.2.1, hhlg.trans hs.2.2.2⟩
    | some target =>
      obtain ⟨hready, hfst⟩ := hs
      refine ⟨fun hobj => hready (hstate.mp hobj), ?_⟩
      rw [hdr10, hdr10p, hhlg]
      exact hfst
  | some given =>
    obtain rfl : call = .setTargetInfo given := by
      cases call <;> cases hcall
      rfl
    rcases setTargetInfo_cases h with ⟨hready, rfl⟩ | ⟨hobj, hdr10, hdr10p, hlg, h10, h10p, hhlg, rfl⟩
    · cases first with
      | none => exact absurd hs.1 hready
      | some target => exact ⟨nofun, hs.2⟩
    · cases first with
      | none =>
        obtain ⟨-, hempty10, hempty10p, hemptyHlg⟩ := hs
        rw [hempty10] at h10
        rw [hempty10p] at h10p
        rw [hemptyHlg] at hhlg
        exact ⟨nofun, h10, h10p, hhlg⟩
      | some target => exact absurd hobj hs.1

theorem run_concat (calls : List Call) (call : Call) : run p d (calls ++ [call]) = (run p d calls).bind fun s =>
    step p d s call := by
  unfold run
  cases Impl.create d with
  | none => rfl
  | some s => simp [List.foldlM_append]

theorem loaded_run {calls : List Call} (h : run p d calls = some s) : Loaded p d s (firstTarget calls) := by
  induction calls using List.reverseRecOn generalizing s with
  | nil =>
    obtain ⟨s₀, hcreate, hnil⟩ := unbind h
    cases hnil
    obtain ⟨wcg, tune, -, -, rfl⟩ := create_eq hcreate
    exact ⟨rfl, rfl, rfl, rfl⟩
  | append_singleton calls call ih =>
    rw [run_concat] at h
    obtain ⟨before, hbefore, hstep⟩ := unbind h
    have hloaded := (ih hbefore).step hstep
    rw [firstTarget, List.findSome?_append]
    simpa [firstTarget] using hloaded

end

section
variable {hw : HwDoc} {d : Documents} {table table' : LutTable}

theorem assignCoefs_eq {old new result : List DatNode} (h : assignCoefs old new = some result) : result = new := by
  unfold assignCoefs at h
  split at h
  · clear * - h
    induction new generalizing result with
    | nil =>
      cases h
      rfl
    | cons n new ih =>
      rw [List.mapM_cons] at h
      obtain ⟨n', hn', h⟩ := unbind h
      obtain ⟨rest, hrest, h⟩ := unbind h
      cases h
      rw [(assign_eq hn').1, ih hrest]
  · exact (Option.some.inj h).symm

theorem assignNodes_eq {old new result : List PackedNode} (h : assignNodes old new = some result) : result = new := by
  unfold assignNodes at h
  split at h
  · rename_i hlen
    induction new generalizing old result with
    | nil =>
      rw [List.zip_nil_right] at h
      cases h
      rfl
    | cons n new ih =>
      cases old with
      | nil => cases hlen
      | cons o old =>
        rw [List.zip_cons_cons, List.mapM_cons] at h
        obtain ⟨n', hn', h⟩ := unbind h
        obtain ⟨rest, hrest, h⟩ := unbind h
        obtain ⟨coefs, hcoefs, hn'⟩ := unbind hn'
        cases h
        cases hn'
        rw [assignCoefs_eq hcoefs, ih (Nat.le_of_succ_le_succ hlen) hrest]
  · exact (Option.some.inj h).symm

theorem assignMod_lookup {layer : Int} {nodes : List PackedNode} (h : assignMod table layer nodes = some table')
    (other : Int) : table'.lookup other = if other = layer then some nodes else table.lookup other := by
  obtain ⟨assigned, hassigned, h⟩ := unbind h
  cases h
  rw [assignNodes_eq hassigned, List.lookup_cons]
  by_cases hother : other = layer
  · rw [if_pos hother, beq_iff_eq.mpr hother]
  · rw [if_neg hother, beq_false_of_ne hother]
    dsimp only
    clear * - hother
    induction table with
    | nil => rfl
    | cons entry table ih =>
      by_cases hkey : entry.1 = layer
      · rw [List.filter_cons_of_neg (by simpa using hkey), List.lookup_cons,
          beq_false_of_ne (by rw [hkey]; exact hother)]
        exact ih
      · rw [List.filter_cons_of_pos (by simpa using hkey), List.lookup_cons, List.lookup_cons, ih]

def tuned (hw : HwDoc) (modules : List (Int × List LutNode)) (layer : Int) : Option (List PackedNode) :=
  (modules.reverse.find? fun m => m.1 = layer).bind fun m => parseMod hw m.1 m.2

theorem parseMods_assign_lookup {modules : List (Int × List LutNode)} (h : modules.foldlM (fun table m => do
      let nodes ← parseMod hw m.1 m.2
      assignMod table m.1 nodes) table = some table') (layer : Int) :
    table'.lookup layer = (tuned hw modules layer).or (table.lookup layer) := by
  induction modules using List.reverseRecOn generalizing table' with
  | nil =>
    cases h
    rfl
  | append_singleton modules m ih =>
    rw [List.foldlM_append] at h
    obtain ⟨before, hbefore, h⟩ := unbind h
    rw [List.foldlM_cons] at h
    obtain ⟨after, hafter, h⟩ := unbind h
    obtain ⟨nodes, hnodes, hafter⟩ := unbind hafter
    cases h
    rw [assignMod_lookup hafter, ih hbefore, tuned, tuned, List.reverse_concat, List.find?_cons]
    by_cases hlayer : layer = m.1
    · rw [if_pos hlayer, decide_eq_true hlayer.symm, Option.bind_some, hnodes, Option.some_or]
    · rw [if_neg hlayer, decide_eq_false (Ne.symm hlayer)]

theorem tune_run {p : Platform} {calls : List Call} {s : Impl} (h : run p d calls = some s) (layer : Int) :
    s.tune.lookup layer = tuned d.hw d.tune.modules layer := by
  refine run_keeps (P := fun s => s.tune.lookup layer = tuned d.hw d.tune.modules layer) ?_ ?_ h
  · intro s hs
    obtain ⟨wcg, tune, -, htune, rfl⟩ := create_eq hs
    exact (parseMods_assign_lookup htune layer).trans (Option.or_none)
  · intro s s' call hs hnext
    rcases (step_context hnext).tune with heq | hparsed
    · rw [heq, hs]
    · rw [parseMods_assign_lookup hparsed layer, hs, Option.or_self]

end

end ExynosHal.Hdr
