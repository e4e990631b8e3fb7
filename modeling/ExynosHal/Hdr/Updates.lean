import ExynosHal.Hdr.Steps

/-! # Updates that reach the driver

A run together with the parcels written for each layer since it was rebuilt the last time.
-/

namespace ExynosHal.Hdr
open Library.Run
open Option (map_eq_some_iff)
open Function (update)

def Contains (parcel : List Word) (n : DatNode) : Prop :=
  ∃ words before after, n.serialize = some words ∧ parcel = before ++ words ++ after

abbrev Written := Nat → List (List Word)

def rebuilds (p : Platform) (s : Impl) (l : Nat) (info : LayerInfo) : Bool :=
  s.state = .buildUpReady ∧ (s.layer? s.hwId l).any fun layer => layer.changed p (Impl.refined p info)

def record (p : Platform) (s : Impl) (w : Written) : Call → Written
  | .setLayerInfo l info => if rebuilds p s l info then update w l [] else w
  | .getHdrCoefData hwId l =>
    match s.getHdrCoefData hwId l with
    | some (_, _, some parcel) => update w l (w l ++ [parcel])
    | _ => w
  | _ => w

def recordedStep (p : Platform) (d : Documents) (t : Impl × Written) (call : Call) : Option (Impl × Written) :=
  (step p d t.1 call).map fun s => (s, record p t.1 t.2 call)

def recordedRun (p : Platform) (d : Documents) (calls : List Call) : Option (Impl × Written) := do
  let s ← Impl.create d
  calls.foldlM (recordedStep p d) (s, fun _ => [])

def NoneLost (t : Impl × Written) : Prop :=
  ∀ hwId l s' layer, t.1.getHdrCoefData hwId l = some (s', .no, none) → t.1.layers[l]? = some layer →
    ∃ parcel ∈ t.2 l, ∀ n ∈ layer.lists.shallNodes ++ layer.lists.needNodes, Contains parcel n

def fetchedFirst (p : Platform) (t : Impl × Written) : Call → Bool
  | .setLayerInfo l info =>
    t.1.state ≠ .buildUpReady ∨ t.2 l ≠ [] ∨
      (t.1.layer? t.1.hwId l).all fun layer => layer.changed p (Impl.refined p info) ∨ layer.lists.shall ≠ []
  | _ => true

theorem writeNodes_eq_append {nodes : List DatNode} {written parcel : List Word}
    (h : writeNodes written nodes = some parcel) :
    ∃ body, parcel = written ++ body ∧ ∀ n ∈ nodes, Contains body n := by
  induction nodes generalizing written with
  | nil =>
    cases h
    exact ⟨[], (List.append_nil _).symm, nofun⟩
  | cons n nodes ih =>
    unfold writeNodes at h
    rw [List.foldlM_cons] at h
    obtain ⟨next, hnext, h⟩ := unbind h
    obtain ⟨words, hwords, hnext⟩ := unbind hnext
    obtain ⟨-, hnext⟩ := Option.ite_none_right_eq_some.mp hnext
    cases hnext
    obtain ⟨body, rfl, hbody⟩ := ih h
    refine ⟨words ++ body, List.append_assoc .., fun m hm => ?_⟩
    rcases List.mem_cons.mp hm with rfl | hm
    · exact ⟨words, [], body, hwords, rfl⟩
    · obtain ⟨words', before, after, hwords', heq⟩ := hbody m hm
      exact ⟨words', words ++ before, after,
        hwords', by rw [heq, List.append_assoc, List.append_assoc, List.append_assoc]⟩

variable {n : DatNode}

theorem Contains.of_append {written body : List Word} (h : Contains body n) : Contains (written ++ body) n := by
  obtain ⟨words, before, after, hwords, heq⟩ := h
  exact ⟨words, written ++ before, after, hwords, by rw [heq, List.append_assoc, List.append_assoc, List.append_assoc]⟩

variable {layer layer' : Layer} {parcel : List Word}

theorem contains_fetched (h : layer.getHdrCoefData = some (layer', some parcel)) :
    ∀ n ∈ layer'.lists.shallNodes ++ layer'.lists.needNodes, Contains parcel n := by
  rw [fetched_eq h]
  unfold Layer.getHdrCoefData at h
  dsimp only at h
  split at h
  · obtain ⟨written, hwritten, h⟩ := unbind h
    cases h
    obtain ⟨body, rfl, hbody⟩ := writeNodes_eq_append hwritten
    exact fun n hn => (hbody n hn).of_append
  · cases h

theorem layerChanged_of_fetched (h : layer.getHdrCoefData = some (layer', none)) : layer.layerChanged = false := by
  unfold Layer.getHdrCoefData at h
  dsimp only at h
  split at h
  · obtain ⟨written, -, h⟩ := unbind h
    cases h
  · rename_i hnot
    simpa using hnot

variable (lists : Lists)

theorem Lists.mem_nodes_transfer
    (h : n ∈ lists.transfer.shallNodes ++ lists.transfer.needNodes) : n ∈ lists.shallNodes ++ lists.needNodes := by
  have hneed : lists.transfer.needNodes = lists.needNodes ++ lists.shallNodes := List.filterMap_append
  rw [show lists.transfer.shallNodes = [] from rfl, List.nil_append, hneed] at h
  rw [List.mem_append] at h ⊢
  exact h.symm

theorem Lists.mem_nodes_cleanDuplicate (h : n ∈ lists.cleanDuplicate.shallNodes ++ lists.cleanDuplicate.needNodes) :
    n ∈ lists.shallNodes ++ lists.needNodes := by
  rcases List.mem_append.mp h with h | h
  · refine List.mem_append_left _ ?_
    obtain ⟨r, hr, hderef⟩ := List.mem_filterMap.mp h
    exact List.mem_filterMap.mpr ⟨r, List.pwFilter_subset _ hr, hderef⟩
  · exact List.mem_append_right _ h

structure Layer.Sent (layer : Layer) (parcels : List (List Word)) : Prop where
  held : parcels ≠ [] → ∃ parcel ∈ parcels, ∀ n ∈ layer.lists.shallNodes ++ layer.lists.needNodes, Contains parcel n
  quiet : layer.layerChanged = false → layer.state = .buildUpReady → parcels ≠ []

def AllSent (t : Impl × Written) : Prop := ∀ (l : Nat) layer, t.1.layers[l]? = some layer → layer.Sent (t.2 l)

section
variable {p : Platform} {d : Documents} {s s' : Impl} {w : Written} {layer : Layer} {parcels : List (List Word)}

theorem Layer.Sent.marked (h : layer.Sent parcels) {targetChanged : Bool}
    {state : PerLayerState} {logLevel : Int} (hstate : state = layer.state ∨ state = .init) :
    ({ layer with targetChanged, state, logLevel } : Layer).Sent parcels := by
  refine ⟨h.held, fun hchanged hready => ?_⟩
  rcases hstate with rfl | rfl
  · exact h.quiet hchanged hready
  · cases hready

theorem AllSent.map (h : AllSent (s, w)) {f : Layer → Layer}
    (hf : ∀ layer parcels, layer.Sent parcels → (f layer).Sent parcels) (hlayers : s'.layers = s.layers.map f) :
    AllSent (s', w) := by
  intro l layer' hlayer'
  obtain ⟨layer, hlayer, rfl⟩ := getElem?_layers_map hlayers hlayer'
  exact hf layer _ (h l layer hlayer)

variable {l : Nat}

theorem AllSent.set (h : AllSent (s, w)) (hlayer : layer.Sent parcels) (hlayers : s'.layers = s.layers.set l layer) :
    AllSent (s', update w l parcels) := by
  intro i layer' hlayer'
  show layer'.Sent (update w l parcels i)
  rcases getElem?_layers_set hlayers hlayer' with ⟨rfl, rfl⟩ | ⟨hl, hother⟩
  · rw [Function.update_self]
    exact hlayer
  · rw [Function.update_of_ne (Ne.symm hl)]
    exact h i layer' hother

theorem AllSent.setLayerInfo (h : AllSent (s, w)) {info : LayerInfo} {err : HdrErr}
    (hfetched : fetchedFirst p (s, w) (.setLayerInfo l info)) (hcall : s.setLayerInfo p d l info = some (s', err)) :
    AllSent (s', record p s w (.setLayerInfo l info)) := by
  rcases setLayerInfo_cases hcall with ⟨hnot, rfl⟩ | ⟨layer, hready, hlayer, ⟨hsame, rfl⟩ | ⟨hchanged, hrebuilt⟩⟩
  · have hrebuilds : rebuilds p s' l info = false := by simp [rebuilds, hnot]
    rw [record, hrebuilds]
    exact h
  · have hrebuilds : rebuilds p s l info = false := by simp [rebuilds, hlayer, hsame]
    have hsent := h l layer (layer?_eq hlayer).2
    rw [record, hrebuilds, ← Function.update_eq_self l w]
    refine h.set ⟨fun hsome => ?_, fun hquiet _ => ?_⟩ rfl
    · obtain ⟨parcel, hparcel, hall⟩ := hsent.held hsome
      exact ⟨parcel, hparcel, fun n hn => hall n (layer.lists.mem_nodes_transfer hn)⟩
    · -- The flag went off because `shall` was empty.
      have hempty : layer.lists.shall = [] := by simpa [Layer.transfer] using hquiet
      simpa [fetchedFirst, hready, hlayer, hsame, hempty] using hfetched
  · have hrebuilds : rebuilds p s l info = true := by simp [rebuilds, hready, hlayer, hchanged]
    obtain ⟨built, hbuilt, -, hlayers⟩ := setLayerInfo_rebuilt hrebuilt
    rw [record, hrebuilds]
    refine h.set ⟨nofun, fun hquiet _ => ?_⟩ hlayers
    rw [hbuilt] at hquiet
    cases hquiet

theorem AllSent.getHdrCoefData (h : AllSent (s, w)) {hwId : HdrHwId}
    {result : Impl × HdrErr × Option (List Word)} (hcall : s.getHdrCoefData hwId l = some result) :
    AllSent (result.1, record p s w (.getHdrCoefData hwId l)) := by
  rcases getHdrCoefData_cases hcall with rfl | ⟨layer, layer', parcel, hlayer, hfetched, rfl⟩
  · simp only [record, hcall]
    exact h
  · have hsent := h l layer hlayer
    have heq := fetched_eq hfetched
    have hquiet : layer'.layerChanged = false → layer'.state = .buildUpReady → w l ≠ [] := by
      rw [heq]
      exact hsent.quiet
    cases parcel with
    | none =>
      simp only [record, hcall]
      rw [← Function.update_eq_self l w]
      refine h.set ⟨fun hsome => ?_, hquiet⟩ rfl
      obtain ⟨parcel, hparcel, hall⟩ := hsent.held hsome
      refine ⟨parcel, hparcel, fun n hn => hall n (layer.lists.mem_nodes_cleanDuplicate ?_)⟩
      rw [heq] at hn
      exact hn
    | some parcel =>
      simp only [record, hcall]
      refine h.set ⟨fun _ => ⟨parcel, by simp, contains_fetched hfetched⟩, fun _ _ => by simp⟩ rfl

theorem AllSent.step (h : AllSent (s, w)) {call : Call} (hfetched : fetchedFirst p (s, w) call)
    (hstep : step p d s call = some s') : AllSent (s', record p s w call) := by
  cases call with
  | setTargetInfo target =>
    have hlayers : s'.layers = s.layers.map fun layer => { layer with targetChanged := true } := by
      rcases setTargetInfo_cases hstep with ⟨-, rfl⟩ | ⟨-, _, _, _, -, -, -, rfl⟩ <;> rfl
    exact h.map (fun _ _ hsent => hsent.marked (.inl rfl)) hlayers
  | setHDRlayer hasHdr =>
    obtain ⟨luminance, rfl⟩ := setHDRlayer_eq hstep
    exact h
  | setLogLevel logLevel =>
    cases hstep
    obtain ⟨_, _, _, _, logLevel', heq⟩ := setLogLevel_eq s logLevel
    rw [heq]
    exact h.map (fun _ _ hsent => hsent.marked (.inl rfl)) rfl
  | initHdrCoefBuildup hwId =>
    rcases initHdrCoefBuildup_cases hstep with rfl | rfl | rfl
    · exact h
    · exact h
    · exact h.map (fun _ _ hsent => hsent.marked (.inr rfl)) rfl
  | setLayerInfo l info =>
    obtain ⟨⟨s', err⟩, hcall, rfl⟩ := map_eq_some_iff.mp hstep
    exact h.setLayerInfo hfetched hcall
  | getHdrCoefData hwId l =>
    obtain ⟨result, hcall, rfl⟩ := map_eq_some_iff.mp hstep
    exact h.getHdrCoefData hcall

theorem AllSent.noneLost {t : Impl × Written} (h : AllSent t) : NoneLost t := by
  intro hwId l s' layer hcall hlayer
  have hsent := h l layer hlayer
  unfold Impl.getHdrCoefData at hcall
  split at hcall
  · obtain ⟨found, hfound, hcall⟩ := unbind hcall
    have hfound := (layer?_eq hfound).2
    rw [hlayer] at hfound
    cases hfound
    split at hcall
    · rename_i hready
      obtain ⟨⟨layer', parcel⟩, hfetched, hcall⟩ := unbind hcall
      cases hcall
      exact hsent.held (hsent.quiet (layerChanged_of_fetched hfetched) hready)
    · cases hcall
  · cases hcall
  · cases hcall

/-- If no list is handed on before it has been fetched, what a layer holds while nothing is due has been sent. -/
theorem noneLost_run {calls : List Call} {t : Impl × Written} (hrun : recordedRun p d calls = some t)
    (hfetched : ∀ s ∈ Impl.create d,
      EachDefinedStep (recordedStep p d) (fun t call => fetchedFirst p t call) (s, fun _ => []) calls) :
    NoneLost t := by
  obtain ⟨s, hcreate, hcalls⟩ := unbind hrun
  have hcreated : AllSent (s, fun _ => []) := by
    intro l layer hlayer
    rw [create_layer hcreate hlayer]
    exact ⟨fun hne => absurd rfl hne, nofun⟩
  refine AllSent.noneLost (foldlM_keeps_of_eachDefinedStep (P := AllSent) ?_ hcreated (hfetched s hcreate) hcalls)
  rintro ⟨s, w⟩ t call hs hcall hnext
  obtain ⟨s', hstep, rfl⟩ := map_eq_some_iff.mp hnext
  exact hs.step hcall hstep

end

def enableDocuments : Documents where
  hw := [⟨[0], [("enable", { numNodes := 1, numNodesPerReg := 1, bitOffsets := [0], masks := [1], regNum := 1 })]⟩]
  wcg := [⟨[0], [⟨.modEn true, "enable", [1]⟩], []⟩]

def bt2020Info : LayerInfo := { dataspace := 0x00860000 }

def bt2020Hlg : LayerInfo := { dataspace := 0x02060000 }

def showTwice : List Call :=
  [.setTargetInfo srgbTarget, .initHdrCoefBuildup .dpu, .setLayerInfo 0 bt2020Info, .setLayerInfo 0 bt2020Info]

def fetchBetween : List Call := showTwice ++ [.getHdrCoefData .dpu 0, .setLayerInfo 0 bt2020Info]

theorem noneLost_run_fetchBetween : ∃ t s', recordedRun plainPlatform enableDocuments fetchBetween = some t ∧
      t.1.getHdrCoefData .dpu 0 = some (s', .no, none) ∧ (t.2 0).length = 1 ∧ NoneLost t := by
  have hrun : recordedRun plainPlatform enableDocuments fetchBetween = some _ := rfl
  have hfetched : ∀ s ∈ Impl.create enableDocuments, EachDefinedStep (recordedStep plainPlatform enableDocuments)
      (fun t call => fetchedFirst plainPlatform t call) (s, fun _ => []) fetchBetween := by
    rintro s hs
    cases hs
    decide
  exact ⟨_, _, hrun, rfl, rfl, noneLost_run hrun hfetched⟩

theorem not_noneLost_showThrice : ¬∀ (p : Platform) (d : Documents) (calls : List Call) (t : Impl × Written),
      recordedRun p d calls = some t → NoneLost t := by
  intro h
  obtain ⟨parcel, hparcel, -⟩ :=
    h plainPlatform enableDocuments (showTwice ++ [.setLayerInfo 0 bt2020Info]) _ rfl .dpu 0 _ _ rfl rfl
  cases hparcel

end ExynosHal.Hdr
