import ExynosHal.CpBoot.Ext

/-! # The order of the download handshake

Whether the calls of `std_boot_load_cp_images` are the blocks of the entries followed by FINALIZE depends on the table.
-/

namespace ExynosHal.CpBoot.Ext
open List (append_assoc cons_append flatten_append length_append length_cons length_set length_take mem_of_getElem?
  prefix_append singleton_append)
open List (range')

def dataFrames (stage size : Nat) : List Action := (List.range ((size + (stdUdlMss - 1)) / stdUdlMss)).map fun k =>
    .send (.data stage size (k * stdUdlMss) (min (size - k * stdUdlMss) stdUdlMss))

def entries (build : Build) (toc : Toc) : List (Fin 16) :=
  (scanned build toc).filter fun i => !(toc.idx .boot == some i)

def block (fds : Fds) (toc : Toc) (i : Fin 16) (stage : Nat) : List Action :=
  [.send (.start stage), .cache stage (nvFd sit fds toc i) (toc i).bOffset (toc i).size] ++
    dataFrames stage (toc i).size.toNat ++
    (if toc.idx .main = some i then [.send (.crc stage (toc i).crc)] else []) ++ [.send (.done stage)]

def expected (fds : Fds) (toc : Toc) : List Action :=
  ((entries sit toc).zipIdx 1).flatMap (fun e => block fds toc e.1 e.2) ++ [.send .finalize]

def Handshake (answers : Answers) (calls made : List Action) (ret : Int) : Prop :=
  (made = calls ∧ ret = 0 ∧ ∀ k a, calls[k]? = some a → answers.ret k a = 0) ∨
  ∃ k a, calls[k]? = some a ∧ made = calls.take (k + 1) ∧ ret = answers.ret k a ∧ ret < 0 ∧
    ∀ j b, j < k → calls[j]? = some b → answers.ret j b = 0

def BootScanned (build : Build) (toc : Toc) : Prop := ∃ b ∈ scanned build toc, toc.idx .boot = some b

def Sendable (fds : Fds) (toc : Toc) (i : Fin 16) : Prop := 0 ≤ nvFd sit fds toc i ∧ (toc i).size ≠ 0

def Stops (fds : Fds) (toc : Toc) : Prop := ∃ p i, (entries sit toc)[p]? = some i ∧ (toc i).bOffset.toInt < 0 ∧
    (∀ q j, q ≤ p → (entries sit toc)[q]? = some j → Sendable fds toc j) ∧
    (BootScanned sit toc ∨ p + 1 < (entries sit toc).length)

def InOrder (fds : Fds) (toc : Toc) : Prop := (scanned sit toc).length < maxDloadStage ∧
    (numStages sit toc < maxDloadStage ∧ BootScanned sit toc ∧ (∀ i ∈ entries sit toc, Sendable fds toc i) ∨
      Stops fds toc)

def perform (answers : Answers) (made : List Action) : List Action → List Action × Int
  | [] => (made, 0)
  | a :: rest =>
    let (made, ret) := call answers made a
    if ret < 0 then (made, ret) else perform answers made rest

section
variable {answers : Answers} {made : List Action}

theorem ret_nonpos (answers : Answers) (n : Nat) (a : Action) : answers.ret n a ≤ 0 := by
  have herrno : answers.errno n ≤ 0 := by
    unfold Answers.errno
    split <;> omega
  cases a with
  | send r => exact herrno
  | cache stage fd offset size =>
    simp only [Answers.ret]
    split <;> omega

theorem perform_cons (a : Action) (rest : List Action) : perform answers made (a :: rest) =
      if answers.ret made.length a < 0 then (made ++ [a], answers.ret made.length a)
      else perform answers (made ++ [a]) rest :=
  rfl

theorem perform_append (xs ys : List Action) : perform answers made (xs ++ ys) =
      if (perform answers made xs).2 < 0 then perform answers made xs
      else perform answers (perform answers made xs).1 ys := by
  induction xs generalizing made with
  | nil => rfl
  | cons a xs ih =>
    rw [cons_append, perform_cons, perform_cons]
    by_cases hneg : answers.ret made.length a < 0
    · simp only [hneg, if_true]
    · simp only [hneg, if_false]
      exact ih

theorem perform_singleton (a : Action) : perform answers made [a] = call answers made a := by
  rw [perform_cons, call, perform]
  by_cases hneg : answers.ret made.length a < 0
  · rw [if_pos hneg]
  · have hle := ret_nonpos answers made.length a
    have hzero : answers.ret made.length a = 0 := by omega
    rw [if_neg hneg, hzero]

theorem perform_cases (answers : Answers) (made calls : List Action) :
    ((perform answers made calls) = (made ++ calls, 0) ∧
      ∀ k a, calls[k]? = some a → answers.ret (made.length + k) a = 0) ∨
    ∃ k a, calls[k]? = some a ∧ perform answers made calls =
      (made ++ calls.take (k + 1), answers.ret (made.length + k) a) ∧
      answers.ret (made.length + k) a < 0 ∧ ∀ j b, j < k → calls[j]? = some b → answers.ret (made.length + j) b =
        0 := by
  induction calls generalizing made with
  | nil =>
    left
    exact ⟨by simp [perform], nofun⟩
  | cons a calls ih =>
    have hhere := ret_nonpos answers made.length a
    have hlen : (made ++ [a]).length = made.length + 1 := by simp
    by_cases hneg : answers.ret made.length a < 0
    · right
      refine ⟨0, a, rfl, ?_, hneg, nofun⟩
      rw [perform_cons, if_pos hneg]
      rfl
    · have hzero : answers.ret made.length a = 0 := by omega
      have hperform : perform answers made (a :: calls) = perform answers (made ++ [a]) calls := by
        rw [perform_cons, if_neg hneg]
      rw [hperform]
      have hshift : ∀ k, (made ++ [a]).length + k = made.length + (k + 1) := by
        intro k
        rw [hlen]
        omega
      rcases ih (made ++ [a]) with ⟨hall, hok⟩ | ⟨k, b, hb, hall, hfail, hok⟩
      · left
        refine ⟨by rw [hall, append_assoc, singleton_append], ?_⟩
        intro k b hb
        cases k with
        | zero =>
          cases hb
          exact hzero
        | succ k =>
          rw [← hshift]
          exact hok k b hb
      · right
        rw [hshift] at hall hfail
        refine ⟨k + 1, b, hb, ?_, hfail, ?_⟩
        · rw [hall, append_assoc, singleton_append, List.take_succ_cons]
        · intro j c hj hc
          cases j with
          | zero =>
            cases hc
            exact hzero
          | succ j =>
            rw [← hshift]
            exact hok j c (by omega) hc

theorem handshake_perform (calls : List Action) :
    Handshake answers calls (perform answers [] calls).1 (perform answers [] calls).2 := by
  rcases perform_cases answers [] calls with ⟨hall, hok⟩ | ⟨k, a, ha, hall, hfail, hok⟩
  · left
    simp only [List.length_nil, Nat.zero_add] at hok
    exact ⟨by rw [hall]; rfl, by rw [hall], hok⟩
  · right
    simp only [List.length_nil, Nat.zero_add] at hall hfail hok
    exact ⟨k, a, ha, by rw [hall]; rfl, by rw [hall], by rw [hall]; exact hfail, hok⟩

theorem Handshake.unique {calls made made' : List Action} {ret ret' : Int} (h : Handshake answers calls made ret)
    (h' : Handshake answers calls made' ret') : made = made' := by
  rcases h with ⟨rfl, -, hok⟩ | ⟨k, a, ha, rfl, rfl, hfail, hok⟩
  · rcases h' with ⟨rfl, -, -⟩ | ⟨k', a', ha', -, hret', hfail', -⟩
    · rfl
    · have := hok k' a' ha'
      omega
  · rcases h' with ⟨-, -, hok'⟩ | ⟨k', a', ha', rfl, rfl, hfail', hok'⟩
    · have := hok' k a ha
      omega
    · rcases Nat.lt_trichotomy k k' with hlt | rfl | hlt
      · have := hok' k a hlt ha
        omega
      · rfl
      · have := hok k' a' hlt ha'
        omega

end

def finishActs (dlc : DloadControl) : List Action :=
  if dlc.finish then [.send (stageDone dlc.stage)] else []

def acts (dlc : DloadControl) : List Action := (if dlc.start then [.send (stageStart dlc.stage)] else []) ++
    if dlc.download then
      if dlc.bFd < 0 ∨ dlc.bSize = 0 then []
      else .cache dlc.stage dlc.bFd dlc.bOffset dlc.bSize :: (dataFrames dlc.stage dlc.bSize.toNat ++
        ((if dlc.validate then [.send (.crc dlc.stage dlc.crc)] else []) ++ finishActs dlc))
    else finishActs dlc

section
variable {answers : Answers} {made : List Action}

theorem sendFrames_succ (stage size fuel offset : Nat) : sendFrames answers stage size (fuel + 1) offset made =
      if size ≤ offset then (made, 0)
      else
        let len := min (size - offset) stdUdlMss
        let frame := .send (.data stage size offset len)
        if answers.ret made.length frame < 0 then (made ++ [frame], answers.ret made.length frame)
        else sendFrames answers stage size fuel (offset + len) (made ++ [frame]) :=
  rfl

theorem sendFrames_eq (answers : Answers) (made : List Action) (stage : Nat) {size fuel k : Nat}
    (hfuel : (size + (stdUdlMss - 1)) / stdUdlMss ≤ k + fuel) :
    sendFrames answers stage size fuel (k * stdUdlMss) made =
      perform answers made ((range' k ((size + (stdUdlMss - 1)) / stdUdlMss - k)).map fun k =>
        .send (.data stage size (k * stdUdlMss) (min (size - k * stdUdlMss) stdUdlMss))) := by
  induction fuel generalizing k made with
  | zero =>
    rw [Nat.add_zero] at hfuel
    rw [Nat.sub_eq_zero_of_le hfuel]
    rfl
  | succ fuel ih =>
    rw [sendFrames_succ]
    by_cases hend : size ≤ k * stdUdlMss
    · have hnone : (size + (stdUdlMss - 1)) / stdUdlMss - k = 0 := by
        unfold stdUdlMss at hend ⊢
        omega
      rw [if_pos hend, hnone]
      rfl
    · have hsome : (size + (stdUdlMss - 1)) / stdUdlMss - k = (size + (stdUdlMss - 1)) / stdUdlMss - (k + 1) + 1 := by
        unfold stdUdlMss at hend ⊢
        omega
      rw [if_neg hend, hsome, List.range'_succ, List.map_cons, perform_cons]
      by_cases hneg : answers.ret made.length
          (.send (.data stage size (k * stdUdlMss) (min (size - k * stdUdlMss) stdUdlMss))) < 0
      · rw [if_pos hneg, if_pos hneg]
      · rw [if_neg hneg, if_neg hneg]
        by_cases hlast : size - k * stdUdlMss ≤ stdUdlMss
        · have hnone : (size + (stdUdlMss - 1)) / stdUdlMss - (k + 1) = 0 := by
            unfold stdUdlMss at hlast ⊢
            omega
          have hall : k * stdUdlMss + min (size - k * stdUdlMss) stdUdlMss = size := by omega
          rw [hnone, hall]
          cases fuel with
          | zero => rfl
          | succ fuel =>
            rw [sendFrames_succ, if_pos le_rfl]
            rfl
        · have hnext : k * stdUdlMss + min (size - k * stdUdlMss) stdUdlMss = (k + 1) * stdUdlMss := by
            rw [Nat.succ_mul]
            omega
          rw [hnext]
          exact ih _ (by omega)

theorem stdDlSendBin_eq (stage : Nat) (size : U32) :
    stdDlSendBin answers stage size made = perform answers made (dataFrames stage size.toNat) := by
  have hfuel : (size.toNat + (stdUdlMss - 1)) / stdUdlMss ≤ 0 + (size.toNat / stdUdlMss + 1) := by
    unfold stdUdlMss
    omega
  have heq := sendFrames_eq answers made stage hfuel
  rw [Nat.zero_mul, Nat.sub_zero] at heq
  rw [stdDlSendBin, heq, dataFrames, List.range_eq_range']

variable (dlc : DloadControl)

theorem startPart_eq : startPart answers dlc made =
      perform answers made (if dlc.start then [.send (stageStart dlc.stage)] else []) := by
  unfold startPart
  split
  · exact (perform_singleton _).symm
  · rfl

theorem finishPart_eq : finishPart answers dlc made = perform answers made (finishActs dlc) := by
  unfold finishPart finishActs
  split
  · exact (perform_singleton _).symm
  · rfl

theorem downloadPart_eq : downloadPart answers dlc made =
      perform answers made (.cache dlc.stage dlc.bFd dlc.bOffset dlc.bSize :: (dataFrames dlc.stage dlc.bSize.toNat ++
        if dlc.validate then [.send (.crc dlc.stage dlc.crc)] else [])) := by
  have hcrc : ∀ made, (if dlc.validate then call answers made (.send (.crc dlc.stage dlc.crc)) else (made, 0)) =
      perform answers made (if dlc.validate then [.send (.crc dlc.stage dlc.crc)] else []) := by
    intro made
    split
    · exact (perform_singleton _).symm
    · rfl
  rw [← singleton_append, perform_append, perform_append, perform_singleton, ← stdDlSendBin_eq, ← hcrc]
  rfl

theorem loadStage_eq : loadStage answers dlc made = perform answers made (acts dlc) := by
  have hloaded : loadStage answers dlc made = if (startPart answers dlc made).2 < 0 then startPart answers dlc made
      else if dlc.download then
        if dlc.bFd < 0 then ((startPart answers dlc made).1, 0)
        else if dlc.bSize = 0 then ((startPart answers dlc made).1, 0)
        else if (downloadPart answers dlc (startPart answers dlc made).1).2 < 0 then
          downloadPart answers dlc (startPart answers dlc made).1
        else finishPart answers dlc (downloadPart answers dlc (startPart answers dlc made).1).1
      else finishPart answers dlc (startPart answers dlc made).1 := rfl
  rw [hloaded, acts, perform_append, ← startPart_eq]
  congr 1
  split
  · split
    · rw [if_pos (Or.inl ‹_›)]
      rfl
    · split
      · rw [if_pos (Or.inr ‹_›)]
        rfl
      · rw [if_neg (not_or.mpr ⟨‹_›, ‹_›⟩), ← append_assoc, ← cons_append, perform_append,
          ← downloadPart_eq, ← finishPart_eq]
  · exact finishPart_eq dlc

theorem loadStages_cons {ctrl : DlCtrl} {i : Nat} {dlc : DloadControl} (h : ctrl[i]? = some dlc) (rest : List Nat) :
    loadStages (loadStage answers) ctrl (i :: rest) made =
      if (perform answers made (acts dlc)).2 < 0 then some (perform answers made (acts dlc))
      else loadStages (loadStage answers) ctrl rest (perform answers made (acts dlc)).1 := by
  have hcons : loadStages (loadStage answers) ctrl (i :: rest) made = ctrl[i]?.bind fun dlc =>
      if (loadStage answers dlc made).2 < 0 then some (loadStage answers dlc made)
      else loadStages (loadStage answers) ctrl rest (loadStage answers dlc made).1 := rfl
  rw [hcons, h, Option.bind_some, loadStage_eq]

theorem loadStages_rounds {ctrl : DlCtrl} {calls : List (List Action)} {first : Nat} (rest : List Nat)
    (h : ∀ j c, calls[j]? = some c → ∃ dlc, ctrl[first + j]? = some dlc ∧ acts dlc = c) :
    loadStages (loadStage answers) ctrl (range' first calls.length ++ rest) made =
      if (perform answers made calls.flatten).2 < 0 then some (perform answers made calls.flatten)
      else loadStages (loadStage answers) ctrl rest (perform answers made calls.flatten).1 := by
  induction calls generalizing made first with
  | nil => rfl
  | cons c calls ih =>
    obtain ⟨dlc, hdlc, hacts⟩ := h 0 c rfl
    rw [Nat.add_zero] at hdlc
    have hlater : ∀ j c, calls[j]? = some c → ∃ dlc, ctrl[first + 1 + j]? = some dlc ∧ acts dlc = c := by
      intro j d hd
      obtain ⟨dlc, hdlc, hacts⟩ := h (j + 1) d hd
      exact ⟨dlc, by rw [← hdlc]; congr 1; omega, hacts⟩
    rw [length_cons, List.range'_succ, cons_append, loadStages_cons hdlc, hacts, List.flatten_cons, perform_append]
    by_cases hneg : (perform answers made c).2 < 0
    · rw [if_pos hneg, if_pos hneg, if_pos hneg]
    · rw [if_neg hneg, if_neg hneg, ih hlater]

theorem perform_stops {calls : List Action} {stage : Nat} {fd : Int} {offset size : U32}
    (hmem : .cache stage fd offset size ∈ calls) (hneg : offset.toInt < 0) : (perform answers made calls).2 < 0 := by
  obtain ⟨k, hk⟩ := List.mem_iff_getElem?.mp hmem
  rcases perform_cases answers made calls with ⟨-, hok⟩ | ⟨j, a, -, hperform, hfail, -⟩
  · have hzero := hok k _ hk
    simp only [Answers.ret, if_pos hneg] at hzero
    omega
  · rw [hperform]
    exact hfail

end

section
variable {build : Build} {fds : Fds} {toc : Toc} {ctrl : DlCtrl}

theorem put_eq {i : Nat} (hi : i < ctrl.length) (r : DloadControl) :
    ctrl.put i r = some (ctrl.set i r) :=
  if_pos hi

variable {stage : Nat} {is : List (Fin 16)}

theorem buildRecords_spec (hstage : 1 ≤ stage)
    (hfits : stage + (is.filter fun i => !(toc.idx .boot == some i)).length ≤ ctrl.length) :
    ∃ ctrl', buildRecords build fds toc is stage ctrl = some ctrl' ∧ ctrl'.length = ctrl.length ∧
      (∀ j i, (is.filter fun i => !(toc.idx .boot == some i))[j]? = some i →
        ctrl'[stage + j]? = some (record build fds toc (stage + j) i)) ∧
      ∀ k, 1 ≤ k → k < stage ∨ stage + (is.filter fun i => !(toc.idx .boot == some i)).length ≤ k →
        ctrl'[k]? = ctrl[k]? := by
  induction is generalizing stage ctrl with
  | nil => exact ⟨ctrl, rfl, rfl, nofun, fun _ _ _ => rfl⟩
  | cons i is ih =>
    by_cases hboot : toc.idx .boot = some i
    · have hfilter : ((i :: is).filter fun i => !(toc.idx .boot == some i)) =
          is.filter fun i => !(toc.idx .boot == some i) := by
        simp [hboot]
      rw [hfilter] at hfits ⊢
      have hlen : (ctrl.set 0 (record build fds toc 0 i)).length = ctrl.length := length_set
      obtain ⟨ctrl', hbuild, hlen', hentries, hrest⟩ := ih hstage (hlen ▸ hfits)
      refine ⟨ctrl', ?_, hlen'.trans hlen, hentries, ?_⟩
      · rw [buildRecords, if_pos hboot, put_eq (by omega)]
        exact hbuild
      · intro k hk hout
        rw [hrest k hk hout, List.getElem?_set_ne (by omega)]
    · have hfilter : ((i :: is).filter fun i => !(toc.idx .boot == some i)) =
          i :: is.filter fun i => !(toc.idx .boot == some i) := by
        simp [hboot]
      rw [hfilter, length_cons] at hfits
      rw [hfilter, length_cons]
      have hlen : (ctrl.set stage (record build fds toc stage i)).length = ctrl.length := length_set
      obtain ⟨ctrl', hbuild, hlen', hentries, hrest⟩ := ih (Nat.le_succ_of_le hstage) (by rw [hlen]; omega)
      refine ⟨ctrl', ?_, hlen'.trans hlen, ?_, ?_⟩
      · rw [buildRecords, if_neg hboot, put_eq (by omega)]
        exact hbuild
      · intro j e he
        cases j with
        | zero =>
          cases he
          rw [Nat.add_zero, hrest stage hstage (Or.inl (Nat.lt_succ_self _)), List.getElem?_set_self (by omega)]
        | succ j =>
          have hat := hentries j e he
          rw [Nat.succ_add_eq_add_succ] at hat
          exact hat
      · intro k hk hout
        rw [hrest k hk (by omega), List.getElem?_set_ne (by omega)]

theorem buildRecords_length {ctrl ctrl' : DlCtrl}
    (h : buildRecords build fds toc is stage ctrl = some ctrl') : ctrl'.length = ctrl.length := by
  have hput : ∀ {i r} {ctrl next : DlCtrl}, ctrl.put i r = some next → next.length = ctrl.length := by
    intro i r ctrl next hput
    unfold DlCtrl.put at hput
    split at hput
    · cases hput
      exact length_set
    · cases hput
  induction is generalizing stage ctrl with
  | nil =>
    cases h
    rfl
  | cons i is ih =>
    rw [buildRecords] at h
    split at h <;>
    · obtain ⟨next, hnext, h⟩ := Option.bind_eq_some_iff.mp h
      rw [ih h, hput hnext]

theorem scanned_nodup : (scanned build toc).Nodup :=
  ((List.nodup_finRange 16).sublist (List.take_sublist _ _)).sublist (List.takeWhile_sublist _)

theorem length_scanned_le : (scanned build toc).length ≤ numStages build toc :=
  (List.takeWhile_sublist _).length_le.trans (List.length_take_le _ _)

theorem length_scanned (h : BootScanned build toc) : (scanned build toc).length = (entries build toc).length + 1 := by
  obtain ⟨b, hmem, hboot⟩ := h
  have herase : entries build toc = (scanned build toc).erase b := by
    rw [scanned_nodup.erase_eq_filter, entries]
    congr 1
    funext i
    rw [hboot]
    simp [bne, Bool.beq_comm]
  rw [herase, List.length_erase_of_mem hmem]
  have hpos := List.length_pos_of_mem hmem
  omega

theorem entries_eq_scanned (h : ¬BootScanned build toc) : entries build toc = scanned build toc := by
  refine List.filter_eq_self.mpr ?_
  intro i hi
  simp only [Bool.not_eq_true', beq_eq_false_iff_ne]
  intro hboot
  exact h ⟨i, hi, hboot⟩

theorem length_entries_le : (entries build toc).length ≤ (scanned build toc).length := List.length_filter_le _ _

structure Built (build : Build) (fds : Fds) (toc : Toc) (ctrl : DlCtrl) : Prop where
  length : ctrl.length = maxDloadStage
  entry : ∀ j i, (entries build toc)[j]? = some i → BootScanned build toc ∨ j + 1 < (entries build toc).length →
    ctrl[j + 1]? = some (record build fds toc (j + 1) i)
  fin : BootScanned build toc → ctrl[(entries build toc).length + 1]? = some { stage := finStage, start := true }
  overwritten : ¬BootScanned build toc → ∀ j i, (entries build toc)[j]? = some i → j + 1 = (entries build toc).length →
    ctrl[j + 1]? = some { record build fds toc (j + 1) i with stage := finStage, start := true }
  rest : ∀ k, (scanned build toc).length < k → 1 ≤ k → k < maxDloadStage → ctrl[k]? = some {}

theorem buildStdDloadControl_fits (fds : Fds) (h : (scanned build toc).length < maxDloadStage) :
    ∃ ctrl, buildStdDloadControl build fds toc = some ctrl ∧ Built build fds toc ctrl := by
  have hle : (entries build toc).length ≤ (scanned build toc).length := length_entries_le
  have hinit : DlCtrl.init.length = maxDloadStage := List.length_replicate
  have hroom : 1 + (entries build toc).length ≤ DlCtrl.init.length := by omega
  obtain ⟨ctrl, hbuild, hlen, hentries, hrest⟩ : ∃ ctrl, buildRecords build fds toc (scanned build toc) 1 DlCtrl.init =
      some ctrl ∧ _ :=
    buildRecords_spec le_rfl hroom
  rw [hinit] at hlen
  have hzero : ∀ k, 1 ≤ k → (entries build toc).length < k → k < maxDloadStage → ctrl[k]? = some {} := by
    intro k hk hout hlt
    have hkept : ctrl[k]? = DlCtrl.init[k]? := hrest k hk (Or.inr (by rw [Nat.add_comm]; exact hout))
    rw [hkept, DlCtrl.init, List.getElem?_replicate, if_pos hlt]
  have hlt : (scanned build toc).length < ctrl.length := by omega
  have hget : ctrl[(scanned build toc).length]? = some ctrl[(scanned build toc).length] := List.getElem?_eq_getElem hlt
  refine ⟨ctrl.set (scanned build toc).length
    { ctrl[(scanned build toc).length] with stage := finStage, start := true }, ?_, ?_⟩
  · rw [buildStdDloadControl, hbuild]
    simp only [Option.bind_eq_bind, Option.bind_some, hget]
    exact put_eq hlt _
  · constructor
    · rw [length_set]
      exact hlen
    · intro j i hi hwhere
      have hj : j < (entries build toc).length := (List.getElem?_eq_some_iff.mp hi).1
      have hne : (scanned build toc).length ≠ j + 1 := by
        rcases hwhere with hboot | hlt'
        · rw [length_scanned hboot]
          omega
        · omega
      rw [List.getElem?_set_ne hne, Nat.add_comm j 1]
      exact hentries j i hi
    · intro hboot
      have hat := length_scanned hboot
      have hfree := hzero (scanned build toc).length (by omega) (by omega) h
      rw [hget] at hfree
      rw [← hat, List.getElem?_set_self hlt, Option.some_injective _ hfree]
    · intro hboot j i hi hlast
      have hat : (scanned build toc).length = j + 1 := by rw [← entries_eq_scanned hboot, hlast]
      have hrecord := hentries j i hi
      rw [Nat.add_comm 1 j, ← hat, hget] at hrecord
      rw [← hat, List.getElem?_set_self hlt, Option.some_injective _ hrecord]
    · intro k hout hk hlt'
      rw [List.getElem?_set_ne (by omega)]
      exact hzero k hk (by omega) hlt'

theorem buildStdDloadControl_overruns (h : maxDloadStage ≤ (scanned build toc).length) :
    buildStdDloadControl build fds toc = none := by
  unfold buildStdDloadControl
  rcases hbuild : buildRecords build fds toc (scanned build toc) 1 DlCtrl.init with _ | ctrl
  · rfl
  · have hlen : ctrl.length = maxDloadStage := (buildRecords_length hbuild).trans List.length_replicate
    have hnone : ctrl[(scanned build toc).length]? = none := List.getElem?_eq_none (by omega)
    simp only [Option.bind_eq_bind, Option.bind_some, hnone, Option.bind_none]

variable {i : Fin 16}

theorem not_boot_of_mem (hi : i ∈ entries sit toc) : toc.idx .boot ≠ some i := by
  have hpred := (List.mem_filter.mp hi).2
  simpa only [Bool.not_eq_true', beq_eq_false_iff_ne] using hpred

theorem stageStart_eq (hstage : stage < maxDloadStage) : stageStart stage = .start stage := by
  have hne : stage ≠ finStage := fun h => absurd (h ▸ hstage) (by decide)
  exact if_neg hne

theorem stageDone_eq (hstage : 1 ≤ stage) : stageDone stage = .done stage := by
  have hne : stage ≠ bootStage := fun h => absurd (h ▸ hstage) (by decide)
  exact if_neg hne

theorem acts_of_sendable (hpos : 1 ≤ stage) (hlt : stage < maxDloadStage)
    (hi : i ∈ entries sit toc) (h : Sendable fds toc i) :
    acts (record sit fds toc stage i) = block fds toc i stage := by
  have hboot := not_boot_of_mem hi
  have hsent : ¬((record sit fds toc stage i).bFd < 0 ∨ (record sit fds toc stage i).bSize = 0) :=
    not_or.mpr ⟨Int.not_lt.mpr h.1, h.2⟩
  have hstart : (record sit fds toc stage i).start = true := by simp [record, hboot]
  have hdownload : (record sit fds toc stage i).download = true := by simp [record, hboot]
  have hvalidate : ((record sit fds toc stage i).validate = true) = (toc.idx .main = some i) := by simp [record, hboot]
  unfold acts finishActs block
  simp only [hstart, hdownload, hvalidate, if_neg hsent, if_true]
  simp only [record, stageStart_eq hlt, stageDone_eq hpos, if_true, append_assoc, cons_append, List.nil_append]

theorem acts_of_not_sendable (hlt : stage < maxDloadStage) (hi : i ∈ entries sit toc)
    (h : ¬Sendable fds toc i) : acts (record sit fds toc stage i) = [.send (.start stage)] := by
  have hboot := not_boot_of_mem hi
  have hskip : (record sit fds toc stage i).bFd < 0 ∨ (record sit fds toc stage i).bSize = 0 := by
    rcases not_and_or.mp h with hfd | hsize
    · exact Or.inl (Int.not_le.mp hfd)
    · exact Or.inr (not_not.mp hsize)
  have hstart : (record sit fds toc stage i).start = true := by simp [record, hboot]
  have hdownload : (record sit fds toc stage i).download = true := by simp [record, hboot]
  unfold acts
  simp only [hstart, hdownload, if_pos hskip, if_true]
  simp only [record, stageStart_eq hlt, List.append_nil]

end

section
variable {fds : Fds} {toc : Toc} {ctrl : DlCtrl} {answers : Answers}

def blocks (fds : Fds) (toc : Toc) : List (List Action) :=
  ((entries sit toc).zipIdx 1).map fun e => block fds toc e.1 e.2

theorem length_blocks (fds : Fds) (toc : Toc) : (blocks fds toc).length = (entries sit toc).length := by
  rw [blocks, List.length_map, List.length_zipIdx]

theorem getElem?_blocks (j : Nat) : (blocks fds toc)[j]? = (entries sit toc)[j]?.map fun i =>
    block fds toc i (j + 1) := by
  rw [blocks, List.getElem?_map, List.getElem?_zipIdx, Option.map_map, Nat.add_comm 1 j]
  rfl

theorem expected_eq : expected fds toc = (blocks fds toc).flatten ++ [.send .finalize] := rfl

theorem Built.rounds (h : Built sit fds toc ctrl) (hscan : (scanned sit toc).length < maxDloadStage) {n : Nat}
    (hroom : BootScanned sit toc ∨ n < (entries sit toc).length)
    (hsend : ∀ j i, j < n → (entries sit toc)[j]? = some i → Sendable fds toc i) :
    ∀ j c, ((blocks fds toc).take n)[j]? = some c → ∃ dlc, ctrl[1 + j]? = some dlc ∧ acts dlc = c := by
  intro j c hc
  have hj : j < n := by
    by_contra hnot
    rw [List.getElem?_take_eq_none (Nat.le_of_not_lt hnot)] at hc
    cases hc
  rw [List.getElem?_take_of_lt hj, getElem?_blocks] at hc
  obtain ⟨i, hi, rfl⟩ := Option.map_eq_some_iff.mp hc
  have hlt : j < (entries sit toc).length := (List.getElem?_eq_some_iff.mp hi).1
  have hle : (entries sit toc).length ≤ (scanned sit toc).length := length_entries_le
  have hbefore : BootScanned sit toc ∨ j + 1 < (entries sit toc).length := by
    rcases hroom with hboot | hn
    · exact Or.inl hboot
    · exact Or.inr (by omega)
  refine ⟨_, by rw [Nat.add_comm]; exact h.entry j i hi hbefore, ?_⟩
  exact acts_of_sendable (by omega) (by omega) (mem_of_getElem? hi) (hsend j i hj hi)

def allCalls (fds : Fds) (toc : Toc) (n : Nat) : List (List Action) :=
  blocks fds toc ++ [[.send .finalize]] ++ List.replicate n []

theorem length_allCalls (hboot : BootScanned sit toc) (n : Nat) :
    (allCalls fds toc n).length = (scanned sit toc).length + n := by
  simp only [allCalls, length_append, List.length_replicate, length_blocks, List.length_singleton, length_scanned hboot]

theorem flatten_allCalls (n : Nat) : (allCalls fds toc n).flatten = expected fds toc := by
  rw [allCalls, flatten_append, flatten_append, List.flatten_replicate_nil, List.append_nil,
    List.flatten_singleton, expected_eq]

theorem Built.allRounds (h : Built sit fds toc ctrl) (hscan : (scanned sit toc).length < maxDloadStage)
    (hboot : BootScanned sit toc) (hsend : ∀ i ∈ entries sit toc, Sendable fds toc i) {n : Nat}
    (hn : (scanned sit toc).length + n < maxDloadStage) :
    ∀ j c, (allCalls fds toc n)[j]? = some c → ∃ dlc, ctrl[1 + j]? = some dlc ∧ acts dlc = c := by
  have hlength := length_scanned hboot
  intro j c hc
  unfold allCalls at hc
  rcases Nat.lt_trichotomy j (entries sit toc).length with hlt | rfl | hgt
  · rw [append_assoc, List.getElem?_append_left (by rw [length_blocks]; exact hlt)] at hc
    refine h.rounds hscan (Or.inl hboot) (fun j i _ hi => hsend i (mem_of_getElem? hi)) j c
      (show ((blocks fds toc).take (entries sit toc).length)[j]? = some c from ?_)
    rw [← length_blocks fds toc, List.take_length]
    exact hc
  · rw [append_assoc, List.getElem?_append_right (by rw [length_blocks]), length_blocks, Nat.sub_self] at hc
    cases hc
    refine ⟨_, by rw [Nat.add_comm]; exact h.fin hboot, rfl⟩
  · have hlen : (blocks fds toc ++ [[Action.send .finalize]]).length = (entries sit toc).length + 1 := by
      rw [length_append, length_blocks]
      rfl
    rw [List.getElem?_append_right (by rw [hlen]; exact hgt), hlen, List.getElem?_replicate] at hc
    split at hc
    · cases hc
      exact ⟨_, h.rest _ (by omega) (by omega) (by omega), rfl⟩
    · cases hc

theorem loadRange_sit : loadRange sit toc = range' 1 (numStages sit toc) := by
  rw [loadRange, List.range_eq_range', tocStage, List.drop_range']
  rfl

theorem load_eq (h : buildStdDloadControl sit fds toc = some ctrl) :
    stdBootLoadCpImages sit (loadStage answers) fds toc = loadStages (loadStage answers) ctrl
      (range' 1 (numStages sit toc)) [] := by
  rw [stdBootLoadCpImages, h, loadRange_sit]
  rfl

theorem load_rounds {calls : List (List Action)} (h : buildStdDloadControl sit fds toc = some ctrl)
    (hle : calls.length ≤ numStages sit toc)
    (hcalls : ∀ j c, calls[j]? = some c → ∃ dlc, ctrl[1 + j]? = some dlc ∧ acts dlc = c) :
    stdBootLoadCpImages sit (loadStage answers) fds toc =
      if (perform answers [] calls.flatten).2 < 0 then some (perform answers [] calls.flatten)
      else loadStages (loadStage answers) ctrl (range' (calls.length + 1) (numStages sit toc - calls.length))
        (perform answers [] calls.flatten).1 := by
  have hsplit : range' 1 (numStages sit toc) =
      range' 1 calls.length ++ range' (calls.length + 1) (numStages sit toc - calls.length) := by
    rw [Nat.add_comm calls.length 1, List.range'_append_1]
    congr 1
    omega
  rw [load_eq h, hsplit, loadStages_rounds _ hcalls]

variable (hbuild : buildStdDloadControl sit fds toc = some ctrl) (h : Built sit fds toc ctrl)
  (hscan : (scanned sit toc).length < maxDloadStage)
include hbuild h hscan

theorem load_of_all (hnum : numStages sit toc < maxDloadStage) (hboot : BootScanned sit toc)
    (hsend : ∀ i ∈ entries sit toc, Sendable fds toc i) :
    stdBootLoadCpImages sit (loadStage answers) fds toc = some (perform answers [] (expected fds toc)) := by
  have hle : (scanned sit toc).length ≤ numStages sit toc := length_scanned_le
  have hcalls := h.allRounds hscan hboot hsend
    (show (scanned sit toc).length + (numStages sit toc - (scanned sit toc).length) < maxDloadStage by omega)
  have hcnt : (allCalls fds toc (numStages sit toc - (scanned sit toc).length)).length = numStages sit toc := by
    rw [length_allCalls hboot]
    omega
  rw [load_rounds hbuild hcnt.le hcalls, flatten_allCalls, hcnt, Nat.sub_self]
  split
  · rfl
  · rename_i hneg
    rcases perform_cases answers [] (expected fds toc) with ⟨hall, -⟩ | ⟨k, a, -, hall, hfail, -⟩
    · rw [hall]
      rfl
    · rw [hall] at hneg
      exact absurd hfail hneg

theorem load_of_stops (hstops : Stops fds toc) :
    stdBootLoadCpImages sit (loadStage answers) fds toc = some (perform answers [] (expected fds toc)) := by
  obtain ⟨p, i, hi, hneg, hsend, hroom⟩ := hstops
  have hp : p < (entries sit toc).length := (List.getElem?_eq_some_iff.mp hi).1
  have hle : (entries sit toc).length ≤ (scanned sit toc).length := length_entries_le
  have hle' : (scanned sit toc).length ≤ numStages sit toc := length_scanned_le
  have hcalls := h.rounds hscan hroom (fun j i hj hj' => hsend j i (Nat.le_of_lt_succ hj) hj')
  have hcnt : ((blocks fds toc).take (p + 1)).length = p + 1 := by
    rw [length_take, length_blocks]
    omega
  have hblock : block fds toc i (p + 1) ∈ (blocks fds toc).take (p + 1) := by
    refine mem_of_getElem? (show ((blocks fds toc).take (p + 1))[p]? = _ from ?_)
    rw [List.getElem?_take_of_lt (Nat.lt_succ_self p), getElem?_blocks, hi]
    rfl
  have hcache : Action.cache (p + 1) (nvFd sit fds toc i) (toc i).bOffset (toc i).size ∈
      ((blocks fds toc).take (p + 1)).flatten :=
    List.mem_flatten_of_mem hblock (by simp [block])
  have hstop : (perform answers [] ((blocks fds toc).take (p + 1)).flatten).2 < 0 := perform_stops hcache hneg
  have hexp : expected fds toc =
      ((blocks fds toc).take (p + 1)).flatten ++ (((blocks fds toc).drop (p + 1)).flatten ++ [.send .finalize]) := by
    rw [← append_assoc, ← flatten_append, List.take_append_drop, expected_eq]
  rw [load_rounds hbuild (by omega) hcalls, if_pos hstop, hexp, perform_append, if_pos hstop]

end

section
variable {fds : Fds} {toc : Toc} {ctrl : DlCtrl} {answers : Answers} {made : List Action}

def allOk : Answers :=
  fun _ => none

def Action.Fits : Action → Prop
  | .send _ => True
  | .cache _ _ offset _ => ¬offset.toInt < 0

variable {n : Nat} {a : Action}

theorem allOk_ret (h : a.Fits) : allOk.ret n a = 0 := by
  cases a with
  | send r => rfl
  | cache stage fd offset size => exact if_neg h

theorem perform_extends (calls : List Action) : made <+: (perform answers made calls).1 := by
  rcases perform_cases answers made calls with ⟨hall, -⟩ | ⟨k, a, -, hall, -, -⟩
  · rw [hall]
    exact prefix_append _ _
  · rw [hall]
    exact prefix_append _ _

theorem perform_fits {calls : List Action} (h : ∀ a ∈ calls, a.Fits) :
    perform allOk made calls = (made ++ calls, 0) := by
  rcases perform_cases allOk made calls with ⟨hall, -⟩ | ⟨k, a, ha, -, hfail, -⟩
  · exact hall
  · rw [allOk_ret (h a (mem_of_getElem? ha))] at hfail
    exact absurd hfail (by decide)

theorem perform_send (r : Request) (rest : List Action) :
    perform allOk made (.send r :: rest) = perform allOk (made ++ [.send r]) rest := by
  rw [perform_cons, if_neg]
  exact Int.lt_irrefl 0

theorem perform_first (a : Action) (rest : List Action) : made ++ [a] <+: (perform answers made (a :: rest)).1 := by
  rw [perform_cons]
  split
  · exact List.prefix_refl _
  · exact perform_extends _

variable {ret : Int} {is : List Nat} {made' : List Action}

theorem loadStages_extends (h : loadStages (loadStage answers) ctrl is made = some (made', ret)) : made <+: made' := by
  induction is generalizing made with
  | nil =>
    cases h
    exact List.prefix_refl _
  | cons i is ih =>
    rcases hdlc : ctrl[i]? with _ | dlc
    · simp [loadStages, hdlc] at h
    · rw [loadStages_cons hdlc] at h
      split at h
      · have hmade : (perform answers made (acts dlc)).1 = made' := by rw [Option.some_injective _ h]
        rw [← hmade]
        exact perform_extends _
      · exact (perform_extends _).trans (ih h)

variable {dlc : DloadControl}

theorem loadStages_first {i : Nat} {rest made' : List Action} (hdlc : ctrl[i]? = some dlc)
    (hacts : acts dlc = a :: rest)
    (h : loadStages (loadStage answers) ctrl (i :: is) made = some (made', ret)) : made ++ [a] <+: made' := by
  rw [loadStages_cons hdlc, hacts] at h
  split at h
  · have hmade : (perform answers made (a :: rest)).1 = made' := by rw [Option.some_injective _ h]
    rw [← hmade]
    exact perform_first a rest
  · exact (perform_first a rest).trans (loadStages_extends h)

theorem eq_of_first {a b : Action} (ha : made ++ [a] <+: made') (hb : made ++ [b] <+: made') : a = b := by
  have hprefix := List.prefix_of_prefix_length_le ha hb (by simp)
  have heq : made ++ [a] = made ++ [b] := hprefix.eq_of_length (by simp)
  exact List.singleton_inj.mp (List.append_cancel_left heq)

theorem acts_of_start (h : dlc.start) : ∃ rest, acts dlc = .send (stageStart dlc.stage) :: rest := by
  unfold acts
  rw [if_pos h, singleton_append]
  exact ⟨_, rfl⟩

variable {i : Fin 16} {stage : Nat}

theorem record_start (hi : i ∈ entries sit toc) : (record sit fds toc stage i).start := by
  simp [record, not_boot_of_mem hi]

theorem Built.opens (h : Built sit fds toc ctrl) {k : Nat} (hk : 1 ≤ k) (hdlc : ctrl[k]? = some dlc) :
    dlc.start ∨ acts dlc = [] := by
  have hlt : k < maxDloadStage := h.length ▸ (List.getElem?_eq_some_iff.mp hdlc).1
  obtain ⟨j, rfl⟩ : ∃ j, k = j + 1 := ⟨k - 1, by omega⟩
  by_cases hout : (scanned sit toc).length < j + 1
  · rw [h.rest _ hout hk hlt] at hdlc
    cases hdlc
    exact Or.inr rfl
  left
  rcases hentry : (entries sit toc)[j]? with _ | i
  · -- the record after those of the entries
    have hge : (entries sit toc).length ≤ j := List.getElem?_eq_none_iff.mp hentry
    have hboot : BootScanned sit toc := by
      by_contra hnot
      rw [entries_eq_scanned hnot] at hge
      omega
    have hat := length_scanned hboot
    have hj : j = (entries sit toc).length := by omega
    rw [hj, h.fin hboot] at hdlc
    cases hdlc
    rfl
  · have hj : j < (entries sit toc).length := (List.getElem?_eq_some_iff.mp hentry).1
    have hmem := mem_of_getElem? hentry
    by_cases hroom : BootScanned sit toc ∨ j + 1 < (entries sit toc).length
    · rw [h.entry j i hentry hroom] at hdlc
      cases hdlc
      exact record_start hmem
    · obtain ⟨hboot, hlast⟩ := not_or.mp hroom
      rw [h.overwritten hboot j i hentry (by omega)] at hdlc
      cases hdlc
      rfl

theorem loadStages_not_cache (hopens : ∀ k dlc, 1 ≤ k → ctrl[k]? = some dlc → dlc.start ∨ acts dlc = [])
    (his : ∀ i ∈ is, 1 ≤ i)
    (h : loadStages (loadStage answers) ctrl is made = some (made', ret)) (stage : Nat) (fd : Int) (offset size : U32) :
    ¬made ++ [.cache stage fd offset size] <+: made' := by
  induction is with
  | nil =>
    cases h
    intro hprefix
    have hle := hprefix.length_le
    rw [length_append, List.length_singleton] at hle
    omega
  | cons i is ih =>
    rcases hdlc : ctrl[i]? with _ | dlc
    · simp [loadStages, hdlc] at h
    · rcases hopens i dlc (his i List.mem_cons_self) hdlc with hstart | hidle
      · obtain ⟨rest, hacts⟩ := acts_of_start hstart
        intro hprefix
        cases eq_of_first (loadStages_first hdlc hacts h) hprefix
      · rw [loadStages_cons hdlc, hidle] at h
        exact ih (fun i hi => his i (List.mem_cons_of_mem _ hi)) h

def Good (fds : Fds) (toc : Toc) (i : Fin 16) : Prop := Sendable fds toc i ∧ ¬(toc i).bOffset.toInt < 0

theorem block_fits (h : ¬(toc i).bOffset.toInt < 0) : ∀ a ∈ block fds toc i stage, a.Fits := by
  intro a ha
  unfold block dataFrames at ha
  simp only [List.mem_append, List.mem_cons, List.mem_map, List.not_mem_nil, or_false] at ha
  rcases ha with ((((rfl | rfl) | ⟨k, -, rfl⟩) | hcrc) | rfl)
  · trivial
  · exact h
  · trivial
  · split at hcrc
    · cases List.mem_singleton.mp hcrc
      trivial
    · cases hcrc
  · trivial

variable (fds toc) in
/-- The calls for the entries before the `n`-th. -/
def sent (n : Nat) : List Action := ((blocks fds toc).take n).flatten

theorem sent_fits (h : ∀ j i, j < n → (entries sit toc)[j]? = some i → Good fds toc i) :
    ∀ a ∈ sent fds toc n, a.Fits := by
  intro a ha
  obtain ⟨c, hc, ha⟩ := List.mem_flatten.mp ha
  obtain ⟨j, hj⟩ := List.mem_iff_getElem?.mp hc
  have hlt : j < n := by
    have := (List.getElem?_eq_some_iff.mp hj).1
    rw [length_take] at this
    omega
  rw [List.getElem?_take_of_lt hlt, getElem?_blocks] at hj
  obtain ⟨i, hi, rfl⟩ := Option.map_eq_some_iff.mp hj
  exact block_fits (h j i hlt hi).2 a ha

theorem expected_split (fds : Fds) (hi : (entries sit toc)[n]? = some i) :
    ∃ rest, expected fds toc = sent fds toc n ++ .send (.start (n + 1)) ::
      .cache (n + 1) (nvFd sit fds toc i) (toc i).bOffset (toc i).size :: rest := by
  have hdrop : (blocks fds toc).drop n = block fds toc i (n + 1) :: (blocks fds toc).drop (n + 1) := by
    have hget : (blocks fds toc)[n]? = some (block fds toc i (n + 1)) := by
      rw [getElem?_blocks, hi]
      rfl
    obtain ⟨hlt, heq⟩ := List.getElem?_eq_some_iff.mp hget
    rw [List.drop_eq_getElem_cons hlt, heq]
  rw [expected_eq, ← List.take_append_drop n (blocks fds toc), flatten_append, hdrop, List.flatten_cons, block]
  simp only [sent, append_assoc, cons_append, List.nil_append]
  exact ⟨_, rfl⟩

theorem handshake_next (hshake : Handshake allOk (expected fds toc) made ret)
    (hgood : ∀ j i, j < n → (entries sit toc)[j]? = some i → Good fds toc i) (hi : (entries sit toc)[n]? = some i) :
    sent fds toc n ++ [.send (.start (n + 1))] ++
      [.cache (n + 1) (nvFd sit fds toc i) (toc i).bOffset (toc i).size] <+: made := by
  obtain ⟨rest, hexp⟩ := expected_split fds hi
  have hperform : made = (perform allOk [] (expected fds toc)).1 := hshake.unique (handshake_perform _)
  rw [hperform, hexp, perform_append, perform_fits (sent_fits hgood), if_neg (Int.lt_irrefl 0), perform_send]
  exact perform_first _ _

theorem all_good_or_first (fds : Fds) (toc : Toc) : (∀ i ∈ entries sit toc, Good fds toc i) ∨
    ∃ (n : Nat) (i : Fin 16), (entries sit toc)[n]? = some i ∧ ¬Good fds toc i ∧
      ∀ j i, j < n → (entries sit toc)[j]? = some i → Good fds toc i := by
  classical
  by_cases hall : ∀ i ∈ entries sit toc, Good fds toc i
  · exact Or.inl hall
  · right
    have hex : ∃ n : Nat, ∃ i, (entries sit toc)[n]? = some i ∧ ¬Good fds toc i := by
      push Not at hall
      obtain ⟨i, hi, hbad⟩ := hall
      obtain ⟨n, hn⟩ := List.mem_iff_getElem?.mp hi
      exact ⟨n, i, hn, hbad⟩
    obtain ⟨i, hi, hbad⟩ := Nat.find_spec hex
    refine ⟨Nat.find hex, i, hi, hbad, ?_⟩
    intro j i hj hi
    by_contra hbad
    exact Nat.find_min hex hj ⟨i, hi, hbad⟩

theorem expected_eq_sent : expected fds toc = sent fds toc (entries sit toc).length ++ [.send .finalize] := by
  rw [sent, ← length_blocks fds toc, List.take_length, expected_eq]

theorem loadStages_idle (hidle : ∀ i ∈ is, ∀ dlc, ctrl[i]? = some dlc → acts dlc = [])
    (h : loadStages (loadStage answers) ctrl is made = some (made', ret)) : made' = made := by
  induction is with
  | nil =>
    cases h
    rfl
  | cons i is ih =>
    rcases hdlc : ctrl[i]? with _ | dlc
    · simp [loadStages, hdlc] at h
    · rw [loadStages_cons hdlc, hidle i List.mem_cons_self dlc hdlc] at h
      exact ih (fun i hi => hidle i (List.mem_cons_of_mem _ hi)) h

section
variable (hbuild : buildStdDloadControl sit fds toc = some ctrl) (h : Built sit fds toc ctrl)
  (hscan : (scanned sit toc).length < maxDloadStage)
include hbuild h hscan

theorem load_sent (hn : n ≤ (entries sit toc).length) (hroom : BootScanned sit toc ∨ n < (entries sit toc).length)
    (hgood : ∀ j i, j < n → (entries sit toc)[j]? = some i → Good fds toc i) :
    stdBootLoadCpImages sit (loadStage allOk) fds toc =
      loadStages (loadStage allOk) ctrl (range' (n + 1) (numStages sit toc - n)) (sent fds toc n) := by
  have hle : (entries sit toc).length ≤ (scanned sit toc).length := length_entries_le
  have hle' : (scanned sit toc).length ≤ numStages sit toc := length_scanned_le
  have hcnt : ((blocks fds toc).take n).length = n := by
    rw [length_take, length_blocks]
    omega
  have hcalls := h.rounds hscan hroom (fun j i hj hi => (hgood j i hj hi).1)
  have hall : perform allOk [] ((blocks fds toc).take n).flatten = (sent fds toc n, 0) := perform_fits (sent_fits hgood)
  rw [load_rounds hbuild (by omega) hcalls, hall, if_neg (Int.lt_irrefl 0), hcnt]

theorem not_finalize_early (hload : stdBootLoadCpImages sit (loadStage allOk) fds toc = some (made, ret))
    (hshake : Handshake allOk (expected fds toc) made ret) (hboot : ¬BootScanned sit toc)
    (hi : (entries sit toc)[n]? = some i) (hgood : ∀ j i, j < n → (entries sit toc)[j]? = some i → Good fds toc i) :
    n + 1 ≠ (entries sit toc).length := by
  intro hlast
  have hle : (entries sit toc).length ≤ (scanned sit toc).length := length_entries_le
  have hle' : (scanned sit toc).length ≤ numStages sit toc := length_scanned_le
  obtain ⟨k, hk⟩ : ∃ k, numStages sit toc - n = k + 1 := ⟨numStages sit toc - n - 1, by omega⟩
  rw [load_sent hbuild h hscan (by omega) (Or.inr (by omega)) hgood, hk, List.range'_succ] at hload
  obtain ⟨rest, hacts⟩ : ∃ rest, acts { record sit fds toc (n + 1) i with stage := finStage, start := true } =
      .send .finalize :: rest := acts_of_start rfl
  have hfin := loadStages_first (h.overwritten hboot n i hi hlast) hacts hload
  have hnext := (prefix_append _ _).trans (handshake_next hshake hgood hi)
  cases eq_of_first hfin hnext

theorem sendable_of_handshake (hload : stdBootLoadCpImages sit (loadStage allOk) fds toc = some (made, ret))
    (hshake : Handshake allOk (expected fds toc) made ret)
    (hroom : BootScanned sit toc ∨ n + 1 < (entries sit toc).length)
    (hi : (entries sit toc)[n]? = some i) (hgood : ∀ j i, j < n → (entries sit toc)[j]? = some i → Good fds toc i) :
    Sendable fds toc i := by
  by_contra hnot
  have hn : n < (entries sit toc).length := (List.getElem?_eq_some_iff.mp hi).1
  have hle : (entries sit toc).length ≤ (scanned sit toc).length := length_entries_le
  have hle' : (scanned sit toc).length ≤ numStages sit toc := length_scanned_le
  have hlt : n + 1 < maxDloadStage := by
    rcases hroom with hboot | hlt
    · have := length_scanned hboot
      omega
    · omega
  obtain ⟨k, hk⟩ : ∃ k, numStages sit toc - n = k + 1 := ⟨numStages sit toc - n - 1, by omega⟩
  rw [load_sent hbuild h hscan hn.le (Or.inr hn) hgood, hk, List.range'_succ,
    loadStages_cons (h.entry n i hi hroom), acts_of_not_sendable hlt (mem_of_getElem? hi) hnot,
    perform_send] at hload
  have hpos : ∀ k' ∈ range' (n + 1 + 1) k, 1 ≤ k' := by
    intro k' hk'
    have := (List.mem_range'_1.mp hk').1
    omega
  exact loadStages_not_cache (fun _ _ => h.opens) hpos hload _ _ _ _ (handshake_next hshake hgood hi)

theorem numStages_lt_of_load (hboot : BootScanned sit toc) (hgood : ∀ i ∈ entries sit toc, Good fds toc i)
    (hload : stdBootLoadCpImages sit (loadStage allOk) fds toc = some (made, ret)) :
    numStages sit toc < maxDloadStage := by
  by_contra hnot
  have hcalls := h.allRounds hscan hboot (fun i hi => (hgood i hi).1)
    (show (scanned sit toc).length + (maxDloadStage - 1 - (scanned sit toc).length) < maxDloadStage by omega)
  have hcnt : (allCalls fds toc (maxDloadStage - 1 - (scanned sit toc).length)).length = maxDloadStage - 1 := by
    rw [length_allCalls hboot]
    omega
  have hfits : ∀ a ∈ expected fds toc, a.Fits := by
    rw [expected_eq_sent]
    intro a ha
    rcases List.mem_append.mp ha with ha | ha
    · exact sent_fits (fun j i _ hi => hgood i (mem_of_getElem? hi)) a ha
    · cases List.mem_singleton.mp ha
      trivial
  obtain ⟨k, hk⟩ : ∃ k, numStages sit toc - (maxDloadStage - 1) = k + 1 := ⟨numStages sit toc - maxDloadStage, by omega⟩
  have hnone : ctrl[maxDloadStage - 1 + 1]? = none := List.getElem?_eq_none (by rw [h.length]; decide)
  rw [load_rounds hbuild (by omega) hcalls, flatten_allCalls, hcnt, perform_fits hfits, if_neg (Int.lt_irrefl 0), hk,
    List.range'_succ] at hload
  simp [loadStages, hnone] at hload

theorem bootScanned_of_handshake (hload : stdBootLoadCpImages sit (loadStage allOk) fds toc = some (made, ret))
    (hshake : Handshake allOk (expected fds toc) made ret) (hgood : ∀ i ∈ entries sit toc, Good fds toc i) :
    BootScanned sit toc := by
  by_contra hboot
  have hsame := entries_eq_scanned hboot
  rcases Nat.eq_zero_or_pos (entries sit toc).length with hzero | hpos
  · have hidle : ∀ k ∈ range' 1 (numStages sit toc), ∀ dlc, ctrl[k]? = some dlc → acts dlc = [] := by
      intro k hk dlc hdlc
      have hk' : 1 ≤ k := (List.mem_range'_1.mp hk).1
      have hlt : k < maxDloadStage := h.length ▸ (List.getElem?_eq_some_iff.mp hdlc).1
      rw [h.rest k (by rw [← hsame, hzero]; omega) hk' hlt] at hdlc
      cases hdlc
      rfl
    rw [load_eq hbuild] at hload
    have hnothing : made = [] := loadStages_idle hidle hload
    have hexp : expected fds toc = [.send .finalize] := by
      rw [expected_eq_sent, hzero]
      rfl
    have hmade : made = (perform allOk [] (expected fds toc)).1 := hshake.unique (handshake_perform _)
    rw [hexp, perform_send, hnothing] at hmade
    cases hmade
  · have hlt : (entries sit toc).length - 1 < (entries sit toc).length := by omega
    refine not_finalize_early hbuild h hscan hload hshake hboot (List.getElem?_eq_getElem hlt) ?_ (by omega)
    intro j i _ hi
    exact hgood i (mem_of_getElem? hi)

end

theorem inOrder_of_handshake (hload : stdBootLoadCpImages sit (loadStage allOk) fds toc = some (made, ret))
    (hshake : Handshake allOk (expected fds toc) made ret) : InOrder fds toc := by
  by_cases hscan : (scanned sit toc).length < maxDloadStage
  · obtain ⟨ctrl, hbuild, h⟩ := buildStdDloadControl_fits fds hscan
    refine ⟨hscan, ?_⟩
    rcases all_good_or_first fds toc with hgood | ⟨n, i, hi, hbad, hgood⟩
    · left
      have hboot := bootScanned_of_handshake hbuild h hscan hload hshake hgood
      exact ⟨numStages_lt_of_load hbuild h hscan hboot hgood hload, hboot, fun i hi => (hgood i hi).1⟩
    · right
      have hn : n < (entries sit toc).length := (List.getElem?_eq_some_iff.mp hi).1
      have hroom : BootScanned sit toc ∨ n + 1 < (entries sit toc).length := by
        by_cases hboot : BootScanned sit toc
        · exact Or.inl hboot
        · have hlast := not_finalize_early hbuild h hscan hload hshake hboot hi hgood
          exact Or.inr (by omega)
      have hsend := sendable_of_handshake hbuild h hscan hload hshake hroom hi hgood
      refine ⟨n, i, hi, not_not.mp fun hfits => hbad ⟨hsend, hfits⟩, ?_, hroom⟩
      intro q j hq hj
      rcases Nat.lt_or_eq_of_le hq with hlt | rfl
      · exact (hgood q j hlt hj).1
      · rw [hi] at hj
        cases hj
        exact hsend
  · rw [stdBootLoadCpImages, buildStdDloadControl_overruns (Nat.le_of_not_lt hscan)] at hload
    cases hload

end

/-- Whatever the modem and the files answer, the calls are the expected ones up to the first that fails, just
for the tables that satisfy the condition. -/
theorem load_handshake_iff (fds : Fds) (toc : Toc) :
    (∀ answers, ∃ made ret, stdBootLoadCpImages sit (loadStage answers) fds toc = some (made, ret) ∧
      Handshake answers (expected fds toc) made ret) ↔ InOrder fds toc := by
  constructor
  · intro h
    obtain ⟨made, ret, hload, hshake⟩ := h allOk
    exact inOrder_of_handshake hload hshake
  · rintro ⟨hscan, horder⟩ answers
    obtain ⟨ctrl, hbuild, h⟩ := buildStdDloadControl_fits fds hscan
    have hload : stdBootLoadCpImages sit (loadStage answers) fds toc =
        some (perform answers [] (expected fds toc)) := by
      rcases horder with ⟨hnum, hboot, hsend⟩ | hstops
      · exact load_of_all hbuild h hscan hnum hboot hsend
      · exact load_of_stops hbuild h hscan hstops
    exact ⟨_, _, hload, handshake_perform _⟩

def emptyVssToc : Toc :=
  fun i => [{ name := "TOC", size := 2, tocCount := 5 }, { name := "BOOT", size := 3 }, { name := "MAIN", size := 4 },
    { name := "VSS", size := 0 }, { name := "NV_NORM", size := 1 }].getD i {}

def nvFiles : Files := ⟨3, fun _ => some 4⟩

theorem emptyVss_not_handshake : ∃ fds, stdBootParseTocImg sit nvFiles emptyVssToc = some fds ∧
    emptyVssToc.idx .boot = some 1 ∧
    stdBootLoadCpImages sit (loadStage allOk) fds emptyVssToc = some (
      [.send (.start 1), .cache 1 3 0 2, .send (.data 1 2 0 2), .send (.done 1),
        .send (.start 2), .cache 2 3 0 4, .send (.data 2 4 0 4), .send (.crc 2 0), .send (.done 2),
        .send (.start 3),
        .send (.start 4), .cache 4 4 0 1, .send (.data 4 1 0 1), .send (.done 4), .send .finalize], 0) ∧
    ¬∀ answers, ∃ made ret, stdBootLoadCpImages sit (loadStage answers) fds emptyVssToc = some (made, ret) ∧
      Handshake answers (expected fds emptyVssToc) made ret := by
  refine ⟨_, rfl, by decide, by decide, fun h => ?_⟩
  obtain ⟨made, ret, hload, hshake⟩ := h allOk
  have hsame := congrArg (Option.map Prod.fst) hload
  rw [Option.map_some, hshake.unique (handshake_perform _)] at hsame
  dsimp only at hsame
  revert hsame
  decide

end ExynosHal.CpBoot.Ext
