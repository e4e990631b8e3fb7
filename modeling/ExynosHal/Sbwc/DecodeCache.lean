import ExynosHal.Sbwc.Pairing

/-! # The cache of the last decode

The helper remembers the native handles of the last successful decode and skips a request for the same two
handles.
-/

namespace ExynosHal.Sbwc.DecodeCache
open Library.Run Helper Pairing
open Function (update update_of_ne update_self)

variable {Buffer Handle : Type}

structure World (Buffer Handle : Type) where
  helper : HelperState Buffer Handle
  handle : Buffer → Option Handle
  decoded : List (Buffer × Buffer)

def World.start : World Buffer Handle := ⟨.empty, fun _ => none, []⟩

inductive Event (Buffer Handle : Type) where
  | create (b : Buffer) (native : Handle)
  | destroy (b : Buffer)
  | call (c : Call Buffer) (native : Handle)

variable [DecidableEq Buffer] [DecidableEq Handle]

def successfulDecode (handle : Buffer → Option Handle) (service decodeOk : Bool) (sbwc : Option Buffer)
    (h : HelperState Buffer Handle) : Option (Buffer × Buffer) :=
  match sbwc with
  | none => none
  | some sbwc =>
    match h.sbwcToYuv.lookup sbwc with
    | none => none
    | some yuv =>
      if h.lastSrc = handle yuv ∧ h.lastDst = handle sbwc then none
      else if service && decodeOk then some (yuv, sbwc)
      else none

namespace World

variable (w : World Buffer Handle)

def allocated (native : Handle) : Outcome Buffer → (Buffer → Option Handle) × List (Buffer × Buffer)
  | .registered yuv => (update w.handle yuv (some native), w.decoded.filter fun d => decide (d.1 ≠ yuv))
  | _ => (w.handle, w.decoded)

def decodedBy : Call Buffer → List (Buffer × Buffer)
  | .decompress service decodeOk sbwc => (successfulDecode w.handle service decodeOk sbwc w.helper).toList
  | _ => []

def step : Event Buffer Handle → World Buffer Handle
  | .create b native => { w with handle := update w.handle b (some native) }
  | .destroy b => { w with handle := update w.handle b none }
  | .call c native =>
    match c.run w.handle w.helper with
    | (outcome, helper) =>
      match w.allocated native outcome with
      | (handle, decoded) => ⟨helper, handle, w.decodedBy c ++ decoded⟩

def Registered (b : Buffer) : Prop := ∃ sbwc yuv, w.helper.sbwcToYuv.lookup sbwc = some yuv ∧ (b = sbwc ∨ b = yuv)

def Fresh (b : Buffer) (native : Handle) : Prop := w.handle b = none ∧ ∀ b', w.handle b' ≠ some native

def Possible : Event Buffer Handle → Prop
  | .create b native => w.Fresh b native
  | .destroy b => ¬ w.Registered b
  | .call (.newYuvAHB sbwc _ alloc) native | .call (.newYuvAHBDeprecated sbwc _ alloc) native =>
    (∀ s ∈ sbwc, w.handle s ≠ none) ∧ ∀ yuv ∈ alloc, w.Fresh yuv native
  | .call _ _ => True

def Truthful : Prop := ∀ service decodeOk sbwc, (decompress w.handle service decodeOk sbwc w.helper).1 →
    ∃ s yuv, sbwc = some s ∧ w.helper.sbwcToYuv.lookup s = some yuv ∧
      (yuv, s) ∈ w.decodedBy (.decompress service decodeOk sbwc) ++ w.decoded

def RegistersOther (sbwc : Option Buffer) (isSbwc : Bool) (alloc : Option Buffer) (native : Handle) : Prop :=
  ∀ s ∈ sbwc, isSbwc → w.helper.sbwcToYuv.lookup s = none → alloc ≠ none →
    ¬ (w.helper.lastSrc = some native ∧ w.helper.lastDst = w.handle s)

def NotRemembered : Event Buffer Handle → Prop
  | .call (.newYuvAHB sbwc isSbwc alloc) native | .call (.newYuvAHBDeprecated sbwc isSbwc alloc) native =>
    w.RegistersOther sbwc isSbwc alloc native
  | _ => True

instance [Fintype Buffer] (b : Buffer) (native : Handle) : Decidable (w.Fresh b native) :=
  inferInstanceAs (Decidable (_ ∧ ∀ b', w.handle b' ≠ some native))

instance [Fintype Buffer] (b : Buffer) : Decidable (w.Registered b) :=
  inferInstanceAs (Decidable (∃ sbwc yuv, w.helper.sbwcToYuv.lookup sbwc = some yuv ∧ (b = sbwc ∨ b = yuv)))

instance [Fintype Buffer] : (event : Event Buffer Handle) → Decidable (w.Possible event)
  | .create b native => inferInstanceAs (Decidable (w.Fresh b native))
  | .destroy b => inferInstanceAs (Decidable (¬ w.Registered b))
  | .call (.newYuvAHB sbwc _ alloc) native | .call (.newYuvAHBDeprecated sbwc _ alloc) native =>
    inferInstanceAs (Decidable ((∀ s ∈ sbwc, w.handle s ≠ none) ∧ ∀ yuv ∈ alloc, w.Fresh yuv native))
  | .call (.freeYuvAHB _) _ | .call (.freeYuvAHBDeprecated _) _ | .call (.decompress _ _ _) _ => isTrue trivial

end World

section
variable {h : HelperState Buffer Handle}

omit [DecidableEq Handle] in
theorem newYuv_cases (sbwc : Option Buffer) (isSbwc : Bool) (alloc : Option Buffer) (h : HelperState Buffer Handle) :
    (newYuv sbwc isSbwc alloc h).2.lastSrc = h.lastSrc ∧ (newYuv sbwc isSbwc alloc h).2.lastDst = h.lastDst ∧
      ((∃ s yuv, sbwc = some s ∧ isSbwc ∧ h.sbwcToYuv.lookup s = none ∧ alloc = some yuv ∧
          (newYuv sbwc isSbwc alloc h).1 = .registered yuv ∧
          (newYuv sbwc isSbwc alloc h).2.sbwcToYuv = h.sbwcToYuv.insert s yuv) ∨
        ((∀ yuv, (newYuv sbwc isSbwc alloc h).1 ≠ .registered yuv) ∧
          (newYuv sbwc isSbwc alloc h).2.sbwcToYuv = h.sbwcToYuv ∧
          ∀ s, sbwc = some s → isSbwc → h.sbwcToYuv.lookup s = none → alloc = none)) := by
  have haddRef (yuv : Buffer) (change : Int) : (h.addRef yuv change).sbwcToYuv = h.sbwcToYuv ∧
      (h.addRef yuv change).lastSrc = h.lastSrc ∧ (h.addRef yuv change).lastDst = h.lastDst := by
    rw [HelperState.addRef]
    split <;> exact ⟨rfl, rfl, rfl⟩
  have hfailed (yuv : Buffer) : Outcome.failed ≠ .registered yuv := by simp
  have hshared (y yuv : Buffer) : Outcome.shared y ≠ .registered yuv := by simp
  cases sbwc with
  | none =>
    refine ⟨rfl, rfl, .inr ⟨hfailed, rfl, ?_⟩⟩
    intro s heq
    cases heq
  | some s =>
    cases isSbwc with
    | false =>
      refine ⟨rfl, rfl, .inr ⟨hfailed, rfl, ?_⟩⟩
      intro s _ heq
      cases heq
    | true =>
      simp only [newYuv, Bool.not_true, Bool.false_eq_true, if_false]
      cases hlookup : h.sbwcToYuv.lookup s with
      | some yuv =>
        obtain ⟨hpairs, hsrc, hdst⟩ := haddRef yuv 1
        refine ⟨hsrc, hdst, .inr ⟨hshared yuv, hpairs, ?_⟩⟩
        intro s' heq _ hnone
        cases heq
        rw [hlookup] at hnone
        cases hnone
      | none =>
        cases alloc with
        | none => exact ⟨rfl, rfl, .inr ⟨hfailed, rfl, fun _ _ _ _ => rfl⟩⟩
        | some yuv =>
          refine ⟨rfl, rfl, .inl ⟨s, yuv, rfl, trivial, hlookup, rfl, rfl, ?_⟩⟩
          exact insertNew_of_notMem (AList.lookup_eq_none.mp hlookup)

omit [DecidableEq Handle] in
theorem freeYuv_cases (yuv : Option Buffer) (h : HelperState Buffer Handle) : (∀ y, (freeYuv yuv h).1 ≠ .registered y) ∧
      (∀ s y, (freeYuv yuv h).2.sbwcToYuv.lookup s = some y → h.sbwcToYuv.lookup s = some y) ∧
      (((freeYuv yuv h).2.lastSrc = h.lastSrc ∧ (freeYuv yuv h).2.lastDst = h.lastDst) ∨
        (freeYuv yuv h).2.lastSrc = none) := by
  have hsame : ∀ s y, h.sbwcToYuv.lookup s = some y → h.sbwcToYuv.lookup s = some y := fun _ _ heq => heq
  have herase (sbwc : Buffer) : ∀ s y, (h.sbwcToYuv.erase sbwc).lookup s = some y → h.sbwcToYuv.lookup s = some y := by
    intro s y heq
    by_cases hs : s = sbwc
    · subst hs
      rw [AList.lookup_erase] at heq
      cases heq
    · rwa [AList.lookup_erase_ne hs] at heq
  have hfailed (y : Buffer) : Outcome.failed ≠ .registered y := by simp
  have hfreed (b y : Buffer) : Outcome.freed b ≠ .registered y := by simp
  have hdeleted (b y : Buffer) : Outcome.deleted b ≠ .registered y := by simp
  rw [freeYuv.eq_def]
  split
  · exact ⟨hfailed, hsame, .inl ⟨rfl, rfl⟩⟩
  · split
    · exact ⟨hfailed, hsame, .inl ⟨rfl, rfl⟩⟩
    · rename_i sbwc _
      split
      · exact ⟨hfailed, hsame, .inl ⟨rfl, rfl⟩⟩
      · split
        · exact ⟨hfailed, hsame, .inl ⟨rfl, rfl⟩⟩
        · split
          · refine ⟨hfreed _, ?_, ?_⟩
            · rw [HelperState.addRef]
              split <;> exact hsame
            · rw [HelperState.addRef]
              split <;> exact .inl ⟨rfl, rfl⟩
          · dsimp only
            split
            · exact ⟨hdeleted _, herase sbwc, .inr rfl⟩
            · exact ⟨hdeleted _, herase sbwc, .inl ⟨rfl, rfl⟩⟩

theorem decompress_pairs (handle : Buffer → Option Handle) (service decodeOk : Bool) (sbwc : Option Buffer)
    (h : HelperState Buffer Handle) : (decompress handle service decodeOk sbwc h).2.sbwcToYuv = h.sbwcToYuv := by
  rw [decompress.eq_def]
  split
  · rfl
  · split
    · rfl
    · rw [requestDecompress]
      split
      · rfl
      · split
        · rfl
        · split <;> rfl

theorem decompress_cache (handle : Buffer → Option Handle) (service decodeOk : Bool) (sbwc : Option Buffer)
    (h : HelperState Buffer Handle) :
    (∃ s yuv, successfulDecode handle service decodeOk sbwc h = some (yuv, s) ∧ h.sbwcToYuv.lookup s = some yuv ∧
        (decompress handle service decodeOk sbwc h).2.lastSrc = handle yuv ∧
        (decompress handle service decodeOk sbwc h).2.lastDst = handle s) ∨
      (decompress handle service decodeOk sbwc h).2.lastSrc = none ∨
      (decompress handle service decodeOk sbwc h).2 = h := by
  cases sbwc with
  | none => exact .inr (.inr rfl)
  | some s =>
    simp only [decompress, successfulDecode]
    cases hlookup : h.sbwcToYuv.lookup s with
    | none => exact .inr (.inr rfl)
    | some yuv =>
      dsimp only
      rw [requestDecompress]
      split
      · exact .inr (.inr rfl)
      · cases service with
        | false => exact .inr (.inr rfl)
        | true =>
          cases decodeOk with
          | false => exact .inr (.inl rfl)
          | true => exact .inl ⟨s, yuv, rfl, hlookup, rfl, rfl⟩

end

structure Sound (w : World Buffer Handle) : Prop where
  sbwc_live : ∀ s yuv, w.helper.sbwcToYuv.lookup s = some yuv → w.handle s ≠ none
  yuv_live : ∀ s yuv, w.helper.sbwcToYuv.lookup s = some yuv → w.handle yuv ≠ none
  unique : ∀ b b' native, w.handle b = some native → w.handle b' = some native → b = b'

def CacheTrue (w : World Buffer Handle) : Prop :=
  ∀ s yuv, w.helper.sbwcToYuv.lookup s = some yuv → w.helper.lastSrc = w.handle yuv →
    w.helper.lastDst = w.handle s → (yuv, s) ∈ w.decoded

section
variable {w : World Buffer Handle}

theorem truthful_iff_cacheTrue : w.Truthful ↔ CacheTrue w := by
  constructor
  · intro h s yuv hpair hsrc hdst
    have hreturns : (decompress w.handle false false (some s) w.helper).1 := by
      simp [decompress, hpair, requestDecompress, hsrc, hdst]
    obtain ⟨s', yuv', hs, hpair', hmem⟩ := h false false (some s) hreturns
    cases hs
    rw [hpair] at hpair'
    cases hpair'
    simpa [World.decodedBy, successfulDecode, hpair, hsrc, hdst] using hmem
  · intro h service decodeOk sbwc hreturns
    cases sbwc with
    | none => cases hreturns
    | some s =>
      simp only [decompress] at hreturns
      cases hpair : w.helper.sbwcToYuv.lookup s with
      | none =>
        rw [hpair] at hreturns
        cases hreturns
      | some yuv =>
        refine ⟨s, yuv, rfl, hpair, ?_⟩
        rw [hpair] at hreturns
        dsimp only at hreturns
        rw [requestDecompress] at hreturns
        by_cases hcache : w.helper.lastSrc = w.handle yuv ∧ w.helper.lastDst = w.handle s
        · exact List.mem_append_right _ (h s yuv hpair hcache.1 hcache.2)
        · rw [if_neg hcache] at hreturns
          cases service with
          | false => cases hreturns
          | true =>
            cases decodeOk with
            | false => cases hreturns
            | true => simp [World.decodedBy, successfulDecode, hpair, hcache]

omit [DecidableEq Handle] in
theorem Sound.fewer_pairs (h : Sound w) {w' : World Buffer Handle}
    (hpairs : ∀ s yuv, w'.helper.sbwcToYuv.lookup s = some yuv → w.helper.sbwcToYuv.lookup s = some yuv)
    (hhnd : w'.handle = w.handle) : Sound w' where
  sbwc_live s yuv hpair := by
    rw [hhnd]
    exact h.sbwc_live s yuv (hpairs s yuv hpair)
  yuv_live s yuv hpair := by
    rw [hhnd]
    exact h.yuv_live s yuv (hpairs s yuv hpair)
  unique b b' native hb hb' := by
    rw [hhnd] at hb hb'
    exact h.unique b b' native hb hb'

variable {b : Buffer} {native : Handle}

omit [DecidableEq Handle] in
theorem unique_update (hunique : ∀ b b' native, w.handle b = some native → w.handle b' = some native → b = b')
    (hfresh : w.Fresh b native) (c c' : Buffer) (n : Handle)
    (hc : update w.handle b (some native) c = some n)
    (hc' : update w.handle b (some native) c' = some n) : c = c' := by
  by_cases hcb : c = b
  · by_cases hcb' : c' = b
    · rw [hcb, hcb']
    · rw [hcb, update_self] at hc
      rw [update_of_ne hcb', ← hc] at hc'
      exact absurd hc' (hfresh.2 c')
  · by_cases hcb' : c' = b
    · rw [hcb', update_self] at hc'
      rw [update_of_ne hcb, ← hc'] at hc
      exact absurd hc (hfresh.2 c)
    · rw [update_of_ne hcb] at hc
      rw [update_of_ne hcb'] at hc'
      exact hunique c c' n hc hc'

omit [DecidableEq Handle] in
theorem handle_of_live {b c : Buffer} {o : Option Handle} (hb : w.handle b = none) (hc : w.handle c ≠ none) :
    update w.handle b o c = w.handle c := by
  refine update_of_ne ?_ _ _
  rintro rfl
  exact hc hb

theorem Sound.create (h : Sound w) (hfresh : w.Fresh b native) : Sound (w.step (.create b native)) where
  sbwc_live s yuv hpair := by
    have hlive := h.sbwc_live s yuv hpair
    simp only [World.step]
    rwa [handle_of_live hfresh.1 hlive]
  yuv_live s yuv hpair := by
    have hlive := h.yuv_live s yuv hpair
    simp only [World.step]
    rwa [handle_of_live hfresh.1 hlive]
  unique := unique_update h.unique hfresh

omit [DecidableEq Handle] in
theorem handle_of_registered (hfree : ¬ w.Registered b) {s yuv : Buffer}
    (hpair : w.helper.sbwcToYuv.lookup s = some yuv) (o : Option Handle) :
    update w.handle b o s = w.handle s ∧ update w.handle b o yuv = w.handle yuv := by
  constructor
  · exact update_of_ne (fun heq => hfree ⟨s, yuv, hpair, .inl heq.symm⟩) _ _
  · exact update_of_ne (fun heq => hfree ⟨s, yuv, hpair, .inr heq.symm⟩) _ _

theorem Sound.destroy (h : Sound w) (hfree : ¬ w.Registered b) : Sound (w.step (.destroy b)) := by
  constructor
  · intro s yuv hpair
    simp only [World.step]
    rw [(handle_of_registered hfree hpair none).1]
    exact h.sbwc_live s yuv hpair
  · intro s yuv hpair
    simp only [World.step]
    rw [(handle_of_registered hfree hpair none).2]
    exact h.yuv_live s yuv hpair
  · intro c c' n hc hc'
    simp only [World.step, Function.update_apply] at hc hc'
    split at hc
    · cases hc
    · split at hc'
      · cases hc'
      · exact h.unique c c' n hc hc'

theorem CacheTrue.create (h : CacheTrue w) (hsound : Sound w) (hfresh : w.Fresh b native) :
    CacheTrue (w.step (.create b native)) := by
  intro s yuv hpair hsrc hdst
  simp only [World.step] at hpair hsrc hdst ⊢
  rw [handle_of_live hfresh.1 (hsound.yuv_live s yuv hpair)] at hsrc
  rw [handle_of_live hfresh.1 (hsound.sbwc_live s yuv hpair)] at hdst
  exact h s yuv hpair hsrc hdst

theorem CacheTrue.destroy (h : CacheTrue w) (hfree : ¬ w.Registered b) : CacheTrue (w.step (.destroy b)) := by
  intro s yuv hpair hsrc hdst
  simp only [World.step] at hpair hsrc hdst ⊢
  rw [(handle_of_registered hfree hpair none).2] at hsrc
  rw [(handle_of_registered hfree hpair none).1] at hdst
  exact h s yuv hpair hsrc hdst

variable {c : Call Buffer}

theorem step_call (houtcome : ∀ yuv, (c.run w.handle w.helper).1 ≠ .registered yuv) :
    w.step (.call c native) = ⟨(c.run w.handle w.helper).2, w.handle, w.decodedBy c ++ w.decoded⟩ := by
  have halloc : w.allocated native (c.run w.handle w.helper).1 = (w.handle, w.decoded) := by
    cases hcase : (c.run w.handle w.helper).1 with
    | registered yuv => exact absurd hcase (houtcome yuv)
    | _ => rfl
  simp only [World.step]
  rw [halloc]

variable {helper : HelperState Buffer Handle}

omit [DecidableEq Handle] in
theorem CacheTrue.fewer_pairs (h : CacheTrue w) (hsound : Sound w)
    {decoded : List (Buffer × Buffer)}
    (hpairs : ∀ s yuv, helper.sbwcToYuv.lookup s = some yuv → w.helper.sbwcToYuv.lookup s = some yuv)
    (hcache : (helper.lastSrc = w.helper.lastSrc ∧ helper.lastDst = w.helper.lastDst) ∨ helper.lastSrc = none) :
    CacheTrue (⟨helper, w.handle, decoded ++ w.decoded⟩ : World Buffer Handle) := by
  intro s yuv hpair hsrc hdst
  dsimp only at hpair hsrc hdst ⊢
  have hpair' := hpairs s yuv hpair
  rcases hcache with ⟨hsame, hsame'⟩ | hnone
  · rw [hsame] at hsrc
    rw [hsame'] at hdst
    exact List.mem_append_right _ (h s yuv hpair' hsrc hdst)
  · rw [hnone] at hsrc
    exact absurd hsrc.symm (hsound.yuv_live s yuv hpair')

theorem freeYuv_keeps {yuv : Option Buffer} (hrun : c.run w.handle w.helper = freeYuv yuv w.helper)
    (hsound : Sound w) (native : Handle) :
    Sound (w.step (.call c native)) ∧ (CacheTrue w → CacheTrue (w.step (.call c native))) := by
  obtain ⟨houtcome, hpairs, hcache⟩ := freeYuv_cases yuv w.helper
  rw [← hrun] at houtcome hpairs hcache
  rw [step_call houtcome]
  exact ⟨hsound.fewer_pairs hpairs rfl, fun h => h.fewer_pairs hsound hpairs hcache⟩

theorem decompress_keeps (service decodeOk : Bool) (sbwc : Option Buffer) (hsound : Sound w) (native : Handle) :
    Sound (w.step (.call (.decompress service decodeOk sbwc) native)) ∧
      (CacheTrue w → CacheTrue (w.step (.call (.decompress service decodeOk sbwc) native))) := by
  have houtcome (yuv : Buffer) : Outcome.decompressed ≠ .registered yuv := by simp
  have hpairs := decompress_pairs w.handle service decodeOk sbwc w.helper
  have hfewer : ∀ s yuv, (decompress w.handle service decodeOk sbwc w.helper).2.sbwcToYuv.lookup s = some yuv →
      w.helper.sbwcToYuv.lookup s = some yuv := by
    intro s yuv hpair
    rwa [hpairs] at hpair
  rw [step_call houtcome]
  refine ⟨hsound.fewer_pairs hfewer rfl, fun h => ?_⟩
  rcases decompress_cache w.handle service decodeOk sbwc w.helper with ⟨s, yuv, hdecode, hpair, hsrc,
    hdst⟩ | hnone | hsame
  · intro s' yuv' hpair' hsrc' hdst'
    simp only [Call.run] at hpair' hsrc' hdst' ⊢
    have hyuv := hsound.yuv_live s yuv hpair
    have hlive := hsound.sbwc_live s yuv hpair
    -- only the decoded pair has these handles
    obtain ⟨n, hn⟩ := Option.ne_none_iff_exists'.mp hyuv
    obtain ⟨m, hm⟩ := Option.ne_none_iff_exists'.mp hlive
    have heq : yuv' = yuv := hsound.unique yuv' yuv n (by rw [← hsrc', hsrc, hn]) hn
    have heq' : s' = s := hsound.unique s' s m (by rw [← hdst', hdst, hm]) hm
    rw [heq, heq', World.decodedBy, hdecode]
    exact List.mem_cons_self
  · exact h.fewer_pairs hsound hfewer (.inr hnone)
  · refine h.fewer_pairs hsound hfewer (.inl ?_)
    simp only [Call.run]
    rw [hsame]
    exact ⟨rfl, rfl⟩

omit [DecidableEq Handle] in
theorem lookup_registered {s yuv : Buffer}
    (hpairs : helper.sbwcToYuv = w.helper.sbwcToYuv.insert s yuv) {s' yuv' : Buffer}
    (hpair : helper.sbwcToYuv.lookup s' = some yuv') :
    (s' = s ∧ yuv' = yuv) ∨ w.helper.sbwcToYuv.lookup s' = some yuv' := by
  rw [hpairs] at hpair
  by_cases hs : s' = s
  · rw [hs, AList.lookup_insert] at hpair
    cases hpair
    exact .inl ⟨hs, rfl⟩
  · rw [AList.lookup_insert_ne hs] at hpair
    exact .inr hpair

section
variable {helper : HelperState Buffer Handle} {s yuv : Buffer} {native : Handle}

omit [DecidableEq Handle] in
theorem Sound.register (h : Sound w) (hlive : w.handle s ≠ none) (hfresh : w.Fresh yuv native)
    (hpairs : helper.sbwcToYuv = w.helper.sbwcToYuv.insert s yuv) (decoded : List (Buffer × Buffer)) :
    Sound (⟨helper, update w.handle yuv (some native), decoded⟩ : World Buffer Handle) := by
  constructor
  · intro s' yuv' hpair
    dsimp only
    rcases lookup_registered hpairs hpair with ⟨rfl, rfl⟩ | hold
    · rwa [handle_of_live hfresh.1 hlive]
    · have hs := h.sbwc_live s' yuv' hold
      rwa [handle_of_live hfresh.1 hs]
  · intro s' yuv' hpair
    dsimp only
    rcases lookup_registered hpairs hpair with ⟨rfl, rfl⟩ | hold
    · rw [update_self]
      exact Option.some_ne_none native
    · have hyuv := h.yuv_live s' yuv' hold
      rwa [handle_of_live hfresh.1 hyuv]
  · exact unique_update h.unique hfresh

omit [DecidableEq Handle] in
theorem CacheTrue.register_iff (h : CacheTrue w) (hsound : Sound w) (hlive : w.handle s ≠ none)
    (hfresh : w.Fresh yuv native)
    (hpairs : helper.sbwcToYuv = w.helper.sbwcToYuv.insert s yuv) (hsrc : helper.lastSrc = w.helper.lastSrc)
    (hdst : helper.lastDst = w.helper.lastDst) :
    CacheTrue (⟨helper, update w.handle yuv (some native), w.decoded.filter fun d => decide (d.1 ≠ yuv)⟩ :
        World Buffer Handle) ↔ ¬ (w.helper.lastSrc = some native ∧ w.helper.lastDst = w.handle s) := by
  have hs : update w.handle yuv (some native) s = w.handle s := handle_of_live hfresh.1 hlive
  constructor
  · rintro htrue ⟨hsrc', hdst'⟩
    have hpair : helper.sbwcToYuv.lookup s = some yuv := by rw [hpairs, AList.lookup_insert]
    have hsrc'' : helper.lastSrc = update w.handle yuv (some native) yuv := by
      rw [hsrc, hsrc', update_self]
    have hdst'' : helper.lastDst = update w.handle yuv (some native) s := by rw [hdst, hdst', hs]
    have hmem := htrue s yuv hpair hsrc'' hdst''
    simp at hmem
  · intro hother s' yuv' hpair hsrc' hdst'
    dsimp only at hpair hsrc' hdst' ⊢
    rw [hsrc] at hsrc'
    rw [hdst] at hdst'
    rcases lookup_registered hpairs hpair with ⟨rfl, rfl⟩ | hold
    · rw [update_self] at hsrc'
      rw [hs] at hdst'
      exact absurd ⟨hsrc', hdst'⟩ hother
    · have hyuv := hsound.yuv_live s' yuv' hold
      rw [handle_of_live hfresh.1 hyuv] at hsrc'
      rw [handle_of_live hfresh.1 (hsound.sbwc_live s' yuv' hold)] at hdst'
      have hne : yuv' ≠ yuv := by
        rintro rfl
        exact hyuv hfresh.1
      exact List.mem_filter.mpr ⟨h s' yuv' hold hsrc' hdst', decide_eq_true hne⟩

end

theorem newYuv_keeps {sbwc : Option Buffer} {isSbwc : Bool} {alloc : Option Buffer}
    (hrun : c.run w.handle w.helper = newYuv sbwc isSbwc alloc w.helper) (hdecoded : w.decodedBy c = [])
    (hlive : ∀ s ∈ sbwc, w.handle s ≠ none) (hfresh : ∀ yuv ∈ alloc, w.Fresh yuv native) (hsound : Sound w) :
    Sound (w.step (.call c native)) ∧
      (CacheTrue w → (CacheTrue (w.step (.call c native)) ↔ w.RegistersOther sbwc isSbwc alloc native)) := by
  obtain ⟨hsrc, hdst, hcases⟩ := newYuv_cases sbwc isSbwc alloc w.helper
  rw [← hrun] at hsrc hdst hcases
  rcases hcases with ⟨s, yuv, rfl, rfl, hnone, rfl, houtcome, hpairs⟩ | ⟨houtcome, hpairs, hnothing⟩
  · have hs := hlive s rfl
    have hyuv := hfresh yuv rfl
    have hstep : w.step (.call c native) = ⟨(c.run w.handle w.helper).2, update w.handle yuv (some native),
        w.decoded.filter fun d => decide (d.1 ≠ yuv)⟩ := by
      simp only [World.step]
      rw [houtcome, hdecoded]
      rfl
    have hcond : w.RegistersOther (some s) true (some yuv) native ↔
        ¬ (w.helper.lastSrc = some native ∧ w.helper.lastDst = w.handle s) := by
      simp [World.RegistersOther, hnone]
    rw [hstep, hcond]
    exact ⟨hsound.register hs hyuv hpairs _, fun h => h.register_iff hsound hs hyuv hpairs hsrc hdst⟩
  · have hfewer : ∀ s yuv, (c.run w.handle w.helper).2.sbwcToYuv.lookup s = some yuv →
        w.helper.sbwcToYuv.lookup s = some yuv := by
      intro s yuv hpair
      rwa [hpairs] at hpair
    rw [step_call houtcome]
    refine ⟨hsound.fewer_pairs hfewer rfl, fun h => iff_of_true (h.fewer_pairs hsound hfewer (.inl ⟨hsrc, hdst⟩)) ?_⟩
    intro s hs hfmt hnone halloc
    exact absurd (hnothing s hs hfmt hnone) halloc

theorem step_keeps {event : Event Buffer Handle} (hsound : Sound w) (hpossible : w.Possible event) :
    Sound (w.step event) ∧ (CacheTrue w → (CacheTrue (w.step event) ↔ w.NotRemembered event)) := by
  cases event with
  | create b native =>
    exact ⟨hsound.create hpossible, fun h => iff_of_true (h.create hsound hpossible) trivial⟩
  | destroy b =>
    exact ⟨hsound.destroy hpossible, fun h => iff_of_true (h.destroy hpossible) trivial⟩
  | call c native =>
    cases c with
    | newYuvAHB sbwc isSbwc alloc => exact newYuv_keeps rfl rfl hpossible.1 hpossible.2 hsound
    | newYuvAHBDeprecated sbwc isSbwc alloc => exact newYuv_keeps rfl rfl hpossible.1 hpossible.2 hsound
    | freeYuvAHB yuv =>
      have hrun : Call.run w.handle w.helper (.freeYuvAHB yuv) = freeYuv yuv.join w.helper := by
        rw [Call.run, freeYuvAHB_state]
      obtain ⟨hnext, hkeeps⟩ := freeYuv_keeps hrun hsound native
      exact ⟨hnext, fun h => iff_of_true (hkeeps h) trivial⟩
    | freeYuvAHBDeprecated yuv =>
      obtain ⟨hnext, hkeeps⟩ := freeYuv_keeps (c := .freeYuvAHBDeprecated yuv) rfl hsound native
      exact ⟨hnext, fun h => iff_of_true (hkeeps h) trivial⟩
    | decompress service decodeOk sbwc =>
      obtain ⟨hnext, hkeeps⟩ := decompress_keeps service decodeOk sbwc hsound native
      exact ⟨hnext, fun h => iff_of_true (hkeeps h) trivial⟩

end

omit [DecidableEq Handle] in
theorem sound_start : Sound (World.start : World Buffer Handle) where
  sbwc_live s yuv hpair := by simp [World.start, HelperState.empty] at hpair
  yuv_live s yuv hpair := by simp [World.start, HelperState.empty] at hpair
  unique b b' native hb := by cases hb

omit [DecidableEq Handle] in
theorem cacheTrue_start : CacheTrue (World.start : World Buffer Handle) := by
  intro s yuv hpair
  simp [World.start, HelperState.empty] at hpair

/-- No decode is skipped that is needed, as long as no new pair has the two handles remembered. -/
theorem truthful_run_iff (events : List (Event Buffer Handle))
    (hpossible : EachStep World.step World.Possible World.start events) :
    Throughout World.step World.Truthful World.start events ↔
      EachStep World.step World.NotRemembered World.start events := by
  have htruthful : (World.Truthful : World Buffer Handle → Prop) = CacheTrue :=
    funext fun w => propext truthful_iff_cacheTrue
  rw [htruthful]
  exact throughout_iff_of_invariant (fun w event hsound hevent => (step_keeps hsound hevent).1)
    (fun w event hsound hevent htrue => (step_keeps hsound hevent).2 htrue) sound_start hpossible cacheTrue_start

def pairedAgain (native : Fin 5) : List (Event (Fin 5) (Fin 5)) :=
  [.create 0 0, .create 1 1, .call (.newYuvAHB (some 0) true (some 2)) 2, .call (.decompress true true (some 0)) 0,
    .call (.newYuvAHB (some 1) true (some 3)) 3, .call (.freeYuvAHB (some (some 2))) 0, .destroy 2,
    .call (.newYuvAHB (some 0) true (some 4)) native]

theorem truthful_run_iff_newHandle : Throughout World.step World.Truthful World.start (pairedAgain 4) ↔
      EachStep World.step World.NotRemembered World.start (pairedAgain 4) :=
  truthful_run_iff (pairedAgain 4) (by decide)

theorem handle_reused_skips : EachStep World.step World.Possible World.start (pairedAgain 2) ∧
      ¬ Throughout World.step World.Truthful World.start (pairedAgain 2) := by
  refine ⟨by decide, fun h => ?_⟩
  have hlast := truthful_iff_cacheTrue.mp h.last
  have hdecoded := hlast 0 4 (by decide) (by decide) (by decide)
  exact absurd hdecoded (by decide)

end ExynosHal.Sbwc.DecodeCache
