import ExynosHal.Library.BitString

/-! # Readers over a byte string

A reader moves a cursor, the offset of a pointer and the count of the bytes that remain, both of them machine
words that wrap. It fails with an error, or it reads outside of the input, which is `none`.
-/

namespace ExynosHal.Library.ByteCursor
open BitString
open List (append_assoc length_append)
open BitVec (ofNat toNat_add)

structure Cursor where
  pos : U64
  remain : U64
  deriving DecidableEq

def Cursor.Consistent (input : List Byte) (c : Cursor) : Prop :=
  c.pos.toNat ≤ input.length ∧ c.remain.toNat = input.length - c.pos.toNat

structure Track where
  cursor : Cursor
  past : List Cursor := []

def Track.cursors (t : Track) : List Cursor := t.cursor :: t.past

def Reader (ε α : Type) : Type := Track → Option (Track × Except ε α)

namespace Reader

variable {ε α β : Type}

instance : Monad (Reader ε) where
  pure a := fun t => some (t, .ok a)
  bind x f := fun t =>
    match x t with
    | none => none
    | some (t, .error e) => some (t, .error e)
    | some (t, .ok a) => f a t

def expect (e : ε) (condition : Bool) : Reader ε Unit := fun t =>
  some (t, if condition then .ok () else .error e)

def cursor : Reader ε Cursor := fun t => some (t, .ok t.cursor)

def peek (input : List Byte) (i : U64) : Reader ε Byte := fun t =>
  (input[(t.cursor.pos + i).toNat]?).map fun byte => (t, .ok byte)

/-- `memcpy` from `pos + i`. -/
def copy (input : List Byte) (i len : U64) : Reader ε (List Byte) := fun t =>
  let start := (t.cursor.pos + i).toNat
  if start + len.toNat ≤ input.length then some (t, .ok ((input.drop start).take len.toNat)) else none

def memcmp (input object : List Byte) (len : U64) : Reader ε Bool := fun t =>
  let start := t.cursor.pos.toNat
  if start + len.toNat ≤ input.length ∧ len.toNat ≤ object.length then
    some (t, .ok ((input.drop start).take len.toNat == object.take len.toNat))
  else none

def advance (len : U64) : Reader ε Unit := fun t =>
  some (⟨⟨t.cursor.pos + len, t.cursor.remain - len⟩, t.cursors⟩, .ok ())

def Ends (x : Reader ε α) (t : Track) (ok : α → Track → Prop) (error : Track → Prop) : Prop :=
  ∃ t' r, x t = some (t', r) ∧
    match r with
    | .ok a => ok a t'
    | .error _ => error t'

variable {x : Reader ε α} {f : α → Reader ε β} {t : Track} {error : Track → Prop}

theorem Ends.bind {ok : β → Track → Prop} (h : x.Ends t (fun a t' => (f a).Ends t' ok error) error) :
    (x >>= f).Ends t ok error := by
  obtain ⟨t', r, hx, hr⟩ := h
  cases r with
  | error e => exact ⟨t', .error e, by simp only [Bind.bind, hx], hr⟩
  | ok a =>
    obtain ⟨t'', r', hf, hr'⟩ := hr
    exact ⟨t'', r', by simp only [Bind.bind, hx, hf], hr'⟩

theorem ends_pure {a : α} {ok : α → Track → Prop} (h : ok a t) : (pure a : Reader ε α).Ends t ok error :=
  ⟨t, .ok a, rfl, h⟩

theorem ends_expect {e : ε} {condition : Bool} {ok : Unit → Track → Prop} (hok : condition → ok () t)
    (herr : condition = false → error t) : (expect e condition).Ends t ok error := by
  cases hcond : condition with
  | false => exact ⟨t, .error e, rfl, herr hcond⟩
  | true => exact ⟨t, .ok (), rfl, hok hcond⟩

theorem ends_cursor {ok : Cursor → Track → Prop} (h : ok t.cursor t) : (cursor : Reader ε Cursor).Ends t ok error :=
  ⟨t, .ok t.cursor, rfl, h⟩

end Reader

variable {ε α β : Type} {x : Reader ε α} {f : α → Reader ε β}

theorem Reader.bind_of_ok {t mid : Track} {a : α} (h : x t = some (mid, .ok a)) : (x >>= f) t = f a mid := by
  simp only [Bind.bind, h]

variable {t t' : Track}

theorem Reader.bind_eq_ok_iff {b : β} :
    (x >>= f) t = some (t', .ok b) ↔ ∃ a mid, x t = some (mid, .ok a) ∧ f a mid = some (t', .ok b) := by
  simp only [Bind.bind]
  rcases x t with - | ⟨mid, e | a⟩ <;> simp

theorem Reader.bind_eq_none_iff :
    (x >>= f) t = none ↔ x t = none ∨ ∃ a mid, x t = some (mid, .ok a) ∧ f a mid = none := by
  simp only [Bind.bind]
  rcases x t with - | ⟨mid, e | a⟩ <;> simp

theorem Reader.expect_eq_ok_iff {e : ε} {condition : Bool} {u : Unit} :
    expect e condition t = some (t', .ok u) ↔ t' = t ∧ condition := by
  cases condition <;> simp [expect, eq_comm]

structure At (input before ahead : List Byte) (t : Track) : Prop where
  size : input.length < 2 ^ 64
  split : input = before ++ ahead
  pos : t.cursor.pos.toNat = before.length
  remain : t.cursor.remain.toNat = ahead.length
  past : ∀ c ∈ t.past, c.Consistent input

namespace At

variable {ε : Type} {input before ahead : List Byte} {t : Track} {error : Track → Prop}

theorem consistent (h : At input before ahead t) : ∀ c ∈ t.cursors, c.Consistent input := by
  refine List.forall_mem_cons.mpr ⟨?_, h.past⟩
  have hlen := congrArg List.length h.split
  have hpos := h.pos
  have hremain := h.remain
  rw [length_append] at hlen
  exact ⟨by omega, by omega⟩

theorem length_eq (h : At input before ahead t) : input.length = before.length + ahead.length := by
  rw [h.split, length_append]

theorem start (hsize : input.length < 2 ^ 64) : At input [] input ⟨⟨0, ofNat 64 input.length⟩, []⟩ :=
  ⟨hsize, rfl, rfl, by rw [BitVec.toNat_ofNat, Nat.mod_eq_of_lt hsize], nofun⟩

variable {i : Nat}

theorem toNat_pos_add (h : At input before ahead t) (hi : i ≤ ahead.length) :
    (t.cursor.pos + ofNat 64 i).toNat = before.length + i := by
  have hsize := h.size
  rw [h.length_eq] at hsize
  rw [toNat_add, BitVec.toNat_ofNat, h.pos, Nat.add_mod_mod, Nat.mod_eq_of_lt (by omega)]

theorem ends_peek (h : At input before ahead t) {byte : Byte} (hbyte : ahead[i]? = some byte)
    {ok : Byte → Track → Prop} (hok : ok byte t) :
    (Reader.peek input (ofNat 64 i) : Reader ε Byte).Ends t ok error := by
  obtain ⟨hi, -⟩ := List.getElem?_eq_some_iff.mp hbyte
  refine ⟨t, .ok byte, ?_, hok⟩
  rw [Reader.peek, h.toNat_pos_add (Nat.le_of_lt hi), h.split, List.getElem?_append_right (Nat.le_add_right _ _),
    Nat.add_sub_cancel_left, hbyte]
  rfl

theorem ends_copy (skipped copied : List Byte) {rest : List Byte} (h : At input before (skipped ++ copied ++ rest) t)
    {i len : U64} (hi : i = ofNat 64 skipped.length) (hlen : len.toNat = copied.length) {ok : List Byte → Track → Prop}
    (hok : ok copied t) : (Reader.copy input i len : Reader ε (List Byte)).Ends t ok error := by
  have hlength := h.length_eq
  have hbytes := h.split
  rw [append_assoc, ← append_assoc] at hbytes
  rw [length_append, length_append] at hlength
  refine ⟨t, .ok copied, ?_, hok⟩
  rw [Reader.copy, hi, h.toNat_pos_add (by simp), hlen, if_pos (by omega), hbytes, ← length_append,
    List.drop_left, List.take_left]

variable {len : U64} {ok : Unit → Track → Prop}

theorem ends_advance (passed : List Byte) (h : At input before (passed ++ ahead) t) (hlen : len.toNat = passed.length)
    (hok : ∀ t', At input (before ++ passed) ahead t' → ok () t') :
    (Reader.advance len : Reader ε Unit).Ends t ok error := by
  have hsize := h.size
  have hlength := h.length_eq
  have hremain := h.remain
  have hpos := h.pos
  rw [length_append] at hlength hremain
  refine ⟨_, .ok (), rfl, hok _ ⟨h.size, by rw [append_assoc]; exact h.split, ?_, ?_, h.consistent⟩⟩
  · show (t.cursor.pos + len).toNat = _
    rw [toNat_add, length_append, Nat.mod_eq_of_lt (by omega)]
    omega
  · show (t.cursor.remain - len).toNat = _
    rw [BitVec.toNat_sub_of_le (BitVec.le_def.mpr (by omega))]
    omega

theorem ends_advance_back (taken : List Byte) (h : At input (before ++ taken) ahead t)
    (hlen : len.toNat + taken.length = 2 ^ 64)
    (hok : ∀ t', At input before (taken ++ ahead) t' → ok () t') :
    (Reader.advance len : Reader ε Unit).Ends t ok error := by
  have hsize := h.size
  have hlength := h.length_eq
  have hremain := h.remain
  have hpos := h.pos
  rw [length_append] at hlength hpos
  refine ⟨_, .ok (), rfl, hok _ ⟨h.size, by rw [← append_assoc]; exact h.split, ?_, ?_, h.consistent⟩⟩
  · show (t.cursor.pos + len).toNat = _
    rw [toNat_add]
    omega
  · show (t.cursor.remain - len).toNat = _
    rw [BitVec.toNat_sub, length_append]
    omega

end At

abbrev Readings (α : Type) := α → List Byte → List Byte → List Byte → Prop

structure Recognizes {ε α : Type} (input : List Byte) (x : Reader ε α) (lang : Readings α) : Prop where
  sound : ∀ {before ahead : List Byte} {t t' : Track} {a : α}, At input before ahead t → x t = some (t', .ok a) →
    ∃ taken rest, ahead = taken ++ rest ∧ lang a before taken rest ∧ At input (before ++ taken) rest t'
  complete : ∀ {before taken rest : List Byte} {t : Track} {a : α}, At input before (taken ++ rest) t →
    lang a before taken rest → ∃ t', x t = some (t', .ok a) ∧ At input (before ++ taken) rest t'

def Total {ε α : Type} (input : List Byte) (x : Reader ε α) : Prop :=
  ∀ {before ahead : List Byte} {t : Track}, At input before ahead t → x t ≠ none

section
variable {ε α β : Type} {input : List Byte} {x : Reader ε α} {f : α → Reader ε β} {lang : Readings α}

theorem recognizes_of_ends (hends : ∀ {before ahead : List Byte} {t : Track}, At input before ahead t →
      x.Ends t (fun a t' => ∃ taken rest, ahead = taken ++ rest ∧ lang a before taken rest ∧
      At input (before ++ taken) rest t')
        fun _ => ∀ a taken rest, ahead = taken ++ rest → ¬lang a before taken rest)
    (hunique : ∀ {a a' : α} {before taken taken' rest rest' : List Byte}, lang a before taken rest →
      lang a' before taken' rest' → taken ++ rest = taken' ++ rest' → a = a' ∧ taken = taken') :
    Recognizes input x lang ∧ Total input x := by
  refine ⟨⟨fun hat hrun => ?_, fun hat hlang => ?_⟩, fun hat hnone => ?_⟩
  · obtain ⟨t', r, hrun', hr⟩ := hends hat
    cases hrun.symm.trans hrun'
    exact hr
  · obtain ⟨t', r, hrun, hr⟩ := hends hat
    cases r with
    | error e => exact absurd hlang (hr _ _ _ rfl)
    | ok a' =>
      obtain ⟨taken', rest', hsplit, hlang', hat'⟩ := hr
      obtain ⟨rfl, rfl⟩ := hunique hlang hlang' hsplit
      obtain rfl := List.append_cancel_left hsplit
      exact ⟨t', hrun, hat'⟩
  · obtain ⟨t', r, hrun, -⟩ := hends hat
    cases hnone.symm.trans hrun

theorem Recognizes.congr {lang' : Readings α} (h : Recognizes input x lang)
    (hsame : ∀ a before taken rest, lang' a before taken rest ↔ lang a before taken rest) :
    Recognizes input x lang' := by
  have heq : lang' = lang := by
    funext a before taken rest
    exact propext (hsame a before taken rest)
  exact heq ▸ h

theorem Recognizes.bind {next : α → Readings β} (hx : Recognizes input x lang)
    (hf : ∀ a, Recognizes input (f a) (next a)) :
    Recognizes input (x >>= f) fun b before taken rest => ∃ a first second, taken = first ++ second ∧
      lang a before first (second ++ rest) ∧ next a b (before ++ first) second rest := by
  constructor
  · intro before ahead t t' b hat hrun
    obtain ⟨a, mid, hfst, hsnd⟩ := Reader.bind_eq_ok_iff.mp hrun
    obtain ⟨first, left, rfl, hlang, hat₁⟩ := hx.sound hat hfst
    obtain ⟨second, rest, rfl, hnext, hat₂⟩ := (hf a).sound hat₁ hsnd
    exact ⟨first ++ second, rest, by rw [append_assoc], ⟨a, first, second, rfl, hlang, hnext⟩, by rwa [← append_assoc]⟩
  · rintro before - rest t b hat ⟨a, first, second, rfl, hlang, hnext⟩
    rw [append_assoc] at hat
    obtain ⟨mid, hfst, hat₁⟩ := hx.complete hat hlang
    obtain ⟨t', hsnd, hat₂⟩ := (hf a).complete hat₁ hnext
    exact ⟨t', Reader.bind_eq_ok_iff.mpr ⟨a, mid, hfst, hsnd⟩, by rwa [← append_assoc]⟩

theorem Total.bind (h : Recognizes input x lang ∧ Total input x) (hf : ∀ a, Total input (f a)) :
    Total input (x >>= f) := by
  intro before ahead t hat hnone
  rcases Reader.bind_eq_none_iff.mp hnone with hnone | ⟨a, mid, hfst, hsnd⟩
  · exact h.2 hat hnone
  · obtain ⟨first, left, -, -, hat₁⟩ := h.1.sound hat hfst
    exact hf a hat₁ hsnd

variable (a : α)

theorem recognizes_pure : Recognizes input (pure a : Reader ε α) fun b _ taken _ => b = a ∧ taken = [] := by
  constructor
  · intro before ahead t t' b hat hrun
    cases hrun
    exact ⟨[], ahead, rfl, ⟨rfl, rfl⟩, by rwa [List.append_nil]⟩
  · rintro before - rest t - hat ⟨rfl, rfl⟩
    exact ⟨t, rfl, by rwa [List.append_nil]⟩

theorem total_pure : Total input (pure a : Reader ε α) := fun _ => nofun

end

end ExynosHal.Library.ByteCursor
