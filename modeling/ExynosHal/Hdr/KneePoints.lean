import Mathlib.Tactic

/-! # Knee points of a curve

`kneePointExtractor` of `hdrCurveData.cpp`: the points of a curve that a register table has room for are taken
greedily from the halves of its domain. `none` stands for undefined behaviour: an `int` that overflows, the
top of an empty queue, a write past a vector.
-/

namespace ExynosHal.Hdr.KneePoints
open List (append_assoc length_map map_cons mem_cons mem_singleton not_mem_nil pairwise_cons)
open Option (bind_eq_bind bind_some)

def int32 (x : Int) : Option Int := if -2 ^ 31 ≤ x ∧ x < 2 ^ 31 then some x else none

/-- `curveData` and what its `getY` returns. -/
structure CurveData where
  getY : Int → Int
  inputRange : Int
  minX : Int

structure Node where
  leftX : Int
  leftY : Int
  rightX : Int
  rightY : Int
  curX : Int
  curY : Int
  prevY : Int
  nextY : Int
  cost : Int
  deriving DecidableEq

/-- `abs(y - (sum >> shift))`. -/
def deviation (y sum : Int) (shift : Nat) : Option Int := do
  let sum ← int32 sum
  let difference ← int32 (y - sum >>> shift)
  int32 |difference|

def getCost (leftY rightY curY prevY nextY : Int) : Option Int := do
  let cur ← deviation curY (leftY + rightY) 1
  let leftThrice ← int32 (leftY * 3)
  let prev ← deviation prevY (leftThrice + rightY) 2
  let rightThrice ← int32 (rightY * 3)
  let next ← deviation nextY (leftY + rightThrice) 2
  some (cur + prev + next)

def Node.new (leftX leftY rightX rightY curY prevY nextY : Int) : Option Node := do
  let sum ← int32 (leftX + rightX)
  let cost ← getCost leftY rightY curY prevY nextY
  some { leftX, leftY, rightX, rightY, curX := sum >>> (1 : Nat), curY, prevY, nextY, cost }

def CurveData.candidate (data : CurveData) (leftX leftY rightX rightY : Int) : Option Node := do
  let sum ← int32 (leftX + rightX)
  let width ← int32 (rightX - leftX)
  let prevX ← int32 (sum >>> (1 : Nat) - width >>> (2 : Nat))
  let nextX ← int32 (sum >>> (1 : Nat) + width >>> (2 : Nat))
  Node.new leftX leftY rightX rightY (data.getY (sum >>> (1 : Nat))) (data.getY prevX) (data.getY nextX)

def candidateComp (l r : Node) : Bool :=
  if l.cost = r.cost then decide (l.curX < r.curX) else decide (l.cost < r.cost)

def top : List Node → Option Node
  | [] => none
  | node :: rest => some (rest.foldl (fun best other => if candidateComp best other then other else best) node)

def insert (node : Node) : List Node → List Node
  | [] => [node]
  | other :: rest =>
    if node.curX < other.curX then node :: other :: rest
    else if other.curX < node.curX then other :: insert node rest
    else other :: rest

structure Extractor where
  selectList : List Node
  candidateList : List Node

namespace Extractor

def new (data : CurveData) : Option Extractor := do
  let leftY := data.getY 0
  let first ← Node.new 0 leftY 0 leftY leftY leftY leftY
  let rightX := data.inputRange
  let rightY := data.getY rightX
  let last ← Node.new rightX rightY rightX rightY rightY rightY rightY
  let candidate ← data.candidate 0 leftY rightX rightY
  some { selectList := insert last (insert first []), candidateList := [candidate] }

def step (data : CurveData) (e : Extractor) : Option Extractor := do
  let node ← top e.candidateList
  let candidateList := e.candidateList.erase node
  let selectList := insert node e.selectList
  let width ← int32 (node.rightX - node.leftX)
  let leaf ← int32 (data.minX <<< (1 : Nat))
  if width ≤ leaf then some { selectList, candidateList }
  else do
    let left ← data.candidate node.leftX node.leftY node.curX node.curY
    let right ← data.candidate node.curX node.curY node.rightX node.rightY
    some { selectList, candidateList := right :: left :: candidateList }

def selectFromCandidate (data : CurveData) : Nat → Extractor → Option Extractor
  | 0, e => some e
  | numArray + 1, e => do
    let e ← e.step data
    selectFromCandidate data numArray e

end Extractor

/-- `arr[i] = v` for the values from `i` on. -/
def writeValues : Nat → List Int → List Int → Option (List Int)
  | _, [], arr => some arr
  | i, value :: values, arr => if i < arr.length then writeValues (i + 1) values (arr.set i value) else none

/-- `arr[i - 1] -= arr[i - 2]`. -/
def subtractPrior (i : Nat) (arr : List Int) : Option (List Int) := do
  let last ← arr[i - 1]?
  let prior ← arr[i - 2]?
  let difference ← int32 (last - prior)
  some (arr.set (i - 1) difference)

def Extractor.select (data : CurveData) (e : Extractor) (numArray : Int) (arrX arrY : List Int) :
    Option (Extractor × List Int × List Int) := do
  let e ← e.selectFromCandidate data (numArray - 2).toNat
  let arrX ← writeValues 0 (e.selectList.map Node.curX) arrX
  let arrY ← writeValues 0 (e.selectList.map Node.curY) arrY
  let arrX ← subtractPrior e.selectList.length arrX
  let arrY ← subtractPrior e.selectList.length arrY
  some (e, arrX, arrY)

def kneePoints (data : CurveData) (numArray : Int) (arrX arrY : List Int) :
    Option (Extractor × List Int × List Int) := do
  let e ← Extractor.new data
  e.select data numArray arrX arrY

structure CurveData.Valid (data : CurveData) (a b : Nat) : Prop where
  getY : ∀ x, |data.getY x| < 2 ^ 28
  inputRange : data.inputRange = 2 ^ a
  minX : data.minX = 2 ^ b
  lt : b < a
  le : a ≤ 28

def Dyadic (a b : Nat) (left right : Int) : Prop :=
  ∃ k m : Nat, b < k ∧ k ≤ a ∧ left = m * 2 ^ k ∧ right = (m + 1) * 2 ^ k ∧ right ≤ 2 ^ a

variable {a b : Nat}

theorem Dyadic.whole (h : b < a) : Dyadic a b 0 (2 ^ a) := ⟨a, 0, h, le_rfl, by simp, by simp, le_rfl⟩

variable {left right : Int}

theorem Dyadic.halves (h : Dyadic a b left right) :
    ∃ w : Int, 2 ^ b ∣ left ∧ 2 ^ b ∣ w ∧ 2 ^ b ≤ w ∧ right = left + 2 * w ∧ 0 ≤ left ∧ right ≤ 2 ^ a ∧
      (w ≠ 2 ^ b → Dyadic a b left (left + w) ∧ Dyadic a b (left + w) right) := by
  obtain ⟨k, m, hb, ha, rfl, rfl, hle⟩ := h
  obtain ⟨k, rfl⟩ : ∃ k', k = k' + 1 := ⟨k - 1, by omega⟩
  have hgrid : (2 : Int) ^ b ∣ 2 ^ k := pow_dvd_pow 2 (by omega)
  refine ⟨2 ^ k, ?_, hgrid, Int.le_of_dvd (by positivity) hgrid, by ring, by positivity, hle, fun hne => ?_⟩
  · exact (pow_dvd_pow 2 (by omega)).mul_left _
  · have hlt : b < k := by
      rcases Nat.lt_or_ge b k with hlt | hge
      · exact hlt
      · obtain rfl : b = k := by omega
        exact absurd rfl hne
    have hpos : (0 : Int) < 2 ^ k := by positivity
    constructor
    · refine ⟨k, 2 * m, hlt, by omega, by push_cast; ring, by push_cast; ring, ?_⟩
      calc (m * 2 ^ (k + 1) + 2 ^ k : Int) ≤ (m + 1) * 2 ^ (k + 1) := by ring_nf; omega
        _ ≤ 2 ^ a := hle
    · exact ⟨k, 2 * m + 1, hlt, by omega, by push_cast; ring, by push_cast; ring, hle⟩

theorem int32_eq {x : Int} (h : |x| < 2 ^ 31) : int32 x = some x := by
  rw [abs_lt] at h
  exact if_pos ⟨h.1.le, h.2⟩

theorem deviation_isSome (shift : Nat) {y sum : Int} (hy : |y| < 2 ^ 28) (hsum : |sum| < 2 ^ 30) :
    ∃ d, deviation y sum shift = some d := by
  have hdifference : |y - sum >>> shift| < 2 ^ 31 := by
    rw [abs_lt] at hy hsum ⊢
    have hone : (1 : Int) ≤ 2 ^ shift := one_le_pow₀ (by decide)
    have hupper : sum >>> shift ≤ 2 ^ 30 := by
      rw [Int.shiftRight_eq_div_pow]
      exact Int.ediv_le_of_le_mul (by positivity)
        (hsum.2.le.trans (le_mul_of_one_le_right (by decide) (by exact_mod_cast hone)))
    have hlower : -2 ^ 30 ≤ sum >>> shift := by
      rw [Int.shiftRight_eq_div_pow]
      refine Int.le_ediv_of_mul_le (by positivity) (le_trans ?_ hsum.1.le)
      rw [neg_mul]
      exact neg_le_neg (le_mul_of_one_le_right (by decide) (by exact_mod_cast hone))
    omega
  refine ⟨|y - sum >>> shift|, ?_⟩
  simp only [deviation, int32_eq (show |sum| < 2 ^ 31 by omega), bind_eq_bind, bind_some,
    int32_eq hdifference, int32_eq (show |(|y - sum >>> shift|)| < 2 ^ 31 by rwa [abs_abs])]

theorem getCost_isSome {leftY rightY curY prevY nextY : Int} (hleft : |leftY| < 2 ^ 28) (hright : |rightY| < 2 ^ 28)
    (hcur : |curY| < 2 ^ 28) (hprev : |prevY| < 2 ^ 28) (hnext : |nextY| < 2 ^ 28) :
    ∃ cost, getCost leftY rightY curY prevY nextY = some cost := by
  have hsums : |leftY + rightY| < 2 ^ 30 ∧ |leftY * 3| < 2 ^ 31 ∧ |leftY * 3 + rightY| < 2 ^ 30 ∧ |rightY * 3| <
    2 ^ 31 ∧
      |leftY + rightY * 3| < 2 ^ 30 := by
    simp only [abs_lt] at hleft hright ⊢
    omega
  obtain ⟨hhalf, hleftThrice, hprevSum, hrightThrice, hnextSum⟩ := hsums
  obtain ⟨cur, hcur⟩ := deviation_isSome 1 hcur hhalf
  obtain ⟨prev, hprev⟩ := deviation_isSome 2 hprev hprevSum
  obtain ⟨next, hnext⟩ := deviation_isSome 2 hnext hnextSum
  refine ⟨cur + prev + next, ?_⟩
  simp only [getCost, hcur, int32_eq hleftThrice, hprev, int32_eq hrightThrice, hnext, bind_eq_bind, bind_some]

structure Node.Over (data : CurveData) (left right : Int) (node : Node) : Prop where
  leftX : node.leftX = left
  rightX : node.rightX = right
  leftY : node.leftY = data.getY left
  rightY : node.rightY = data.getY right
  curX : 2 * node.curX = left + right
  curY : node.curY = data.getY node.curX

section
variable {data : CurveData} {a b : Nat} (hdata : data.Valid a b)
include hdata

theorem range_le : (2 : Int) ^ a ≤ 2 ^ 28 := pow_le_pow_right₀ (by decide) hdata.le

theorem new_point {x : Int} (h0 : 0 ≤ x) (ha : x ≤ 2 ^ a) :
    ∃ node, Node.new x (data.getY x) x (data.getY x) (data.getY x) (data.getY x) (data.getY x) = some node ∧
      node.Over data x x := by
  have hrange := range_le hdata
  have hy := hdata.getY x
  obtain ⟨cost, hcost⟩ := getCost_isSome hy hy hy hy hy
  have hcur : (x + x) >>> (1 : Nat) = x := by
    rw [Int.shiftRight_eq_div_pow]
    omega
  refine ⟨_, by rw [Node.new, int32_eq (by rw [abs_lt]; omega), hcost]; rfl, rfl, rfl, rfl, rfl, ?_, ?_⟩
  · show 2 * ((x + x) >>> (1 : Nat)) = x + x
    omega
  · rw [hcur]

theorem new_candidate (h : Dyadic a b left right) :
    ∃ node, data.candidate left (data.getY left) right (data.getY right) = some node ∧ node.Over data left right := by
  obtain ⟨w, -, -, hw, rfl, h0, ha, -⟩ := h.halves
  have hrange := range_le hdata
  have hgrid : (0 : Int) < 2 ^ b := by positivity
  have hcur : (left + (left + 2 * w)) >>> (1 : Nat) = left + w := by
    rw [Int.shiftRight_eq_div_pow]
    omega
  have hquarter : 0 ≤ (left + 2 * w - left) >>> (2 : Nat) ∧ (left + 2 * w - left) >>> (2 : Nat) ≤ w := by
    rw [Int.shiftRight_eq_div_pow]
    omega
  obtain ⟨cost, hcost⟩ := getCost_isSome (hdata.getY left) (hdata.getY (left + 2 * w)) (hdata.getY (left + w))
    (hdata.getY (left + w - (left + 2 * w - left) >>> (2 : Nat)))
      (hdata.getY (left + w + (left + 2 * w - left) >>> (2 : Nat)))
  have hsum : int32 (left + (left + 2 * w)) = some (left + (left + 2 * w)) := int32_eq (by rw [abs_lt]; omega)
  have hwidth : int32 (left + 2 * w - left) = some (left + 2 * w - left) := int32_eq (by rw [abs_lt]; omega)
  have hprev : int32 (left + w - (left + 2 * w - left) >>> (2 : Nat)) =
      some (left + w - (left + 2 * w - left) >>> (2 : Nat)) :=
    int32_eq (by rw [abs_lt]; omega)
  have hnext : int32 (left + w + (left + 2 * w - left) >>> (2 : Nat)) =
      some (left + w + (left + 2 * w - left) >>> (2 : Nat)) :=
    int32_eq (by rw [abs_lt]; omega)
  refine ⟨⟨left, data.getY left, left + 2 * w, data.getY (left + 2 * w), left + w, data.getY (left + w),
    data.getY (left + w - (left + 2 * w - left) >>> (2 : Nat)),
      data.getY (left + w + (left + 2 * w - left) >>> (2 : Nat)), cost⟩, ?_, rfl,
    rfl, rfl, rfl, ?_, rfl⟩
  · simp only [CurveData.candidate, Node.new, hsum, hwidth, hcur, hprev, hnext, hcost, bind_eq_bind, bind_some]
  · show 2 * (left + w) = left + (left + 2 * w)
    omega

end

variable {nodes : List Node} {node : Node}

theorem top_spec (h : top nodes = some node) : node ∈ nodes ∧ ∀ other ∈ nodes, other.cost ≤ node.cost := by
  cases nodes with
  | nil => cases h
  | cons first rest =>
    obtain rfl := Option.some.inj h
    have hcomp : ∀ l r : Node, l.cost ≤ (if candidateComp l r then r else l).cost ∧
        r.cost ≤ (if candidateComp l r then r else l).cost := by
      intro l r
      unfold candidateComp
      split_ifs with hcost hlt hlt
      · exact ⟨hcost.le, le_rfl⟩
      · exact ⟨le_rfl, hcost.ge⟩
      · exact ⟨(of_decide_eq_true hlt).le, le_rfl⟩
      · exact ⟨le_rfl, not_lt.mp fun h => hlt (decide_eq_true h)⟩
    clear h
    induction rest generalizing first with
    | nil => simp
    | cons second rest ih =>
      obtain ⟨hmem, hle⟩ := ih (if candidateComp first second then second else first)
      rw [List.foldl_cons]
      constructor
      · rcases mem_cons.mp hmem with hmem | hmem
        · rw [hmem]
          split_ifs <;> simp
        · exact List.mem_cons_of_mem _ (List.mem_cons_of_mem _ hmem)
      · have hbest := hle _ List.mem_cons_self
        intro other hother
        rcases mem_cons.mp hother with rfl | hother
        · exact (hcomp other second).1.trans hbest
        · rcases mem_cons.mp hother with rfl | hother
          · exact (hcomp first other).2.trans hbest
          · exact hle other (List.mem_cons_of_mem _ hother)

theorem insert_perm (h : node.curX ∉ nodes.map Node.curX) : (insert node nodes).Perm (node :: nodes) := by
  induction nodes with
  | nil => exact List.Perm.refl _
  | cons other rest ih =>
    rw [map_cons, mem_cons, not_or] at h
    unfold insert
    split_ifs with hlt hgt
    · exact List.Perm.refl _
    · exact ((ih h.2).cons other).trans (List.Perm.swap node other rest)
    · omega

theorem insert_sorted (h : nodes.Pairwise fun p q => p.curX < q.curX)
    (hnew : node.curX ∉ nodes.map Node.curX) : (insert node nodes).Pairwise fun p q => p.curX < q.curX := by
  induction nodes with
  | nil => exact List.pairwise_singleton _ _
  | cons other rest ih =>
    obtain ⟨hfst, hrest⟩ := pairwise_cons.mp h
    rw [map_cons, mem_cons, not_or] at hnew
    unfold insert
    split_ifs with hlt hgt
    · refine pairwise_cons.mpr ⟨fun q hq => ?_, h⟩
      rcases mem_cons.mp hq with rfl | hq
      · exact hlt
      · exact hlt.trans (hfst q hq)
    · refine pairwise_cons.mpr ⟨fun q hq => ?_, ih hrest hnew.2⟩
      rcases mem_cons.mp ((insert_perm hnew.2).mem_iff.mp hq) with rfl | hq
      · exact hgt
      · exact hfst q hq
    · exact h

def Extractor.points (e : Extractor) : List Int := e.selectList.map Node.curX

structure Open (data : CurveData) (a b : Nat) (points : List Int) (c : Node) : Prop where
  dyadic : Dyadic a b c.leftX c.rightX
  values : c.Over data c.leftX c.rightX
  left : c.leftX ∈ points
  right : c.rightX ∈ points
  empty : ∀ x ∈ points, ¬(c.leftX < x ∧ x < c.rightX)

def Apart (c d : Node) : Prop := c.rightX ≤ d.leftX ∨ d.rightX ≤ c.leftX

structure Invariant (data : CurveData) (a b : Nat) (e : Extractor) : Prop where
  sorted : e.selectList.Pairwise fun p q => p.curX < q.curX
  onCurve : ∀ p ∈ e.selectList, p.curY = data.getY p.curX
  first : 0 ∈ e.points
  last : 2 ^ a ∈ e.points
  grid : ∀ x ∈ e.points, 0 ≤ x ∧ x ≤ 2 ^ a ∧ 2 ^ b ∣ x
  midpoint : ∀ x ∈ e.points, 0 < x → x < 2 ^ a →
    ∃ left right, Dyadic a b left right ∧ left ∈ e.points ∧ right ∈ e.points ∧ 2 * x = left + right
  candidates : ∀ c ∈ e.candidateList, Open data a b e.points c
  apart : e.candidateList.Pairwise Apart
  covers : ∀ x, 0 < x → x < 2 ^ a → 2 ^ b ∣ x → x ∈ e.points ∨ ∃ c ∈ e.candidateList, c.leftX < x ∧ x < c.rightX

def Leaves (node : Node) (candidates : List Node) : Prop :=
  ∀ c ∈ candidates, c.cost ≤ node.cost ∨ (c.leftX = node.leftX ∧ c.rightX = node.curX) ∨
    (c.leftX = node.curX ∧ c.rightX = node.rightX)

variable {data : CurveData} {c : Node}

theorem Open.mono {points points' : List Int} (h : Open data a b points c)
    {x : Int} (hpoints : ∀ y, y ∈ points' ↔ y = x ∨ y ∈ points) (hx : ¬(c.leftX < x ∧ x < c.rightX)) :
    Open data a b points' c where
  dyadic := h.dyadic
  values := h.values
  left := (hpoints _).mpr (.inr h.left)
  right := (hpoints _).mpr (.inr h.right)
  empty y hy := by
    rcases (hpoints y).mp hy with rfl | hy
    · exact hx
    · exact h.empty y hy

theorem Node.Over.open {points : List Int}
    (h : c.Over data left right) (hdyadic : Dyadic a b left right) (hleft : left ∈ points) (hright : right ∈ points)
    (hempty : ∀ x ∈ points, ¬(left < x ∧ x < right)) : Open data a b points c := by
  obtain rfl := h.leftX
  obtain rfl := h.rightX
  exact ⟨hdyadic, h, hleft, hright, hempty⟩

section
variable {data : CurveData} {a b : Nat} (hdata : data.Valid a b)
include hdata

theorem Invariant.new : ∃ e, Extractor.new data = some e ∧ Invariant data a b e ∧ e.selectList.length = 2 := by
  have hrange : (0 : Int) < 2 ^ a := by positivity
  obtain ⟨first, hfst, hfstOver⟩ := new_point hdata le_rfl hrange.le
  obtain ⟨last, hlast, hlastOver⟩ := new_point hdata hrange.le le_rfl
  obtain ⟨candidate, hcandidate, hover⟩ := new_candidate hdata (.whole hdata.lt)
  have hfstX : first.curX = 0 := by
    have := hfstOver.curX
    omega
  have hlastX : last.curX = 2 ^ a := by
    have := hlastOver.curX
    omega
  have hinsert : insert last (insert first []) = [first, last] := by
    show (if last.curX < first.curX then _ else if first.curX < last.curX then first :: insert last [] else _) = _
    rw [if_neg (by omega), if_pos (by omega)]
    rfl
  refine ⟨⟨[first, last], [candidate]⟩, ?_, ?_, rfl⟩
  · simp only [Extractor.new, hdata.inputRange, hfst, hlast, hcandidate, hinsert, bind_eq_bind, bind_some]
  · have hpoints : ∀ x, x ∈ Extractor.points ⟨[first, last], [candidate]⟩ ↔ x = 0 ∨ x = 2 ^ a := by
      intro x
      simp [Extractor.points, hfstX, hlastX]
    have hopen : ∀ x, x ∈ Extractor.points ⟨[first, last], [candidate]⟩ → ¬(0 < x ∧ x < 2 ^ a) := by
      intro x hx
      have := (hpoints x).mp hx
      omega
    constructor
    · simp only [pairwise_cons, mem_singleton, forall_eq, not_mem_nil, false_imp_iff, implies_true,
        List.Pairwise.nil, and_true]
      omega
    · simp only [mem_cons, not_mem_nil, or_false, forall_eq_or_imp, forall_eq]
      exact ⟨hfstOver.curY, hlastOver.curY⟩
    · exact (hpoints 0).mpr (.inl rfl)
    · exact (hpoints _).mpr (.inr rfl)
    · intro x hx
      rcases (hpoints x).mp hx with rfl | rfl
      · exact ⟨le_rfl, hrange.le, dvd_zero _⟩
      · exact ⟨hrange.le, le_rfl, pow_dvd_pow 2 hdata.lt.le⟩
    · exact fun x hx h0 ha => absurd ⟨h0, ha⟩ (hopen x hx)
    · rintro c hc
      obtain rfl := mem_singleton.mp hc
      exact hover.open (.whole hdata.lt) ((hpoints _).mpr (.inl rfl)) ((hpoints _).mpr (.inr rfl)) hopen
    · exact List.pairwise_singleton _ _
    · intro x h0 ha hgrid
      refine .inr ⟨candidate, List.mem_singleton_self _, ?_⟩
      rw [hover.leftX, hover.rightX]
      exact ⟨h0, ha⟩

variable {e : Extractor}

omit hdata in
theorem Invariant.selected (h : Invariant data a b e) {node : Node} (hnode : node ∈ e.candidateList)
    (halves : List Node) (hopen : ∀ c ∈ halves, Open data a b ((insert node e.selectList).map Node.curX) c)
    (hapart : halves.Pairwise Apart) (hinside : ∀ c ∈ halves, node.leftX ≤ c.leftX ∧ c.rightX ≤ node.rightX)
    (hcovers : ∀ x, node.leftX < x → x < node.rightX → 2 ^ b ∣ x →
      x = node.curX ∨ ∃ c ∈ halves, c.leftX < x ∧ x < c.rightX) :
    Invariant data a b ⟨insert node e.selectList, halves ++ e.candidateList.erase node⟩ := by
  have hnodeOpen := h.candidates node hnode
  obtain ⟨w, hleftGrid, hwGrid, hw, hright, h0, ha, -⟩ := hnodeOpen.dyadic.halves
  have hgrid : (0 : Int) < 2 ^ b := by positivity
  have hcur := hnodeOpen.values.curX
  have hnew : node.curX ∉ e.points := fun hmem => hnodeOpen.empty _ hmem ⟨by omega, by omega⟩
  have hperm := insert_perm hnew
  have hpoints : ∀ y, y ∈ (insert node e.selectList).map Node.curX ↔ y = node.curX ∨ y ∈ e.points := by
    intro y
    rw [(hperm.map Node.curX).mem_iff, map_cons, mem_cons, Extractor.points]
  have hqueue : e.candidateList.Perm (node :: e.candidateList.erase node) := List.perm_cons_erase hnode
  obtain ⟨hapartNode, hapartRest⟩ := pairwise_cons.mp ((hqueue.pairwise_iff Or.symm).mp h.apart)
  constructor
  · exact insert_sorted h.sorted hnew
  · intro p hp
    rcases mem_cons.mp (hperm.mem_iff.mp hp) with rfl | hp
    · exact hnodeOpen.values.curY
    · exact h.onCurve p hp
  · exact (hpoints _).mpr (.inr h.first)
  · exact (hpoints _).mpr (.inr h.last)
  · intro x hx
    rcases (hpoints x).mp hx with rfl | hx
    · refine ⟨by omega, by omega, ?_⟩
      rw [show node.curX = node.leftX + w by omega]
      exact dvd_add hleftGrid hwGrid
    · exact h.grid x hx
  · intro x hx hpos hlt
    rcases (hpoints x).mp hx with rfl | hx
    · exact ⟨node.leftX, node.rightX, hnodeOpen.dyadic, (hpoints _).mpr (.inr hnodeOpen.left),
        (hpoints _).mpr (.inr hnodeOpen.right), hcur⟩
    · obtain ⟨left, right, hdyadic, hleft, hright, hmiddle⟩ := h.midpoint x hx hpos hlt
      exact ⟨left, right, hdyadic, (hpoints _).mpr (.inr hleft), (hpoints _).mpr (.inr hright), hmiddle⟩
  · intro c hc
    rcases List.mem_append.mp hc with hc | hc
    · exact hopen c hc
    · refine (h.candidates c (List.mem_of_mem_erase hc)).mono hpoints ?_
      rcases hapartNode c hc with hbefore | hbehind <;> omega
  · refine List.pairwise_append.mpr ⟨hapart, hapartRest, fun c hc d hd => ?_⟩
    have := hinside c hc
    have := hapartNode d hd
    unfold Apart at this ⊢
    omega
  · intro x hpos hlt hx
    rcases h.covers x hpos hlt hx with hx' | ⟨c, hc, hbetween⟩
    · exact .inl ((hpoints x).mpr (.inr hx'))
    · rcases mem_cons.mp (hqueue.mem_iff.mp hc) with rfl | hc
      · rcases hcovers x hbetween.1 hbetween.2 hx with rfl | ⟨half, hhalf, hinHalf⟩
        · exact .inl ((hpoints _).mpr (.inl rfl))
        · exact .inr ⟨half, List.mem_append_left _ hhalf, hinHalf⟩
      · exact .inr ⟨c, List.mem_append_right _ hc, hbetween⟩

theorem Invariant.step (h : Invariant data a b e) (hne : e.candidateList ≠ []) :
    ∃ node e', top e.candidateList = some node ∧ e.step data = some e' ∧ Invariant data a b e' ∧
      e'.selectList.length = e.selectList.length + 1 ∧ Leaves node e'.candidateList := by
  obtain ⟨node, htop⟩ : ∃ node, top e.candidateList = some node := by
    cases hlist : e.candidateList with
    | nil => exact absurd hlist hne
    | cons first rest => exact ⟨_, rfl⟩
  obtain ⟨hnode, hmax⟩ := top_spec htop
  have hopen := h.candidates node hnode
  have hvals := hopen.values
  obtain ⟨w, hleftGrid, hwGrid, hw, hright, h0, ha, hhalves⟩ := hopen.dyadic.halves
  have hrange := range_le hdata
  have hgrid : (0 : Int) < 2 ^ b := by positivity
  have hcur := hvals.curX
  have hcurX : node.curX = node.leftX + w := by omega
  have hnew : node.curX ∉ e.points := fun hmem => hopen.empty _ hmem ⟨by omega, by omega⟩
  have hlen : (insert node e.selectList).length = e.selectList.length + 1 := (insert_perm hnew).length_eq
  have hwidth : int32 (node.rightX - node.leftX) = some (node.rightX - node.leftX) := int32_eq (by rw [abs_lt]; omega)
  have hleaf : int32 (data.minX <<< (1 : Nat)) = some (2 * 2 ^ b) := by
    rw [hdata.minX, Int.shiftLeft_eq, int32_eq (by rw [abs_lt]; omega)]
    ring_nf
  have hrest : Leaves node (e.candidateList.erase node) := fun c hc => .inl (hmax c (List.mem_of_mem_erase hc))
  by_cases hsmall : node.rightX - node.leftX ≤ 2 * 2 ^ b
  · refine ⟨node, ⟨insert node e.selectList, e.candidateList.erase node⟩, htop, ?_, ?_, hlen, hrest⟩
    · simp only [Extractor.step, htop, hwidth, hleaf, bind_eq_bind, bind_some, if_pos hsmall]
    · -- The interval has the width of two grid steps, and its middle is the only grid point inside.
      refine h.selected hnode [] nofun .nil nofun fun x hlt hgt hx => .inl ?_
      have hw' : w = 2 ^ b := by omega
      obtain ⟨i, hi⟩ := hleftGrid
      obtain ⟨j, rfl⟩ := hx
      have hij : i < j ∧ j < i + 2 := by
        rw [hi] at hlt
        rw [hright, hi, hw'] at hgt
        refine ⟨lt_of_mul_lt_mul_left hlt hgrid.le, lt_of_mul_lt_mul_left ?_ hgrid.le⟩
        calc 2 ^ b * j < 2 ^ b * i + 2 * 2 ^ b := hgt
          _ = 2 ^ b * (i + 2) := by ring
      obtain rfl : j = i + 1 := by omega
      rw [hcurX, hi, hw']
      ring
  · obtain ⟨hleftDyadic, hrightDyadic⟩ := hhalves (by omega)
    rw [← hcurX] at hleftDyadic hrightDyadic
    obtain ⟨left, hleft, hleftOver⟩ := new_candidate hdata hleftDyadic
    obtain ⟨right, hright', hrightOver⟩ := new_candidate hdata hrightDyadic
    rw [← hvals.leftY, ← hvals.curY] at hleft
    rw [← hvals.curY, ← hvals.rightY] at hright'
    have hpoints : ∀ y, y ∈ (insert node e.selectList).map Node.curX ↔ y = node.curX ∨ y ∈ e.points := by
      intro y
      rw [((insert_perm hnew).map Node.curX).mem_iff, map_cons, mem_cons, Extractor.points]
    have hempty : ∀ x ∈ (insert node e.selectList).map Node.curX, node.leftX < x → x < node.rightX → x = node.curX := by
      intro x hx hlt hgt
      rcases (hpoints x).mp hx with rfl | hx
      · rfl
      · exact absurd ⟨hlt, hgt⟩ (hopen.empty x hx)
    have hleftOpen : Open data a b ((insert node e.selectList).map Node.curX) left := by
      refine hleftOver.open hleftDyadic ((hpoints _).mpr (.inr hopen.left)) ((hpoints _).mpr (.inl rfl)) ?_
      rintro x hx ⟨hlt, hgt⟩
      exact absurd (hempty x hx hlt (by omega)) (by omega)
    have hrightOpen : Open data a b ((insert node e.selectList).map Node.curX) right := by
      refine hrightOver.open hrightDyadic ((hpoints _).mpr (.inl rfl)) ((hpoints _).mpr (.inr hopen.right)) ?_
      rintro x hx ⟨hlt, hgt⟩
      exact absurd (hempty x hx (by omega) hgt) (by omega)
    have hleftX := hleftOver.leftX
    have hleftRight := hleftOver.rightX
    have hrightX := hrightOver.leftX
    have hrightRight := hrightOver.rightX
    refine ⟨node, ⟨insert node e.selectList, right :: left :: e.candidateList.erase node⟩, htop, ?_, ?_, hlen, ?_⟩
    · simp only [Extractor.step, htop, hwidth, hleaf, hleft, hright', bind_eq_bind, bind_some, if_neg hsmall]
    · refine h.selected hnode [right, left] ?_ ?_ ?_ ?_
      · simp only [mem_cons, not_mem_nil, or_false, forall_eq_or_imp, forall_eq]
        exact ⟨hrightOpen, hleftOpen⟩
      · simp only [pairwise_cons, mem_singleton, forall_eq, not_mem_nil, false_imp_iff, implies_true,
          List.Pairwise.nil, and_true, Apart]
        omega
      · simp only [mem_cons, not_mem_nil, or_false, forall_eq_or_imp, forall_eq]
        omega
      · intro x hlt hgt _
        rcases lt_trichotomy x node.curX with hx | hx | hx
        · exact .inr ⟨left, by simp, by omega⟩
        · exact .inl hx
        · exact .inr ⟨right, by simp, by omega⟩
    · intro c hc
      rcases mem_cons.mp hc with rfl | hc
      · exact .inr (.inr ⟨hrightX, hrightRight⟩)
      · rcases mem_cons.mp hc with rfl | hc
        · exact .inr (.inl ⟨hleftX, hleftRight⟩)
        · exact hrest c hc

omit hdata in
theorem Invariant.candidateList_ne_nil (h : Invariant data a b e) (hlt : b < a)
    (hlen : e.selectList.length ≤ 2 ^ (a - b)) : e.candidateList ≠ [] := by
  intro hempty
  have hall : ((List.range (2 ^ (a - b) + 1)).map fun i : Nat => (i * 2 ^ b : Int)) ⊆ e.points := by
    intro x hx
    obtain ⟨i, hi, rfl⟩ := List.mem_map.mp hx
    have hi : (i : Int) ≤ 2 ^ (a - b) := by exact_mod_cast Nat.lt_succ_iff.mp (List.mem_range.mp hi)
    have hgrid : (0 : Int) < 2 ^ b := by positivity
    have hpow : (2 : Int) ^ (a - b) * 2 ^ b = 2 ^ a := by rw [← pow_add, Nat.sub_add_cancel hlt.le]
    rcases Nat.eq_zero_or_pos i with rfl | hpos
    · simpa using h.first
    · rcases hi.lt_or_eq with hi | hi
      · have hmul : (i : Int) * 2 ^ b < 2 ^ a := by
          rw [← hpow]
          exact mul_lt_mul_of_pos_right hi hgrid
        rcases h.covers _ (by positivity) hmul (dvd_mul_left _ _) with hmem | ⟨c, hc, -⟩
        · exact hmem
        · rw [hempty] at hc
          cases hc
      · rw [hi, hpow]
        exact h.last
  have hnodup : ((List.range (2 ^ (a - b) + 1)).map fun i : Nat => (i * 2 ^ b : Int)).Nodup := by
    refine List.nodup_range.map fun i j hij => ?_
    exact_mod_cast mul_right_cancel₀ (by positivity) hij
  have hle := (hnodup.subperm hall).length_le
  simp only [length_map, List.length_range, Extractor.points] at hle
  omega

theorem Invariant.selectFromCandidate (h : Invariant data a b e) {count : Nat}
    (hcnt : e.selectList.length + count ≤ 2 ^ (a - b) + 1) :
    ∃ e', e.selectFromCandidate data count = some e' ∧ Invariant data a b e' ∧
      e'.selectList.length = e.selectList.length + count := by
  induction count generalizing e with
  | zero => exact ⟨e, rfl, h, rfl⟩
  | succ count ih =>
    obtain ⟨node, next, -, hstep, hnext, hlen, -⟩ := h.step hdata (h.candidateList_ne_nil hdata.lt (by omega))
    obtain ⟨e', hrun, he', hlen'⟩ := ih hnext (by omega)
    refine ⟨e', ?_, he', by omega⟩
    rw [Extractor.selectFromCandidate, hstep]
    exact hrun

end

theorem selectFromCandidate_succ {e e' : Extractor} {count : Nat}
    (h : e.selectFromCandidate data (count + 1) = some e') :
    ∃ before, e.selectFromCandidate data count = some before ∧ before.step data = some e' := by
  induction count generalizing e with
  | zero =>
    obtain ⟨next, hnext, h⟩ := Option.bind_eq_some_iff.mp h
    cases h
    exact ⟨e, rfl, hnext⟩
  | succ count ih =>
    obtain ⟨next, hnext, h⟩ := Option.bind_eq_some_iff.mp h
    obtain ⟨before, hbefore, hlast⟩ := ih h
    refine ⟨before, ?_, hlast⟩
    rw [Extractor.selectFromCandidate, hnext]
    exact hbefore

theorem writeValues_append {i : Nat} {before values old after : List Int} (hi : i = before.length)
    (hold : old.length = values.length) :
    writeValues i values (before ++ old ++ after) = some (before ++ values ++ after) := by
  induction values generalizing i before old with
  | nil =>
    obtain rfl := List.eq_nil_of_length_eq_zero hold
    rfl
  | cons value values ih =>
    obtain ⟨first, old, rfl⟩ := List.exists_cons_of_length_eq_add_one hold
    have hset : (before ++ first :: old ++ after).set i value = (before ++ [value]) ++ old ++ after := by
      rw [hi, append_assoc, List.set_append_right _ _ le_rfl, Nat.sub_self]
      simp
    rw [writeValues, if_pos (by simp [hi]), hset, ih (by simp [hi]) (by simpa using hold)]
    simp

theorem writeValues_eq {values arr : List Int} (h : values.length ≤ arr.length) :
    writeValues 0 values arr = some (values ++ arr.drop values.length) := by
  have hsplit : arr = [] ++ arr.take values.length ++ arr.drop values.length := by simp
  conv_lhs => rw [hsplit]
  exact writeValues_append rfl (by simp [h])

theorem subtractPrior_eq {front rest : List Int} {prior last : Int} (h : |last - prior| < 2 ^ 31) :
    subtractPrior (front.length + 2) (front ++ [prior, last] ++ rest) =
      some (front ++ [prior, last - prior] ++ rest) := by
  have hlast : (front ++ [prior, last] ++ rest)[front.length + 2 - 1]? = some last := by simp
  have hprior : (front ++ [prior, last] ++ rest)[front.length + 2 - 2]? = some prior := by simp
  have hset : (front ++ [prior, last] ++ rest).set (front.length + 2 - 1) (last - prior) =
      front ++ [prior, last - prior] ++ rest := by
    rw [append_assoc, append_assoc, List.set_append_right _ _ (by omega)]
    simp
  simp only [subtractPrior, hlast, hprior, int32_eq h, hset, bind_eq_bind, bind_some]

def Written (data : CurveData) (n : Nat) (arrX arrY arrX' arrY' : List Int) : Prop :=
  ∃ front prior lastX lastY, front.length + 2 = n ∧ arrX' = front ++ [prior, lastX] ++ arrX.drop n ∧
    arrY' = (front ++ [prior]).map data.getY ++ [lastY] ++ arrY.drop n ∧
    (front ++ [prior]).head? = some 0 ∧ (front ++ [prior]).Pairwise (· < ·) ∧ (∀ x ∈ front ++ [prior], data.minX ∣ x) ∧
    prior + lastX = data.inputRange ∧ data.getY prior + lastY = data.getY data.inputRange

structure Selected (data : CurveData) (a b n : Nat) (e : Extractor) : Prop where
  count : e.selectList.length = n
  distinct : e.points.Nodup
  midpoint : ∀ x ∈ e.points, 0 < x → x < data.inputRange →
    ∃ left right, Dyadic a b left right ∧ left ∈ e.points ∧ right ∈ e.points ∧ 2 * x = left + right

def lastSelected (data : CurveData) (n : Nat) : Option Node := do
  let e ← Extractor.new data
  let e ← e.selectFromCandidate data (n - 3)
  top e.candidateList

variable {e : Extractor}

theorem Invariant.points_sorted (h : Invariant data a b e) : e.points.Pairwise (· < ·) := List.pairwise_map.mpr h.sorted

theorem Invariant.head?_points (h : Invariant data a b e) : e.points.head? = some 0 := by
  have hsorted := h.points_sorted
  have hmem := h.first
  have hgrid := h.grid
  cases hpoints : e.points with
  | nil =>
    rw [hpoints] at hmem
    cases hmem
  | cons first rest =>
    rw [hpoints] at hsorted hmem hgrid
    rcases mem_cons.mp hmem with hfst | hrest
    · rw [hfst]
      rfl
    · have hlt := (pairwise_cons.mp hsorted).1 0 hrest
      have hle := (hgrid first List.mem_cons_self).1
      omega

theorem Invariant.points_eq (h : Invariant data a b e) (hlen : 2 ≤ e.selectList.length) :
    ∃ front prior, e.points = front ++ [prior, 2 ^ a] ∧ front.length + 2 = e.selectList.length := by
  have hcnt : e.points.length = e.selectList.length := length_map _
  obtain hnil | ⟨init, last, hinit⟩ := e.points.eq_nil_or_concat'
  · rw [hnil, List.length_nil] at hcnt
    omega
  obtain rfl | ⟨front, prior, rfl⟩ := init.eq_nil_or_concat'
  · rw [hinit, List.nil_append, List.length_singleton] at hcnt
    omega
  have hlast : last = 2 ^ a := by
    have hsorted := h.points_sorted
    have hmem := h.last
    rw [hinit] at hsorted hmem
    have hle := (h.grid last (by rw [hinit]; simp)).2.1
    rcases List.mem_append.mp hmem with hmem | hmem
    · have hlt := (List.pairwise_append.mp hsorted).2.2 _ hmem last (List.mem_singleton_self _)
      omega
    · exact (mem_singleton.mp hmem).symm
  refine ⟨front, prior, ?_, ?_⟩
  · rw [hinit, hlast, append_assoc]
    rfl
  · rw [hinit] at hcnt
    simpa using hcnt

section
variable {data : CurveData} {a b : Nat} (hdata : data.Valid a b)
include hdata

theorem Invariant.written {e : Extractor} (h : Invariant data a b e) (hlen : 2 ≤ e.selectList.length)
    {arrX arrY : List Int} (hX : e.selectList.length ≤ arrX.length) (hY : e.selectList.length ≤ arrY.length) :
    ∃ arrX' arrY', (do
      let arrX ← writeValues 0 (e.selectList.map Node.curX) arrX
      let arrY ← writeValues 0 (e.selectList.map Node.curY) arrY
      let arrX ← subtractPrior e.selectList.length arrX
      let arrY ← subtractPrior e.selectList.length arrY
      some (e, arrX, arrY)) = some (e, arrX', arrY') ∧ Written data e.selectList.length arrX arrY arrX' arrY' := by
  obtain ⟨front, prior, hpoints, hfront⟩ := h.points_eq hlen
  have hrange := range_le hdata
  have hpriorMem : prior ∈ e.points := by rw [hpoints]; simp
  obtain ⟨hprior0, hpriorLe, -⟩ := h.grid prior hpriorMem
  have hvals : e.selectList.map Node.curY = front.map data.getY ++ [data.getY prior, data.getY (2 ^ a)] := by
    have hmap : e.selectList.map Node.curY = e.points.map data.getY := by
      rw [Extractor.points, List.map_map]
      exact List.map_congr_left h.onCurve
    rw [hmap, hpoints]
    simp
  have hXs : writeValues 0 (e.selectList.map Node.curX) arrX =
      some (front ++ [prior, 2 ^ a] ++ arrX.drop e.selectList.length) := by
    rw [writeValues_eq (by simpa using hX), length_map]
    exact congrArg (fun points => some (points ++ _)) hpoints
  have hYs : writeValues 0 (e.selectList.map Node.curY) arrY =
      some (front.map data.getY ++ [data.getY prior, data.getY (2 ^ a)] ++ arrY.drop e.selectList.length) := by
    rw [writeValues_eq (by simpa using hY), length_map, hvals]
  have hdifferenceX : |(2 : Int) ^ a - prior| < 2 ^ 31 := by
    rw [abs_lt]
    omega
  have hdifferenceY : |data.getY (2 ^ a) - data.getY prior| < 2 ^ 31 := by
    have hy := hdata.getY prior
    have hyLast := hdata.getY (2 ^ a)
    rw [abs_lt] at hy hyLast ⊢
    omega
  have hsubX := @subtractPrior_eq front (arrX.drop e.selectList.length) prior (2 ^ a) hdifferenceX
  have hsubY := @subtractPrior_eq (front.map data.getY) (arrY.drop e.selectList.length) (data.getY prior)
    (data.getY (2 ^ a)) hdifferenceY
  rw [hfront] at hsubX
  rw [length_map, hfront] at hsubY
  refine ⟨front ++ [prior, 2 ^ a - prior] ++ arrX.drop e.selectList.length,
    front.map data.getY ++ [data.getY prior, data.getY (2 ^ a) - data.getY prior] ++ arrY.drop e.selectList.length,
    by simp only [hXs, hYs, hsubX, hsubY, bind_eq_bind, bind_some], ?_⟩
  have hsplit : e.points = front ++ [prior] ++ [2 ^ a] := by
    rw [hpoints]
    simp
  have hmem : ∀ x ∈ front ++ [prior], x ∈ e.points := by
    intro x hx
    rw [hsplit]
    exact List.mem_append_left _ hx
  have hhead : (front ++ [prior]).head? = some 0 := by
    have hhead := h.head?_points
    rwa [hsplit, List.head?_append_of_ne_nil _ (by simp)] at hhead
  have hsorted : (front ++ [prior]).Pairwise (· < ·) := by
    have hsorted := h.points_sorted
    rw [hsplit] at hsorted
    exact (List.pairwise_append.mp hsorted).1
  refine ⟨front, prior, 2 ^ a - prior, data.getY (2 ^ a) - data.getY prior, hfront,
    rfl, by simp, hhead, hsorted, ?_, ?_, ?_⟩
  · intro x hx
    rw [hdata.minX]
    exact (h.grid x (hmem x hx)).2.2
  · rw [hdata.inputRange]
    ring
  · rw [hdata.inputRange]
    ring

end

/-- For every curve and every number of points that the grid has room for, the selection is defined, selects and
writes that many points, and is greedy: what is left in the queue costs no more than what was selected last, but
for the halves of it. -/
theorem kneePoints_spec {data : CurveData} {a b n : Nat} (hdata : data.Valid a b) (hn : 2 ≤ n)
    (hroom : n ≤ 2 ^ (a - b) + 1) {arrX arrY : List Int} (hX : n ≤ arrX.length) (hY : n ≤ arrY.length) :
    ∃ e arrX' arrY', kneePoints data n arrX arrY = some (e, arrX', arrY') ∧ Selected data a b n e ∧
      Written data n arrX arrY arrX' arrY' ∧
      (3 ≤ n → ∃ last, lastSelected data n = some last ∧ Leaves last e.candidateList) := by
  obtain ⟨start, hstart, hinv, hcnt⟩ := Invariant.new hdata
  obtain ⟨e, hrun, he, hlen⟩ := hinv.selectFromCandidate hdata (show start.selectList.length + (n - 2) ≤ _ by omega)
  obtain rfl : n = e.selectList.length := by omega
  obtain ⟨arrX', arrY', hwrite, hwritten⟩ := he.written hdata hn hX hY
  refine ⟨e, arrX', arrY', ?_, ⟨rfl, ?_, ?_⟩, hwritten, fun hthree => ?_⟩
  · have hrounds : ((e.selectList.length : Int) - 2).toNat = e.selectList.length - 2 := by omega
    simp only [kneePoints, hstart, Extractor.select, hrounds, hrun, bind_eq_bind, bind_some]
    exact hwrite
  · exact he.points_sorted.imp ne_of_lt
  · rw [hdata.inputRange]
    exact he.midpoint
  · obtain ⟨before, hbefore, hlast⟩ := selectFromCandidate_succ
      (show start.selectFromCandidate data (e.selectList.length - 3 + 1) = some e by
        rw [show e.selectList.length - 3 + 1 = e.selectList.length - 2 by omega]
        exact hrun)
    obtain ⟨before', hbefore', hinvBefore, hlenBefore⟩ :=
      hinv.selectFromCandidate hdata (show start.selectList.length + (e.selectList.length - 3) ≤ _ by omega)
    obtain rfl := Option.some.inj (hbefore.symm.trans hbefore')
    obtain ⟨last, e', htop, hstep, -, -, hleaves⟩ :=
      hinvBefore.step hdata (hinvBefore.candidateList_ne_nil hdata.lt (by omega))
    obtain rfl := Option.some.inj (hlast.symm.trans hstep)
    refine ⟨last, ?_, hleaves⟩
    simp only [lastSelected, hstart, hbefore, bind_eq_bind, bind_some]
    exact htop

def peak : CurveData := { getY := fun x => if x = 1 then 4 else 0, inputRange := 2 ^ 2, minX := 2 ^ 0 }

theorem peak_valid : peak.Valid 2 0 := by
  refine ⟨fun x => ?_, rfl, rfl, by decide, by decide⟩
  unfold peak
  dsimp only
  split <;> decide

theorem kneePoints_spec_peak : ∃ e arrX' arrY', kneePoints peak 3 [9, 9, 9, 9] [9, 9, 9, 9] = some (e, arrX', arrY') ∧
    Selected peak 2 0 3 e ∧ Written peak 3 [9, 9, 9, 9] [9, 9, 9, 9] arrX' arrY' ∧
    (3 ≤ 3 → ∃ last, lastSelected peak 3 = some last ∧ Leaves last e.candidateList) :=
  kneePoints_spec peak_valid (by decide) (by decide) (by decide) (by decide)

/-- The first half of the domain costs more than the whole, and stays in the queue when that has been selected. -/
theorem not_cheapest_peak : ¬∀ (data : CurveData) (a b n : Nat) (arrX arrY : List Int), data.Valid a b → 2 ≤ n →
    n ≤ 2 ^ (a - b) + 1 → n ≤ arrX.length → n ≤ arrY.length →
    ∃ e arrX' arrY', kneePoints data n arrX arrY = some (e, arrX', arrY') ∧ Selected data a b n e ∧
      Written data n arrX arrY arrX' arrY' ∧
      ∀ last, lastSelected data n = some last → ∀ c ∈ e.candidateList, c.cost ≤ last.cost := by
  intro h
  obtain ⟨e, arrX', arrY', hrun, -, -, hcheapest⟩ :=
    h peak 2 0 3 [9, 9, 9] [9, 9, 9] peak_valid (by decide) (by decide) (by decide) (by decide)
  have hlast : lastSelected peak 3 = some ⟨0, 0, 4, 0, 2, 0, 4, 0, 4⟩ := by decide
  have hleft : ⟨0, 0, 2, 0, 1, 4, 4, 4, 12⟩ ∈ e.candidateList := by
    have hqueue : (kneePoints peak (3 : Nat) [9, 9, 9] [9, 9, 9]).map (fun r => r.1.candidateList) =
        some [⟨2, 0, 4, 0, 3, 0, 0, 0, 0⟩, ⟨0, 0, 2, 0, 1, 4, 4, 4, 12⟩] := by decide
    rw [hrun] at hqueue
    rw [show e.candidateList = _ from Option.some.inj hqueue]
    decide
  exact absurd (hcheapest _ hlast _ hleft) (by decide)

end ExynosHal.Hdr.KneePoints
