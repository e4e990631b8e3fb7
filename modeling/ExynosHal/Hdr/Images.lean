import ExynosHal.Hdr.Queue

/-! # What is sent for a node

Queueing, pushing the groups and `clean_duplicate` leave one entry for every (offset, length, group).
-/

namespace ExynosHal.Hdr
open Library.Run
open List (append_nil filter_append foldlM_cons lookup_cons mem_append mem_singleton)
open Option (isSome_iff_exists map_eq_some_iff)

namespace DatNode

def registers (node : DatNode) : U32 × U32 × Int := (node.header.byteOffset, node.header.length, node.groupId)

def word (node : DatNode) (i : Nat) : Option U32 := do
  let data ← node.data
  (data[i]?).join

theorem merge_spec {node op merged : DatNode} (hhdr : node.header = op.header) (hdata : node.data.isSome)
    (h : node.merge op = some merged) :
    merged.header = node.header ∧ merged.groupId = node.groupId ∧ merged.data.isSome ∧
      ∀ i, merged.word i = (node.word i).bind fun a => (op.word i).map (a ||| ·) := by
  obtain ⟨data, hdata⟩ := isSome_iff_exists.mp hdata
  rw [merge, if_pos hhdr, hdata] at h
  obtain ⟨opData, hopData, h⟩ := unbind h
  obtain ⟨⟨hlen, hopLen⟩, h⟩ := Option.ite_none_right_eq_some.mp h
  cases h
  refine ⟨rfl, rfl, rfl, fun i => ?_⟩
  simp only [word, hdata, hopData, Option.bind_eq_bind, Option.bind_some, List.getElem?_zipWith]
  cases hword : data[i]? with
  | none => simp
  | some a =>
    obtain ⟨hi, -⟩ := List.getElem?_eq_some_iff.mp hword
    obtain ⟨b, hopWord⟩ : ∃ b, opData[i]? = some b := ⟨_, List.getElem?_eq_getElem (by omega)⟩
    rw [hopWord]
    cases a <;> cases b <;> simp [orWord]

end DatNode

def imageWord (nodes : List DatNode) (i : Nat) : Option U32 :=
  (nodes.mapM fun node : DatNode => node.word i).map fun words => words.foldl (· ||| ·) 0

theorem imageWord_singleton (node : DatNode) (i : Nat) : imageWord [node] i = node.word i := by
  cases hword : node.word i <;> simp [imageWord, hword]

theorem imageWord_concat (nodes : List DatNode) (node : DatNode) (i : Nat) :
    imageWord (nodes ++ [node]) i = (imageWord nodes i).bind fun a => (node.word i).map (a ||| ·) := by
  unfold imageWord
  rw [List.mapM_append]
  cases nodes.mapM fun node : DatNode => node.word i with
  | none => rfl
  | some words => cases hword : node.word i <;> simp [hword]

variable {nodes : List DatNode} {i : Nat}

theorem imageWord_eq_some (h : ∀ node ∈ nodes, (node.word i).isSome) : ∃ word, imageWord nodes i = some word ∧
      ∀ b, word.getLsbD b ↔ ∃ node ∈ nodes, ((node.word i).getD 0).getLsbD b := by
  induction nodes using List.reverseRecOn with
  | nil => exact ⟨0, rfl, by simp⟩
  | append_singleton nodes node ih =>
    obtain ⟨word, hword, hbits⟩ := ih fun other hother => h other (List.mem_append_left _ hother)
    obtain ⟨last, hlast⟩ := isSome_iff_exists.mp (h node (by simp))
    refine ⟨word ||| last, by rw [imageWord_concat, hword, hlast]; rfl, fun b => ?_⟩
    rw [BitVec.getLsbD_or, Bool.or_eq_true, hbits]
    simp only [mem_append, mem_singleton, or_and_right, exists_or, exists_eq_left, hlast, Option.getD_some]

theorem isSome_of_imageWord {word : U32} (h : imageWord nodes i = some word) :
    ∀ node ∈ nodes, (node.word i).isSome := by
  induction nodes using List.reverseRecOn generalizing word with
  | nil => nofun
  | append_singleton nodes node ih =>
    rw [imageWord_concat] at h
    obtain ⟨a, ha, h⟩ := unbind h
    obtain ⟨b, hb, -⟩ := map_eq_some_iff.mp h
    intro other hother
    rcases mem_append.mp hother with hother | hother
    · exact ih ha other hother
    · rw [mem_singleton.mp hother, hb]
      rfl

def sharing (nodes : List DatNode) (node : DatNode) : List DatNode :=
  if node.groupId < 0 then ((nodes.filter fun other => other.registers = node.registers).getLast?).toList
  else nodes.filter fun other => other.groupId = node.groupId

namespace Lists

def nodeOf : Ref → Option DatNode
  | .node n => some n
  | .group _ => none

structure ImageOf (nodes : List DatNode) (id : Int) (image : DatNode) : Prop where
  groupId : image.groupId = id
  data : image.data.isSome
  nonempty : ∃ node ∈ nodes, node.groupId = id
  header : ∀ node ∈ nodes, node.groupId = id → node.header = image.header
  word : ∀ i, image.word i = imageWord (nodes.filter fun node => node.groupId = id) i

structure Holds (nodes : List DatNode) (lists : Lists) : Prop where
  own : lists.shall.filterMap nodeOf = nodes.filter fun node => node.groupId < 0
  group : ∀ id, .group id ∈ lists.shall → 0 ≤ id
  image : ∀ id image, lists.group.lookup id = some image → 0 ≤ id ∧ ImageOf nodes id image
  queued : ∀ node ∈ nodes, 0 ≤ node.groupId → ∃ image, lists.group.lookup node.groupId = some image

def GroupsAgree (nodes : List DatNode) : Prop :=
  ∀ node ∈ nodes, ∀ other ∈ nodes, 0 ≤ node.groupId → node.groupId = other.groupId → node.header = other.header

variable (lists : Lists)

theorem lookup_setGroup (id : Int) (image : DatNode) (other : Int) : (lists.setGroup id image).group.lookup other =
      (lists.group.lookup other).map fun old => if other = id then image else old := by
  unfold setGroup
  dsimp only
  induction lists.group with
  | nil => rfl
  | cons entry group ih =>
    obtain ⟨key, old⟩ := entry
    have hentry : (if key = id then (id, image) else (key, old)) = (key, if key = id then image else old) := by
      split <;> simp_all
    rw [List.map_cons, hentry, lookup_cons, lookup_cons]
    by_cases hkey : other = key
    · rw [beq_iff_eq.mpr hkey, hkey]
      rfl
    · rw [beq_false_of_ne hkey]
      exact ih

section
variable {nodes : List DatNode} {lists lists' : Lists}

theorem Holds.empty : Holds [] {} := by
  refine ⟨rfl, nofun, ?_, nofun⟩
  intro id image h
  cases h

variable {order : List Int → List Int}

theorem Holds.pushGroups (h : Holds nodes lists) (horder : ∀ ids, (order ids).Perm ids) :
    Holds nodes (lists.pushGroups order) := by
  refine ⟨?_, fun id hid => ?_, h.image, h.queued⟩
  · have hgroups : ((order (lists.group.map Prod.fst)).map Ref.group).filterMap nodeOf = [] := by
      rw [List.filterMap_map, List.filterMap_eq_nil_iff]
      exact fun _ _ => rfl
    show (lists.shall ++ _).filterMap nodeOf = _
    rw [List.filterMap_append, hgroups, append_nil, h.own]
  · rcases mem_append.mp hid with hid | hid
    · exact h.group id hid
    · obtain ⟨id', hid', heq⟩ := List.mem_map.mp hid
      cases heq
      obtain ⟨entry, hentry, rfl⟩ := List.mem_map.mp ((horder _).mem_iff.mp hid')
      obtain ⟨image, himage⟩ : ∃ image, lists.group.lookup entry.1 = some image := by
        rw [← isSome_iff_exists, List.lookup_isSome_iff]
        exact ⟨entry, hentry, by simp⟩
      exact (h.image _ image himage).1

variable {node : DatNode} {p : DatNode → Bool}

theorem filter_concat_of_neg (h : p node = false) : (nodes ++ [node]).filter p = nodes.filter p := by
  rw [filter_append, List.filter_cons_of_neg (by simp [h]), List.filter_nil, append_nil]

theorem filter_concat_of_pos (h : p node = true) : (nodes ++ [node]).filter p = nodes.filter p ++ [node] := by
  rw [filter_append, List.filter_cons_of_pos h, List.filter_nil]

variable {id : Int}

theorem ImageOf.concat {image node : DatNode} (h : ImageOf nodes id image) (hne : node.groupId ≠ id) :
    ImageOf (nodes ++ [node]) id image where
  groupId := h.groupId
  data := h.data
  nonempty := by
    obtain ⟨n, hn, hid⟩ := h.nonempty
    exact ⟨n, List.mem_append_left _ hn, hid⟩
  header n hn hid := by
    rcases mem_append.mp hn with hn | hn
    · exact h.header n hn hid
    · rw [mem_singleton.mp hn] at hid
      exact absurd hid hne
  word i := by rw [h.word, filter_concat_of_neg (by simpa using hne)]

theorem ImageOf.merge {image node merged : DatNode} (h : ImageOf nodes id image)
    (hagree : GroupsAgree (nodes ++ [node])) (hid : node.groupId = id) (hpos : 0 ≤ id)
    (hmerged : image.merge node = some merged) : ImageOf (nodes ++ [node]) id merged := by
  have hnode : image.header = node.header := by
    obtain ⟨n, hn, hnid⟩ := h.nonempty
    rw [← h.header n hn hnid]
    exact hagree n (List.mem_append_left _ hn) node (by simp) (by omega) (by omega)
  obtain ⟨hhdr, hgroupId, hdata, hword⟩ := DatNode.merge_spec hnode h.data hmerged
  refine ⟨hgroupId.trans h.groupId, hdata, ⟨node, by simp, hid⟩, fun n hn hnid => ?_, fun i => ?_⟩
  · rw [hhdr]
    rcases mem_append.mp hn with hn | hn
    · exact h.header n hn hnid
    · rw [mem_singleton.mp hn, hnode]
  · rw [hword, h.word, filter_concat_of_pos (by simpa using hid), imageWord_concat]

theorem ImageOf.first (hnone : ∀ n ∈ nodes, n.groupId ≠ node.groupId) (hdata : node.data.isSome) :
    ImageOf (nodes ++ [node]) node.groupId node := by
  have hempty : nodes.filter (fun n => n.groupId = node.groupId) = [] := by
    rw [List.filter_eq_nil_iff]
    exact fun n hn => by simpa using hnone n hn
  refine ⟨rfl, hdata, ⟨node, by simp, rfl⟩, fun n hn hid => ?_, fun i => ?_⟩
  · rcases mem_append.mp hn with hn | hn
    · exact absurd hid (hnone n hn)
    · rw [mem_singleton.mp hn]
  · rw [filter_concat_of_pos (by simp), hempty, List.nil_append, imageWord_singleton]

theorem Holds.queueAndGroup (h : Holds nodes lists) (hagree : GroupsAgree (nodes ++ [node]))
    (hqueue : lists.queueAndGroup node = some lists') : Holds (nodes ++ [node]) lists' := by
  -- What is said of the images, given the group that changes.
  have himages : ∀ (group : List (Int × DatNode)) (image : DatNode),
      (∀ id, group.lookup id = if id = node.groupId then some image else lists.group.lookup id) → 0 ≤ node.groupId →
      ImageOf (nodes ++ [node]) node.groupId image →
      (∀ id image, group.lookup id = some image → 0 ≤ id ∧ ImageOf (nodes ++ [node]) id image) ∧
        ∀ n ∈ nodes ++ [node], 0 ≤ n.groupId → ∃ image, group.lookup n.groupId = some image := by
    intro group image hlookup hpos himage
    constructor
    · intro id found hfound
      rw [hlookup] at hfound
      split at hfound
      · rename_i hid
        cases hfound
        rw [hid]
        exact ⟨hpos, himage⟩
      · rename_i hid
        obtain ⟨hidPos, hfoundImage⟩ := h.image id found hfound
        exact ⟨hidPos, hfoundImage.concat (Ne.symm hid)⟩
    · intro n hn hnPos
      rw [hlookup]
      split
      · exact ⟨image, rfl⟩
      · rename_i hid
        rcases mem_append.mp hn with hn | hn
        · exact h.queued n hn hnPos
        · rw [mem_singleton.mp hn] at hid
          exact absurd rfl hid
  rcases queueAndGroup_cases hqueue with
    ⟨hneg, rfl⟩ | ⟨image, merged, himage, hmerged, rfl⟩ | ⟨⟨hpos, hnone⟩, hdata, rfl⟩
  · refine ⟨?_, fun id hid => ?_, fun id image himage => ?_, fun n hn hpos => ?_⟩
    · rw [List.filterMap_append, h.own, filter_concat_of_pos (by simpa using hneg)]
      rfl
    · rcases mem_append.mp hid with hid | hid
      · exact h.group id hid
      · cases mem_singleton.mp hid
    · obtain ⟨hid, hof⟩ := h.image id image himage
      exact ⟨hid, hof.concat (by omega)⟩
    · rcases mem_append.mp hn with hn | hn
      · exact h.queued n hn hpos
      · rw [mem_singleton.mp hn] at hpos
        omega
  · obtain ⟨hpos, hof⟩ := h.image _ image himage
    have hlookup : ∀ id, (lists.setGroup node.groupId merged).group.lookup id =
        if id = node.groupId then some merged else lists.group.lookup id := by
      intro id
      rw [lookup_setGroup]
      by_cases hid : id = node.groupId
      · rw [if_pos hid, hid, himage]
        simp
      · simp [hid]
    obtain ⟨hall, hqueued⟩ := himages _ merged hlookup hpos (hof.merge hagree rfl hpos hmerged)
    refine ⟨?_, h.group, hall, hqueued⟩
    rw [filter_concat_of_neg (by simpa using hpos)]
    exact h.own
  · have hlookup : ∀ id, (lists.group ++ [(node.groupId, node)]).lookup id =
        if id = node.groupId then some node else lists.group.lookup id := by
      intro id
      rw [List.lookup_append]
      by_cases hid : id = node.groupId
      · rw [if_pos hid, hid, hnone, Option.none_or, List.lookup_cons_self]
      · rw [if_neg hid, lookup_cons, beq_false_of_ne hid, List.lookup_nil, Option.or_none]
    have hfst : ∀ n ∈ nodes, n.groupId ≠ node.groupId := by
      intro n hn hid
      obtain ⟨image, himage⟩ := h.queued n hn (by omega)
      rw [hid, hnone] at himage
      cases himage
    obtain ⟨hall, hqueued⟩ := himages _ node hlookup hpos (.first hfst hdata)
    refine ⟨?_, h.group, hall, hqueued⟩
    rw [filter_concat_of_neg (by simpa using hpos)]
    exact h.own


theorem GroupsAgree.mono {nodes' : List DatNode} (h : GroupsAgree nodes') (hsub : nodes ⊆ nodes') : GroupsAgree nodes :=
  fun node hnode other hother => h node (hsub hnode) other (hsub hother)

theorem Holds.queueAll (h : Holds nodes lists) {queued : List DatNode} (hagree : GroupsAgree (nodes ++ queued))
    (hqueue : lists.queueAll queued = some lists') : Holds (nodes ++ queued) lists' := by
  induction queued generalizing nodes lists with
  | nil =>
    cases hqueue
    rwa [append_nil]
  | cons node queued ih =>
    rw [Lists.queueAll, foldlM_cons] at hqueue
    obtain ⟨next, hnext, hqueue⟩ := unbind hqueue
    rw [List.append_cons] at hagree ⊢
    exact ih (h.queueAndGroup (hagree.mono (List.subset_append_left _ _)) hnext) hagree hqueue

end

def queueStages (order : List Int → List Int) (stages : List (List DatNode)) (lists : Lists) : Option Lists :=
  stages.foldlM (fun lists nodes => (lists.queueAll nodes).map (pushGroups order)) lists

section
variable {order : List Int → List Int} (horder : ∀ ids, (order ids).Perm ids)
include horder

variable {stages : List (List DatNode)}

theorem Holds.queueStages {nodes : List DatNode} {lists lists' : Lists} (h : Holds nodes lists)
    (hagree : GroupsAgree (nodes ++ stages.flatten))
    (hqueue : lists.queueStages order stages = some lists') : Holds (nodes ++ stages.flatten) lists' := by
  induction stages generalizing nodes lists with
  | nil =>
    cases hqueue
    rwa [List.flatten_nil, append_nil]
  | cons stage stages ih =>
    rw [Lists.queueStages, foldlM_cons] at hqueue
    obtain ⟨next, hnext, hqueue⟩ := unbind hqueue
    obtain ⟨queued, hqueued, rfl⟩ := map_eq_some_iff.mp hnext
    rw [List.flatten_cons, ← List.append_assoc] at hagree ⊢
    have hstage := h.queueAll (hagree.mono (List.subset_append_left _ _)) hqueued
    exact ih (hstage.pushGroups horder) hagree hqueue

end

theorem queueStages_pushed {lists lists' : Lists}
    (h : lists.queueStages order stages = some lists') (hstages : stages ≠ []) :
    ∃ last : Lists, lists' = last.pushGroups order := by
  obtain ⟨init, stage, rfl⟩ := stages.eq_nil_or_concat'.resolve_left hstages
  rw [queueStages, List.foldlM_append] at h
  obtain ⟨before, -, h⟩ := unbind h
  rw [foldlM_cons] at h
  obtain ⟨next, hnext, h⟩ := unbind h
  obtain ⟨last, -, rfl⟩ := map_eq_some_iff.mp hnext
  cases h
  exact ⟨last, rfl⟩

section
variable {α κ : Type} [DecidableEq κ] (key : α → κ) {x : α}

theorem exists_last {xs : List α} (h : x ∈ xs) :
    ∃ before last after, xs = before ++ last :: after ∧ key last = key x ∧ ∀ other ∈ after, key other ≠ key x := by
  induction xs using List.reverseRecOn with
  | nil => cases h
  | append_singleton xs y ih =>
    by_cases hy : key y = key x
    · exact ⟨xs, y, [], rfl, hy, nofun⟩
    · have hx : x ∈ xs := by
        rcases mem_append.mp h with h | h
        · exact h
        · rw [mem_singleton.mp h] at hy
          exact absurd rfl hy
      obtain ⟨before, last, after, rfl, hlast, hafter⟩ := ih hx
      refine ⟨before, last, after ++ [y], by simp, hlast, fun other hother => ?_⟩
      rcases mem_append.mp hother with hother | hother
      · exact hafter other hother
      · rw [mem_singleton.mp hother]
        exact hy

theorem mem_pwFilter_of_last {before after : List α} (hlast : ∀ other ∈ after, key other ≠ key x) :
    x ∈ (before ++ x :: after).pwFilter fun a b => key a ≠ key b := by
  induction before with
  | nil =>
    rw [List.nil_append, List.pwFilter_cons_of_pos]
    · exact List.mem_cons_self
    · exact fun other hother => Ne.symm (hlast other (List.pwFilter_subset _ hother))
  | cons first before ih =>
    rw [List.cons_append]
    by_cases hfst : ∀ other ∈ (before ++ x :: after).pwFilter (fun a b => key a ≠ key b), key first ≠ key other
    · rw [List.pwFilter_cons_of_pos hfst]
      exact List.mem_cons_of_mem _ ih
    · rw [List.pwFilter_cons_of_neg hfst]
      exact ih

end

theorem registers_nodup : (lists.cleanDuplicate.shall.map lists.registers).Nodup :=
  List.pairwise_map.mpr (List.pairwise_pwFilter _)

section
variable {nodes : List DatNode} {lists : Lists} {node : DatNode}

theorem Holds.deref (h : Holds nodes lists) {r : Ref} (hderef : lists.deref r = some node) :
    (∃ id, r = .group id ∧ 0 ≤ id ∧ ImageOf nodes id node) ∨ r = .node node := by
  cases r with
  | node n =>
    cases hderef
    exact .inr rfl
  | group id =>
    obtain ⟨hpos, hof⟩ := h.image id node hderef
    exact .inl ⟨id, rfl, hpos, hof⟩

theorem Holds.sent (h : Holds nodes lists) (hpush : ∀ id image, lists.group.lookup id = some image →
    .group id ∈ lists.shall) (hnode : node ∈ nodes) :
    ∃ r ∈ lists.cleanDuplicate.shall, ∃ sent, lists.deref r = some sent ∧ lists.registers r = some node.registers ∧
      ∀ i, sent.word i = imageWord (sharing nodes node) i := by
  by_cases hneg : node.groupId < 0
  · obtain ⟨before, last, after, hnodes, hlast, hafter⟩ := exists_last DatNode.registers hnode
    have hlastNeg : last.groupId < 0 := by
      have hgroupId : last.groupId = node.groupId := congrArg (fun registers => registers.2.2) hlast
      omega
    have hsharing : sharing nodes node = [last] := by
      have hnone : after.filter (fun other => other.registers = node.registers) = [] := by
        rw [List.filter_eq_nil_iff]
        exact fun other hother => by simpa using hafter other hother
      rw [sharing, if_pos hneg, hnodes, filter_append, List.filter_cons_of_pos (by simpa using hlast), hnone,
        List.getLast?_append_of_ne_nil _ (by simp)]
      rfl
    have hown := h.own
    rw [hnodes, filter_append, List.filter_cons_of_pos (by simpa using hlastNeg)] at hown
    obtain ⟨front, rest, hshall, -, hrest⟩ := List.filterMap_eq_append_iff.mp hown
    obtain ⟨skipped, r, behind, rfl, hskipped, hr, hbehind⟩ := List.filterMap_eq_cons_iff.mp hrest
    obtain rfl : r = .node last := by
      cases r with
      | node n => rw [Option.some.inj hr]
      | group id => cases hr
    have hregs : lists.registers (.node last) = some node.registers := congrArg some hlast
    refine ⟨.node last, ?_, last, rfl, hregs, fun i => by rw [hsharing, imageWord_singleton]⟩
    unfold cleanDuplicate
    rw [hshall, ← List.append_assoc]
    refine mem_pwFilter_of_last lists.registers fun other hother heq => ?_
    rw [hregs] at heq
    obtain ⟨sent, hderef, hsent⟩ := map_eq_some_iff.mp heq
    rcases h.deref hderef with ⟨id, rfl, hpos, hof⟩ | rfl
    · -- The image of a group has a group.
      have hgroupId : sent.groupId = node.groupId := congrArg (fun registers => registers.2.2) hsent
      rw [hof.groupId] at hgroupId
      omega
    · have hmem : sent ∈ behind.filterMap nodeOf := List.mem_filterMap.mpr ⟨.node sent, hother, rfl⟩
      rw [hbehind] at hmem
      exact hafter sent (List.mem_filter.mp hmem).1 hsent
  · obtain ⟨image, himage⟩ := h.queued node hnode (not_lt.mp hneg)
    obtain ⟨-, hof⟩ := h.image _ image himage
    have hregs : lists.registers (.group node.groupId) = some node.registers := by
      rw [registers, Lists.deref, himage, Option.map_some, DatNode.registers, hof.header node hnode rfl, hof.groupId]
    obtain ⟨before, last, after, hshall, hlast, hafter⟩ :=
      exists_last lists.registers (hpush node.groupId image himage)
    have hmem : last ∈ lists.cleanDuplicate.shall := by
      unfold cleanDuplicate
      rw [hshall]
      exact mem_pwFilter_of_last lists.registers fun other hother => by rw [hlast]; exact hafter other hother
    rw [hregs] at hlast
    obtain ⟨sent, hderef, hsent⟩ := map_eq_some_iff.mp hlast
    have hgroupId : sent.groupId = node.groupId := congrArg (fun registers => registers.2.2) hsent
    refine ⟨last, hmem, sent, hderef, hlast, fun i => ?_⟩
    rcases h.deref hderef with ⟨id, rfl, -, hof'⟩ | rfl
    · rw [hof'.word, sharing, if_neg hneg, ← hgroupId, hof'.groupId]
    · -- A node without a group is not sent in the place of an image.
      have hown : sent ∈ lists.shall.filterMap nodeOf := List.mem_filterMap.mpr ⟨.node sent, by rw [hshall]; simp, rfl⟩
      rw [h.own, List.mem_filter] at hown
      exact absurd (hgroupId ▸ of_decide_eq_true hown.2) hneg

end

end Lists

end ExynosHal.Hdr
