import ExynosHal.Hdr.Implementation
import ExynosHal.Library.Run

/-! # What queueing keeps

Two facts hold of the lists of a layer whatever is queued: a property of nodes that
merging respects passes from the queued nodes to everything the lists hold, and every
reference to a group resolves.
-/

namespace ExynosHal.Hdr
open Library.Run
open List (mem_append mem_map mem_singleton)

theorem mem_of_lookup_table {κ α : Type} [BEq κ] [LawfulBEq κ] {table : List (κ × α)} {key : κ} {value : α}
    (h : table.lookup key = some value) : (key, value) ∈ table := by
  obtain ⟨before, after, heq, -⟩ := List.lookup_eq_some_iff.mp h
  rw [heq]
  exact List.mem_append_right _ List.mem_cons_self

namespace Lists

structure Each (Q : DatNode → Prop) (lists : Lists) : Prop where
  shall : ∀ n, .node n ∈ lists.shall → Q n
  need : ∀ n, .node n ∈ lists.need → Q n
  group : ∀ entry ∈ lists.group, Q entry.2

structure Resolves (lists : Lists) : Prop where
  shall : ∀ id, .group id ∈ lists.shall → id ∈ lists.group.map Prod.fst
  need : ∀ id, .group id ∈ lists.need → id ∈ lists.group.map Prod.fst

variable {node : DatNode}

theorem queueAndGroup_cases {lists lists' : Lists} (h : lists.queueAndGroup node = some lists') :
    node.groupId < 0 ∧ lists' = { lists with shall := lists.shall ++ [.node node] } ∨
    (∃ image merged, lists.group.lookup node.groupId = some image ∧ image.merge node = some merged ∧
      lists' = lists.setGroup node.groupId merged) ∨
    ((0 ≤ node.groupId ∧ lists.group.lookup node.groupId = none) ∧ node.data.isSome ∧
      lists' = { lists with group := lists.group ++ [(node.groupId, node)] }) := by
  simp only [queueAndGroup] at h
  split at h
  · rename_i hneg
    exact .inl ⟨hneg, (Option.some.inj h).symm⟩
  · rename_i hnonneg
    split at h
    · rename_i image himage
      obtain ⟨merged, hmerged, h⟩ := unbind h
      exact .inr (.inl ⟨image, merged, himage, hmerged, (Option.some.inj h).symm⟩)
    · rename_i hnone
      obtain ⟨image, himage, h⟩ := unbind h
      simp only [DatNode.assign, Option.map_eq_some_iff] at himage
      obtain ⟨data, hdata, rfl⟩ := himage
      exact .inr (.inr ⟨⟨not_lt.mp hnonneg, hnone⟩, by rw [hdata]; rfl, (Option.some.inj h).symm⟩)

theorem keys_setGroup (lists : Lists) (id : Int) (image : DatNode) :
    (lists.setGroup id image).group.map Prod.fst = lists.group.map Prod.fst := by
  simp only [setGroup, List.map_map]
  apply List.map_congr_left
  intro entry _
  dsimp only [Function.comp_apply]
  split
  · rename_i heq
    exact heq.symm
  · rfl

section
variable {Q : DatNode → Prop} {lists lists' : Lists}

theorem Each.queueAndGroup (hmerge : ∀ a b c, Q a → Q b → a.merge b = some c → Q c)
    (h : lists.Each Q) (hnode : Q node) (hqueue : lists.queueAndGroup node = some lists') : lists'.Each Q := by
  rcases queueAndGroup_cases hqueue with ⟨-, rfl⟩ | ⟨image, merged, himage, hmerged, rfl⟩ | ⟨-, -, rfl⟩
  · refine ⟨fun n hn => ?_, h.need, h.group⟩
    rcases mem_append.mp hn with hn | hn
    · exact h.shall n hn
    · cases mem_singleton.mp hn
      exact hnode
  · refine ⟨h.shall, h.need, fun entry hentry => ?_⟩
    obtain ⟨old, hold, rfl⟩ := mem_map.mp hentry
    split
    · exact hmerge image node merged (h.group _ (mem_of_lookup_table himage)) hnode hmerged
    · exact h.group old hold
  · refine ⟨h.shall, h.need, fun entry hentry => ?_⟩
    rcases mem_append.mp hentry with hentry | hentry
    · exact h.group entry hentry
    · cases mem_singleton.mp hentry
      exact hnode

theorem Each.queueAll (hmerge : ∀ a b c, Q a → Q b → a.merge b = some c → Q c) {nodes : List DatNode}
    (h : lists.Each Q) (hnodes : ∀ n ∈ nodes, Q n) (hqueue : lists.queueAll nodes = some lists') : lists'.Each Q :=
  foldlM_keeps (P := Each Q) (fun _ _ node hmem hlists hnext => hlists.queueAndGroup hmerge (hnodes node hmem) hnext)
    h hqueue

theorem Each.pushGroups (h : lists.Each Q) (order : List Int → List Int) : (lists.pushGroups order).Each Q := by
  refine ⟨fun n hn => ?_, h.need, h.group⟩
  rcases mem_append.mp hn with hn | hn
  · exact h.shall n hn
  · obtain ⟨id, -, hid⟩ := mem_map.mp hn
    cases hid

theorem Each.transfer (h : lists.Each Q) : lists.transfer.Each Q := by
  refine ⟨fun n hn => ?_, fun n hn => ?_, h.group⟩
  · cases hn
  · rcases mem_append.mp hn with hn | hn
    · exact h.need n hn
    · exact h.shall n hn

theorem Each.cleanDuplicate (h : lists.Each Q) : lists.cleanDuplicate.Each Q :=
  ⟨fun n hn => h.shall n (List.pwFilter_subset _ hn), h.need, h.group⟩

theorem Each.empty (Q : DatNode → Prop) : ({} : Lists).Each Q := by
  refine ⟨?_, ?_, ?_⟩ <;> intro _ h <;> cases h

theorem Each.deref (h : lists.Each Q) {refs : List Ref} (hrefs : ∀ n, .node n ∈ refs → Q n) {n : DatNode}
    (hn : n ∈ refs.filterMap lists.deref) : Q n := by
  obtain ⟨r, hr, hderef⟩ := List.mem_filterMap.mp hn
  cases r with
  | node m =>
    cases hderef
    exact hrefs n hr
  | group id => exact h.group _ (mem_of_lookup_table hderef)

theorem Each.nodes (h : lists.Each Q) {n : DatNode} (hn : n ∈ lists.shallNodes ++ lists.needNodes) : Q n := by
  rcases mem_append.mp hn with hn | hn
  · exact h.deref h.shall hn
  · exact h.deref h.need hn

end

section
variable {lists lists' : Lists}

section
variable (h : lists.Resolves)
include h

theorem Resolves.queueAndGroup
    (hqueue : lists.queueAndGroup node = some lists') : lists'.Resolves := by
  rcases queueAndGroup_cases hqueue with ⟨-, rfl⟩ | ⟨image, merged, -, -, rfl⟩ | ⟨-, -, rfl⟩
  · refine ⟨fun id hid => ?_, h.need⟩
    rcases mem_append.mp hid with hid | hid
    · exact h.shall id hid
    · cases mem_singleton.mp hid
  · constructor
    · intro id hid
      rw [keys_setGroup]
      exact h.shall id hid
    · intro id hid
      rw [keys_setGroup]
      exact h.need id hid
  · constructor
    · intro id hid
      rw [List.map_append]
      exact List.mem_append_left _ (h.shall id hid)
    · intro id hid
      rw [List.map_append]
      exact List.mem_append_left _ (h.need id hid)

theorem Resolves.queueAll {nodes : List DatNode} (hqueue : lists.queueAll nodes = some lists') : lists'.Resolves :=
  foldlM_keeps (P := Resolves) (fun _ _ _ _ hlists hnext => hlists.queueAndGroup hnext) h hqueue

theorem Resolves.pushGroups {order : List Int → List Int}
    (horder : ∀ ids, (order ids).Perm ids) : (lists.pushGroups order).Resolves := by
  refine ⟨fun id hid => ?_, h.need⟩
  rcases mem_append.mp hid with hid | hid
  · exact h.shall id hid
  · obtain ⟨id', hid', heq⟩ := mem_map.mp hid
    cases heq
    exact (horder _).mem_iff.mp hid'

theorem Resolves.transfer : lists.transfer.Resolves := by
  refine ⟨fun id hid => ?_, fun id hid => ?_⟩
  · cases hid
  · rcases mem_append.mp hid with hid | hid
    · exact h.need id hid
    · exact h.shall id hid

theorem Resolves.cleanDuplicate : lists.cleanDuplicate.Resolves :=
  ⟨fun id hid => h.shall id (List.pwFilter_subset _ hid), h.need⟩

end

theorem Resolves.empty : ({} : Lists).Resolves := by
  refine ⟨?_, ?_⟩ <;> intro _ h <;> cases h

theorem length_deref {refs : List Ref} (h : ∀ id, .group id ∈ refs → id ∈ lists.group.map Prod.fst) :
    (refs.filterMap lists.deref).length = refs.length := by
  rw [List.filterMap_length_eq_length]
  intro r hr
  cases r with
  | node n => rfl
  | group id =>
    obtain ⟨entry, hentry, rfl⟩ := mem_map.mp (h id hr)
    simp only [deref, List.lookup_isSome_iff, beq_iff_eq]
    exact ⟨entry, hentry, rfl⟩

theorem Resolves.length_shallNodes (h : lists.Resolves) : lists.shallNodes.length = lists.shall.length :=
  length_deref h.shall

theorem Resolves.length_needNodes (h : lists.Resolves) : lists.needNodes.length = lists.need.length :=
  length_deref h.need

end

end Lists

end ExynosHal.Hdr
