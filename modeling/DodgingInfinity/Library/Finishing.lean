import Mathlib.Data.List.Chain
import Mathlib.Data.List.Nodup
import Mathlib.Logic.Relation

/-!
# The order a search finishes its nodes in

A list of nodes, the last finished first, in which every successor of a node
finished before it.  No node of such a list lies on a cycle.
-/

namespace DodgingInfinity

universe u

open Relation

variable {α : Type u} {r : α → α → Prop} {order : List α} {node next : α}

/-- Every successor of a node of the list comes after it. -/
def Finished (r : α → α → Prop) : List α → Prop
  | [] => True
  | node :: earlier =>
      (∀ next, r node next → next ∈ earlier) ∧ Finished r earlier

/-- A path that comes back to the node it starts from. -/
structure CyclicPath (r : α → α → Prop) (path : List α) : Prop where
  closed : ∃ node middle, path = node :: (middle ++ [node])
  linked : path.IsChain r

theorem Finished.next_mem (h : Finished r order) (hnode : node ∈ order)
    (hnext : r node next) : next ∈ order := by
  induction order with
  | nil => cases hnode
  | cons last earlier ih =>
      rcases List.mem_cons.mp hnode with rfl | hnode
      · exact List.mem_cons_of_mem _ (h.1 next hnext)
      · exact List.mem_cons_of_mem _ (ih h.2 hnode)

theorem Finished.reach_mem (h : Finished r order) (hnode : node ∈ order)
    (hreach : TransGen r node next) : next ∈ order := by
  induction hreach with
  | single hnext => exact h.next_mem hnode hnext
  | tail _ hnext ih => exact h.next_mem ih hnext

/-- No node of a finished list without repetitions reaches itself. -/
theorem Finished.acyclic (h : Finished r order) (hnodup : order.Nodup)
    (hnode : node ∈ order) : ¬ TransGen r node node := by
  induction order with
  | nil => cases hnode
  | cons last earlier ih =>
      rw [List.nodup_cons] at hnodup
      rcases List.mem_cons.mp hnode with rfl | hnode
      · intro hcycle
        obtain ⟨next, hnext, hback⟩ := TransGen.head'_iff.mp hcycle
        have hearlier := h.1 next hnext
        rcases reflTransGen_iff_eq_or_transGen.mp hback with heq | hback
        · exact hnodup.1 (heq ▸ hearlier)
        · exact hnodup.1 (h.2.reach_mem hearlier hback)
      · exact ih h.2 hnodup.2 hnode

/-- The first node of a linked path reaches every later one. -/
theorem reach_of_isChain {rest : List α} (h : (node :: rest).IsChain r)
    (hnext : next ∈ rest) : TransGen r node next := by
  induction rest generalizing node with
  | nil => cases hnext
  | cons second rest ih =>
      rw [List.isChain_cons_cons] at h
      rcases List.mem_cons.mp hnext with rfl | hnext
      · exact TransGen.single h.1
      · exact TransGen.head h.1 (ih h.2 hnext)

theorem CyclicPath.reach {path : List α} (h : CyclicPath r path) :
    ∃ node, TransGen r node node := by
  obtain ⟨⟨node, middle, rfl⟩, hlinked⟩ := h
  exact ⟨node, reach_of_isChain hlinked (by simp)⟩

/-- From a node of a linked path on, the path closes when its last node leads
back to that node. -/
theorem cyclicPath_of_isChain [DecidableEq α] {path : List α}
    (hlinked : (path ++ [node]).IsChain r) (hnode : node ∈ path) :
    CyclicPath r (path.dropWhile (fun name => name ≠ node) ++ [node]) := by
  constructor
  · induction path with
    | nil => cases hnode
    | cons first rest ih =>
        by_cases hfirst : first = node
        · subst hfirst
          exact ⟨first, rest, by simp⟩
        · rw [List.dropWhile_cons_of_pos (by simpa using hfirst)]
          rw [List.cons_append] at hlinked
          exact ih hlinked.tail ((List.mem_cons.mp hnode).resolve_left (Ne.symm hfirst))
  · obtain ⟨dropped, hpath⟩ := List.dropWhile_suffix (l := path) (fun name => name ≠ node)
    apply hlinked.suffix
    refine ⟨dropped, ?_⟩
    rw [← List.append_assoc, hpath]

end DodgingInfinity
