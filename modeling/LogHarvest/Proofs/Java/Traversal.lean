import LogHarvest.Java.Traversal

/-!
# The nodes of a tree

A node below a root is known with the nodes around it, which are the path to it from the root. So
each of them is below the root as well, with the rest of the path around it. A walk has fuel for as
many nodes as there are below those that are still to be visited, and a visit uses up one.
-/

namespace LogHarvest.Java.Located

/-- A node below a root or the root itself, with the nodes on the way to it. -/
inductive Below (root : Tree) : Located → Prop
  | root : Below root ⟨root, []⟩
  | inner {l m : Located} (outer : Below root l) (h : m ∈ l.inner) : Below root m

variable {root : Tree} {l m : Located}

/-! ### The path to a node -/

/-- Each of the nodes around a node is on the path to it, below the rest of that path. -/
theorem Below.outward (h : Below root l) {before after : List Tree} {t : Tree}
    (haround : l.around = before ++ t :: after) : Below root ⟨t, after⟩ := by
  induction h generalizing before with
  | root => simp at haround
  | @inner l m outer hm ih =>
      obtain ⟨c, -, rfl⟩ := List.mem_map.1 hm
      cases before with
      | nil =>
          obtain ⟨rfl, rfl⟩ := List.cons.inj haround
          exact outer
      | cons b before => exact ih (List.cons.inj haround).2

theorem Below.exists_of_mem_around (h : Below root l) {t : Tree} (ht : t ∈ l.around) :
    ∃ after, Below root ⟨t, after⟩ := by
  obtain ⟨before, after, haround⟩ := List.append_of_mem ht
  exact ⟨after, h.outward haround⟩

/-! ### Numbers of nodes -/

/-- The number of nodes at and below some nodes. -/
def total : List Located → Nat
  | [] => 0
  | l :: pending => l.tree.size + total pending

theorem total_append (first second : List Located) :
    total (first ++ second) = total first + total second := by
  induction first with
  | nil => rw [List.nil_append, total, Nat.zero_add]
  | cons l first ih => rw [List.cons_append, total, total, ih, Nat.add_assoc]

/-- A node is one more than what is below it. -/
theorem size_eq_total_inner (l : Located) : l.tree.size = 1 + total l.inner := by
  obtain ⟨⟨kind, span, children⟩, around⟩ := l
  have hall (around : List Tree) (children : List (Role × Tree)) :
      Tree.sizeAll children = total (children.map fun c => ⟨c.2, around⟩) := by
    induction children with
    | nil => rfl
    | cons c children ih => rw [Tree.sizeAll, ih, List.map_cons, total]
  rw [Tree.size, hall]
  rfl

variable {fuel : Nat} {pending : List Located}

/-- What is left after one visit is within the fuel that is left. -/
theorem total_inner_append_le (h : total (l :: pending) ≤ fuel + 1) :
    total (l.inner ++ pending) ≤ fuel := by
  rw [total, size_eq_total_inner] at h
  rw [total_append]
  omega

theorem total_cons_pos (l : Located) (pending : List Located) : 0 < total (l :: pending) := by
  rw [total, size_eq_total_inner]
  omega

end LogHarvest.Java.Located
