import LogHarvest.Proofs.Java.Traversal
import Mathlib.Data.List.Forall2

/-!
# The order of a walk

The walk keeps a list of what is still to be visited and puts the children of a node before all of
it. What comes of that is the recursive traversal of the tree, parents first: a pending node stands
for the traversal from there on, and a round of the walk takes one node off the front of the first.
There are as many rounds as nodes.

Every node has a place, which says to which child to go at each step from the root. The traversal
meets the places in lexicographic order, and so each of them once. What is said about nodes one by
one keeps that order.
-/

namespace LogHarvest.Java.Located

variable {l m : Located}

theorem size_lt_of_mem_inner (h : m ∈ l.inner) : m.tree.size < l.tree.size := by
  obtain ⟨before, after, hinner⟩ := List.append_of_mem h
  rw [size_eq_total_inner l, hinner, total_append, total]
  omega

/-! ### The recursive traversal -/

/-- A node and what is below it, in the order of the recursive traversal. -/
def preorder (l : Located) : List Located :=
  l :: l.inner.attach.flatMap fun m => preorder m.1
termination_by l.tree.size
decreasing_by exact size_lt_of_mem_inner m.2

theorem preorder_eq (l : Located) : l.preorder = l :: l.inner.flatMap preorder := by
  rw [preorder, List.flatMap_subtype fun _ _ => rfl, List.unattach_attach]

section Visit

variable {fuel : Nat} {pending : List Located}

/-- A pending node stands for the traversal from there on. -/
theorem visit_eq_preorder (h : total pending ≤ fuel) :
    visit fuel pending = pending.flatMap preorder := by
  induction fuel generalizing pending with
  | zero =>
      cases pending with
      | nil => rfl
      | cons l pending => exact absurd h (Nat.not_le_of_gt (total_cons_pos l pending))
  | succ fuel ih =>
      cases pending with
      | nil => rfl
      | cons l pending =>
          rw [visit, ih (total_inner_append_le h), List.flatMap_append, List.flatMap_cons,
            preorder_eq, List.cons_append]

/-- What is still to be visited after some rounds. -/
def pendingAfter : (rounds : Nat) → List Located → List Located
  | 0, pending => pending
  | _ + 1, [] => []
  | rounds + 1, l :: pending => pendingAfter rounds (l.inner ++ pending)

/-- Some rounds of the walk and then the others. -/
theorem visit_add (rounds fuel : Nat) (pending : List Located) :
    visit (rounds + fuel) pending =
      visit rounds pending ++ visit fuel (pendingAfter rounds pending) := by
  induction rounds generalizing pending with
  | zero => rw [Nat.zero_add, visit, List.nil_append, pendingAfter]
  | succ rounds ih =>
      rw [Nat.succ_add]
      cases pending with
      | nil => cases fuel <;> rfl
      | cons l pending => rw [visit, ih, visit, List.cons_append, pendingAfter]

/-- The walk has nothing left to do after as many rounds as there are nodes, and not before. -/
theorem pendingAfter_eq_nil_iff {rounds : Nat} :
    pendingAfter rounds pending = [] ↔ total pending ≤ rounds := by
  induction rounds generalizing pending with
  | zero =>
      cases pending with
      | nil => simp [pendingAfter, total]
      | cons l pending =>
          have hpos := total_cons_pos l pending
          exact iff_of_false (by simp [pendingAfter]) (by omega)
  | succ rounds ih =>
      cases pending with
      | nil => simp [pendingAfter, total]
      | cons l pending =>
          have htotal : total (l :: pending) = total (l.inner ++ pending) + 1 := by
            rw [total, size_eq_total_inner, total_append]
            omega
          rw [pendingAfter, ih, htotal, Nat.add_le_add_iff_right]

end Visit

theorem all_eq_preorder (t : Tree) : all t = preorder ⟨t, []⟩ := by
  have htotal : total [⟨t, []⟩] ≤ t.size := by simp [total]
  rw [all, visit_eq_preorder htotal, List.flatMap_singleton]

/-! ### Places -/

/-- The node at a place, which gives the numbers of the children on the way there. -/
def at? (l : Located) : (place : List Nat) → Option Located
  | [] => some l
  | i :: place => l.inner[i]?.bind fun m => m.at? place

/-- A node and what is below it, each with its place. -/
def placed (l : Located) : List (List Nat × Located) :=
  ([], l) :: l.inner.zipIdx.attach.flatMap fun m =>
    (placed m.1.1).map fun p => (m.1.2 :: p.1, p.2)
termination_by l.tree.size
decreasing_by exact size_lt_of_mem_inner (List.fst_mem_of_mem_zipIdx m.2)

theorem placed_eq (l : Located) :
    l.placed = ([], l) :: l.inner.zipIdx.flatMap fun m =>
      m.1.placed.map fun p => (m.2 :: p.1, p.2) := by
  rw [placed, List.flatMap_subtype (g := fun m => m.1.placed.map fun p => (m.2 :: p.1, p.2))
    fun _ _ => rfl, List.unattach_attach]

/-- The places come in the order of the traversal. -/
theorem map_snd_placed (l : Located) : l.placed.map Prod.snd = l.preorder := by
  induction l using preorder.induct with
  | case1 l ih =>
      have hinner : ∀ m ∈ l.inner.zipIdx,
          (m.1.placed.map fun p => (m.2 :: p.1, p.2)).map Prod.snd = m.1.preorder := by
        intro m hm
        rw [List.map_map, ← ih ⟨m.1, List.fst_mem_of_mem_zipIdx hm⟩]
        rfl
      rw [placed_eq, preorder_eq, List.map_cons, List.map_flatMap, List.flatMap_congr hinner,
        ← List.flatMap_map Prod.fst preorder, List.zipIdx_map_fst]

/-- A place is met with the node there, if there is one. -/
theorem mem_placed_iff {place : List Nat} : (place, m) ∈ l.placed ↔ l.at? place = some m := by
  induction place generalizing l with
  | nil =>
      rw [placed_eq]
      simp [at?, eq_comm]
  | cons i place ih =>
      rw [placed_eq]
      simp [at?, List.mem_zipIdx_iff_getElem?, ih, Option.bind_eq_some_iff]

theorem mem_preorder_iff : m ∈ l.preorder ↔ ∃ place, l.at? place = some m := by
  simp [← map_snd_placed, mem_placed_iff]

/-- Places are met in lexicographic order. -/
theorem pairwise_placed (l : Located) : (l.placed.map Prod.fst).Pairwise (· < ·) := by
  induction l using preorder.induct with
  | case1 l ih =>
      have hnumbers : l.inner.zipIdx.Pairwise fun m n => m.2 < n.2 := by
        rw [← List.pairwise_map (R := (· < ·)) (f := Prod.snd), List.zipIdx_map_snd]
        exact List.pairwise_lt_range'
      have hplaces (m : Located × Nat) :
          (m.1.placed.map fun p => (m.2 :: p.1, p.2)).map Prod.fst =
            (m.1.placed.map Prod.fst).map (m.2 :: ·) := by
        rw [List.map_map, List.map_map]
        rfl
      simp only [placed_eq l, List.map_cons, List.map_flatMap, hplaces, List.pairwise_cons,
        List.pairwise_flatMap]
      refine ⟨?root, ?below, ?between⟩
      case root =>
        intro place hplace
        obtain ⟨m, -, hplace⟩ := List.mem_flatMap.1 hplace
        obtain ⟨rest, -, rfl⟩ := List.mem_map.1 hplace
        exact List.nil_lt_cons _ _
      case below =>
        intro m hm
        have hm := List.fst_mem_of_mem_zipIdx hm
        refine List.pairwise_map.2 ((ih ⟨m.1, hm⟩).imp ?_)
        intro place place' hlt
        exact List.cons_lt_cons_iff.2 (.inr ⟨rfl, hlt⟩)
      case between =>
        refine hnumbers.imp ?_
        intro m n hlt place hplace place' hplace'
        obtain ⟨rest, -, rfl⟩ := List.mem_map.1 hplace
        obtain ⟨rest', -, rfl⟩ := List.mem_map.1 hplace'
        exact List.cons_lt_cons_iff.2 (.inl hlt)

/-- What is below a node has later places. -/
theorem lt_append_cons (place : List Nat) (i : Nat) (rest : List Nat) :
    place < place ++ i :: rest := by
  have hlt : place ++ [] < place ++ i :: rest := List.append_left_lt (List.nil_lt_cons i rest)
  rwa [List.append_nil] at hlt

/-- What is below a child has earlier places than what is below a later child. -/
theorem append_cons_lt (place : List Nat) {i j : Nat} (hlt : i < j) (rest rest' : List Nat) :
    place ++ i :: rest < place ++ j :: rest' :=
  List.append_left_lt (List.cons_lt_cons_iff.2 (.inl hlt))

/-! ### What is below a root -/

theorem at?_append (l : Located) (place rest : List Nat) :
    l.at? (place ++ rest) = (l.at? place).bind fun m => m.at? rest := by
  induction place generalizing l with
  | nil => rfl
  | cons i place ih =>
      rw [List.cons_append, at?, at?, Option.bind_assoc]
      exact congrArg _ (funext ih)

section Below

variable {root : Tree}

theorem Below.at? (hl : Below root l) {place : List Nat} (h : l.at? place = some m) :
    Below root m := by
  induction place generalizing l with
  | nil =>
      obtain rfl := Option.some.inj h
      exact hl
  | cons i place ih =>
      obtain ⟨next, hnext, hrest⟩ := Option.bind_eq_some_iff.1 h
      exact ih (hl.inner (List.mem_of_getElem? hnext)) hrest

/-- The nodes below a root are those at its places. -/
theorem below_iff_exists_at : Below root m ↔ ∃ place, Located.at? ⟨root, []⟩ place = some m := by
  constructor
  · intro h
    induction h with
    | root => exact ⟨[], rfl⟩
    | inner outer hm ih =>
        obtain ⟨place, hplace⟩ := ih
        obtain ⟨i, hi⟩ := List.mem_iff_getElem?.1 hm
        refine ⟨place ++ [i], ?_⟩
        rw [at?_append, hplace, Option.bind_some, Located.at?, hi]
        rfl
  · rintro ⟨place, hplace⟩
    exact Below.root.at? hplace

/-- The nodes of a tree are the root and what is below it. -/
theorem mem_all_iff : l ∈ all root ↔ Below root l := by
  rw [all_eq_preorder, mem_preorder_iff, below_iff_exists_at]

theorem mem_ofKind_iff {kinds : Kind → Bool} :
    l ∈ ofKind kinds root ↔ Below root l ∧ kinds l.tree.kind = true := by
  rw [ofKind, List.mem_filter, mem_all_iff]

end Below

/-! ### One entry for each node -/

/-- A list has one entry for each node with a property, in the order of the places. -/
def EachOnce {α : Type} (root : Located) (p : Located → Prop) (entry : Located → α → Prop)
    (entries : List α) : Prop :=
  ∃ places : List (List Nat), places.Pairwise (· < ·) ∧
    (∀ place, place ∈ places ↔ ∃ l, root.at? place = some l ∧ p l) ∧
    List.Forall₂ (fun place e => ∃ l, root.at? place = some l ∧ entry l e) places entries

/-- The nodes that pass a test, in the order of the traversal. -/
theorem eachOnce_filter_preorder (root : Located) (p : Located → Bool) :
    EachOnce root (fun l => p l = true) Eq (root.preorder.filter p) := by
  refine ⟨(root.placed.filter fun m => p m.2).map Prod.fst, ?sorted, ?mem, ?entries⟩
  case sorted =>
    exact root.pairwise_placed.sublist (List.filter_sublist.map Prod.fst)
  case mem =>
    intro place
    simp [mem_placed_iff]
  case entries =>
    rw [← map_snd_placed, List.filter_map, List.forall₂_map_left_iff, List.forall₂_map_right_iff]
    refine List.forall₂_same.2 ?_
    intro m hm
    exact ⟨m.2, mem_placed_iff.1 (List.mem_filter.1 hm).1, rfl⟩

/-- What an entry says of its node may be weakened to what follows from it for nodes that are
there. -/
theorem EachOnce.imp {α : Type} {root : Located} {p : Located → Prop}
    {entry entry' : Located → α → Prop} {entries : List α} (h : EachOnce root p entry entries)
    (himp : ∀ place l e, root.at? place = some l → entry l e → entry' l e) :
    EachOnce root p entry' entries := by
  obtain ⟨places, hsorted, hmem, hentries⟩ := h
  refine ⟨places, hsorted, hmem, hentries.imp ?_⟩
  rintro place e ⟨l, hat, he⟩
  exact ⟨l, hat, himp place l e hat he⟩

/-- What is said about each node of a list instead of the node. -/
theorem EachOnce.of_forall₂ {α : Type} {root : Located} {p : Located → Prop}
    {entry : Located → α → Prop} {ls : List Located} {entries : List α}
    (h : EachOnce root p Eq ls) (hentries : List.Forall₂ entry ls entries) :
    EachOnce root p entry entries := by
  obtain ⟨places, hsorted, hmem, hls⟩ := h
  refine ⟨places, hsorted, hmem, ?_⟩
  clear hsorted hmem
  induction hls generalizing entries with
  | nil =>
      cases hentries
      exact .nil
  | cons hl hls ih =>
      obtain ⟨l, hat, rfl⟩ := hl
      cases hentries with
      | cons he hentries => exact .cons ⟨l, hat, he⟩ (ih hentries)

end LogHarvest.Java.Located
